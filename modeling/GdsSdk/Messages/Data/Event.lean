import GdsSdk.Messages.Data.Attachment
import GdsSdk.MsgPack.Value

/-!
# Events and event documents

The classes of an event, of its acknowledgement, of an event document and of its
acknowledgement.  Only the results in the acknowledgement of an event document have a formatter
of their own, which closes every result with an empty map.
-/

namespace Gds

open MsgPack

/-- A record of dynamically typed values is read back unchanged. -/
lemma objects_exact : (Formatter.list Formatter.object).Exact :=
  Formatter.list_exact Formatter.object_exact

/-- The description of a field of a table. -/
structure FieldDescriptor where
  fieldName : Option String
  fieldType : Option String
  mimeType : Option String
  deriving DecidableEq

namespace FieldDescriptor

def fields : Fields (Option String × Option String × Option String × Unit) :=
  .cons .string none <| .cons .string none <| .cons .string none .nil

def formatter : Formatter (Option FieldDescriptor) :=
  .keyed fields (fun d => (d.fieldName, d.fieldType, d.mimeType, ()))
    (fun (fieldName, fieldType, mimeType, _) => ⟨fieldName, fieldType, mimeType⟩)

lemma formatter_exact : formatter.Exact := by
  refine Formatter.keyed_exact ?_ fun _ => rfl
  refine Fields.cons_exact Formatter.string_exact ?_
  refine Fields.cons_exact Formatter.string_exact ?_
  exact Fields.cons_exact Formatter.string_exact Fields.nil_roundTrips

end FieldDescriptor

/-! ## Events -/

/-- The data of an event: its operations, the binary contents they refer to, and the order in
which they are executed. -/
structure EventData where
  operationsStringBlock : Option String
  binaryContentsMapping : Option (Dictionary String (Option (List UInt8)))
  executionPriorityStructure : Option (List (Option (List (Option (Dictionary Int32 Bool)))))

namespace EventData

def fields : Fields (Option String × Option (Dictionary String (Option (List UInt8))) ×
    Option (List (Option (List (Option (Dictionary Int32 Bool))))) × Unit) :=
  .cons .string none <| .cons (.dictionary .requiredString .bytes) none <|
    .cons (.list (.list (.dictionary .int32 .boolean))) none .nil

def formatter : Formatter (Option EventData) :=
  .keyed fields
    (fun d => (d.operationsStringBlock, d.binaryContentsMapping, d.executionPriorityStructure, ()))
    (fun (operations, contents, priority, _) => ⟨operations, contents, priority⟩)

/-- An event is read back unchanged. -/
theorem formatter_exact : formatter.Exact := by
  refine Formatter.keyed_exact ?_ fun _ => rfl
  refine Fields.cons_exact Formatter.string_exact ?_
  refine Fields.cons_exact
    (Formatter.dictionary_exact Formatter.requiredString_exact Formatter.bytes_exact) ?_
  have hpriority := Formatter.dictionary_exact Formatter.int32_exact Formatter.boolean_exact
  exact Fields.cons_exact (Formatter.list_exact (Formatter.list_exact hpriority))
    Fields.nil_roundTrips

end EventData

/-- The outcome of an operation on one record. -/
structure SubResult where
  subStatus : StatusCode
  id : Option String
  tableName : Option String
  created : Option Bool
  version : Option String
  returningRecordValues : Option (List Value)

namespace SubResult

def fields : Fields (StatusCode × Option String × Option String × Option Bool × Option String ×
    Option (List Value) × Unit) :=
  .cons StatusCode.formatter ⟨0⟩ <| .cons .string none <| .cons .string none <|
    .cons (.nullable .boolean) none <| .cons .string none <| .cons (.list .object) none .nil

def formatter : Formatter (Option SubResult) :=
  .keyed fields
    (fun r => (r.subStatus, r.id, r.tableName, r.created, r.version, r.returningRecordValues, ()))
    (fun (subStatus, id, tableName, created, version, returning, _) =>
      ⟨subStatus, id, tableName, created, version, returning⟩)

lemma formatter_exact : formatter.Exact := by
  refine Formatter.keyed_exact ?_ fun _ => rfl
  refine Fields.cons_exact StatusCode.formatter_exact ?_
  refine Fields.cons_exact Formatter.string_exact ?_
  refine Fields.cons_exact Formatter.string_exact ?_
  refine Fields.cons_exact
    (Formatter.nullable_exact Formatter.boolean_exact Formatter.boolean_neverNil) ?_
  refine Fields.cons_exact Formatter.string_exact ?_
  exact Fields.cons_exact objects_exact Fields.nil_roundTrips

end SubResult

/-- The outcome of one operation of an event. -/
structure OperationResponse where
  status : StatusCode
  notification : Option String
  fieldDescriptors : Option (List (Option FieldDescriptor))
  subResults : Option (List (Option SubResult))

namespace OperationResponse

def fields : Fields (StatusCode × Option String × Option (List (Option FieldDescriptor)) ×
    Option (List (Option SubResult)) × Unit) :=
  .cons StatusCode.formatter ⟨0⟩ <| .cons .string none <|
    .cons (.list FieldDescriptor.formatter) none <| .cons (.list SubResult.formatter) none .nil

def formatter : Formatter (Option OperationResponse) :=
  .keyed fields (fun r => (r.status, r.notification, r.fieldDescriptors, r.subResults, ()))
    (fun (status, notification, descriptors, results, _) =>
      ⟨status, notification, descriptors, results⟩)

lemma formatter_exact : formatter.Exact := by
  refine Formatter.keyed_exact ?_ fun _ => rfl
  refine Fields.cons_exact StatusCode.formatter_exact ?_
  refine Fields.cons_exact Formatter.string_exact ?_
  refine Fields.cons_exact (Formatter.list_exact FieldDescriptor.formatter_exact) ?_
  exact Fields.cons_exact (Formatter.list_exact SubResult.formatter_exact) Fields.nil_roundTrips

end OperationResponse

/-- The acknowledgement of an event. -/
structure EventAckData where
  status : StatusCode
  ackData : Option (List (Option OperationResponse))
  exception : Option String

namespace EventAckData

def fields : Fields (StatusCode × Option (List (Option OperationResponse)) × Option String ×
    Unit) :=
  .cons StatusCode.formatter ⟨0⟩ <| .cons (.list OperationResponse.formatter) none <|
    .cons .string none .nil

def formatter : Formatter (Option EventAckData) :=
  .keyed fields (fun d => (d.status, d.ackData, d.exception, ()))
    (fun (status, ackData, exception, _) => ⟨status, ackData, exception⟩)

/-- The acknowledgement of an event is read back unchanged. -/
theorem formatter_exact : formatter.Exact := by
  refine Formatter.keyed_exact ?_ fun _ => rfl
  refine Fields.cons_exact StatusCode.formatter_exact ?_
  refine Fields.cons_exact (Formatter.list_exact OperationResponse.formatter_exact) ?_
  exact Fields.cons_exact Formatter.string_exact Fields.nil_roundTrips

end EventAckData

/-! ## Event documents -/

/-- Records of a table.  The returning options of the class are private and always empty. -/
structure EventDocument where
  tableName : Option String
  fieldDescriptors : Option (List (Option FieldDescriptor))
  records : Option (List (Option (List Value)))

namespace EventDocument

/-- The returning options are written after the public fields, and read but not kept. -/
def fields : Fields (Option String × Option (List (Option FieldDescriptor)) ×
    Option (List (Option (List Value))) ×
    Option (Dictionary Int32 (Option (List (Option String)))) × Unit) :=
  .cons .string none <| .cons (.list FieldDescriptor.formatter) none <|
    .cons (.list (.list .object)) none <|
    .cons (.dictionary .int32 (.list .string)) none .nil

def formatter : Formatter (Option EventDocument) :=
  .keyed fields
    (fun d => (d.tableName, d.fieldDescriptors, d.records, some Dictionary.empty, ()))
    (fun (tableName, descriptors, records, _, _) => ⟨tableName, descriptors, records⟩)

/-- An event document is read back unchanged. -/
theorem formatter_exact : formatter.Exact := by
  refine Formatter.keyed_exact ?_ fun _ => rfl
  refine Fields.cons_exact Formatter.string_exact ?_
  refine Fields.cons_exact (Formatter.list_exact FieldDescriptor.formatter_exact) ?_
  refine Fields.cons_exact (Formatter.list_exact objects_exact) ?_
  exact Fields.cons_exact (Formatter.dictionary_exact Formatter.int32_exact strings_exact)
    Fields.nil_roundTrips

end EventDocument

/-- The outcome for one record of an event document. -/
structure EventDocumentAckResult where
  status : StatusCode
  notification : Option String
  deriving DecidableEq

namespace EventDocumentAckResultFormatter

/-- A null result has no members to write. -/
def serialize : Option EventDocumentAckResult → Except WriteError (List WriteOp)
  | none => throw .nullReference
  | some value =>
    return [.arrayHeader 3, .integer value.status.code.toInt, .string value.notification,
      .mapHeader 0]

/-- The declared sizes of the array and of the closing map are not looked at. -/
def deserialize : Reader (Option EventDocumentAckResult) := do
  let _ ← Reader.readArrayHeader
  let status ← Reader.readInt32
  let notification ← Reader.readString
  let _ ← Reader.readMapHeader
  return some ⟨⟨status⟩, notification⟩

def formatter : Formatter (Option EventDocumentAckResult) where
  serialize := serialize
  deserialize := deserialize

lemma formatter_exact : formatter.Exact := by
  rintro (_ | value) ws hws
  · simp [formatter, serialize] at hws
  · obtain ⟨⟩ := hws
    refine (Reads.readArrayHeader 3).bind_cons ?_
    refine (Reads.readInt32 value.status.code).bind_cons ?_
    refine (Reads.readString value.notification).bind_cons ?_
    exact (Reads.readMapHeader 0).bind_cons (Reads.pure _)

end EventDocumentAckResultFormatter

/-- The acknowledgement of an event document. -/
structure EventDocumentAck where
  status : StatusCode
  ackData : Option (List (Option EventDocumentAckResult))
  exception : Option String
  deriving DecidableEq

namespace EventDocumentAck

def fields : Fields (StatusCode × Option (List (Option EventDocumentAckResult)) × Option String ×
    Unit) :=
  .cons StatusCode.formatter ⟨0⟩ <| .cons (.list EventDocumentAckResultFormatter.formatter) none <|
    .cons .string none .nil

def formatter : Formatter (Option EventDocumentAck) :=
  .keyed fields (fun d => (d.status, d.ackData, d.exception, ()))
    (fun (status, ackData, exception, _) => ⟨status, ackData, exception⟩)

/-- The acknowledgement of an event document is read back unchanged. -/
theorem formatter_exact : formatter.Exact := by
  refine Formatter.keyed_exact ?_ fun _ => rfl
  refine Fields.cons_exact StatusCode.formatter_exact ?_
  refine Fields.cons_exact
    (Formatter.list_exact EventDocumentAckResultFormatter.formatter_exact) ?_
  exact Fields.cons_exact Formatter.string_exact Fields.nil_roundTrips

end EventDocumentAck

end Gds
