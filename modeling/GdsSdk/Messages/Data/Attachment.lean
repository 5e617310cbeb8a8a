import GdsSdk.Messages.Header

/-!
# Attachment requests, responses and their acknowledgements

The request has a formatter of its own; the other classes are described by their keys, and the
two result classes travel as maps from their field names.
-/

namespace Gds

open MsgPack

/-- The data of an attachment request: its SELECT statement. -/
structure AttachmentRequestData where
  request : Option String
  deriving DecidableEq

namespace AttachmentRequestData

def formatter : Formatter AttachmentRequestData where
  serialize value := return [.string value.request]
  deserialize := AttachmentRequestData.mk <$> Reader.readString

lemma formatter_exact : formatter.Exact := by
  rintro ⟨request⟩ ws ⟨⟩
  exact (Reads.readString request).map AttachmentRequestData.mk

end AttachmentRequestData

/-- The description of an attachment. -/
structure AttachmentResult where
  requestids : Option (List (Option String))
  ownertable : Option String
  attachmentid : Option String
  ownerids : Option (List (Option String))
  metaDescriptor : Option String
  ttl : Option Int64
  to_valid : Option Int64
  attachment : Option (List UInt8)
  deriving DecidableEq

namespace AttachmentResult

/-- The fields under their names. -/
def fields : NamedFields (Option (List (Option String)) × Option String × Option String ×
    Option (List (Option String)) × Option String × Option Int64 × Option Int64 ×
    Option (List UInt8) × Unit) :=
  .cons "requestids" (.list .string) none <|
  .cons "ownertable" .string none <|
  .cons "attachmentid" .string none <|
  .cons "ownerids" (.list .string) none <|
  .cons "meta" .string none <|
  .cons "ttl" (.nullable .int64) none <|
  .cons "to_valid" (.nullable .int64) none <|
  .cons "attachment" .bytes none .nil

def formatter : Formatter (Option AttachmentResult) :=
  .named fields
    (fun r => (r.requestids, r.ownertable, r.attachmentid, r.ownerids, r.metaDescriptor, r.ttl,
      r.to_valid, r.attachment, ()))
    (fun (requestids, ownertable, attachmentid, ownerids, metaDescriptor, ttl, to_valid,
        attachment, _) =>
      ⟨requestids, ownertable, attachmentid, ownerids, metaDescriptor, ttl, to_valid,
        attachment⟩)

end AttachmentResult

/-- The payload of the acknowledgement of an attachment request. -/
structure AttachmentRequestAckTypeData where
  status : StatusCode
  result : Option AttachmentResult
  remainedWaitTimeMillis : Option Int64
  deriving DecidableEq

namespace AttachmentRequestAckTypeData

def fields : Fields (StatusCode × Option AttachmentResult × Option Int64 × Unit) :=
  .cons StatusCode.formatter ⟨0⟩ <| .cons AttachmentResult.formatter none <|
    .cons (.nullable .int64) none .nil

def formatter : Formatter (Option AttachmentRequestAckTypeData) :=
  .keyed fields (fun d => (d.status, d.result, d.remainedWaitTimeMillis, ()))
    (fun (status, result, remained, _) => ⟨status, result, remained⟩)

end AttachmentRequestAckTypeData

/-- The acknowledgement of an attachment request. -/
structure AttachmentRequestAckData where
  status : StatusCode
  ackData : Option AttachmentRequestAckTypeData
  exception : Option String
  deriving DecidableEq

namespace AttachmentRequestAckData

def fields : Fields (StatusCode × Option AttachmentRequestAckTypeData × Option String × Unit) :=
  .cons StatusCode.formatter ⟨0⟩ <| .cons AttachmentRequestAckTypeData.formatter none <|
    .cons .string none .nil

def formatter : Formatter (Option AttachmentRequestAckData) :=
  .keyed fields (fun d => (d.status, d.ackData, d.exception, ()))
    (fun (status, ackData, exception, _) => ⟨status, ackData, exception⟩)

end AttachmentRequestAckData

/-- An attachment that was not available when it was requested. -/
structure AttachmentResponseData where
  result : Option AttachmentResult
  deriving DecidableEq

namespace AttachmentResponseData

def fields : Fields (Option AttachmentResult × Unit) :=
  .cons AttachmentResult.formatter none .nil

def formatter : Formatter (Option AttachmentResponseData) :=
  .keyed fields (fun d => (d.result, ())) (fun (result, _) => ⟨result⟩)

end AttachmentResponseData

/-- Which attachment a response was about. -/
structure AttachmentResponseAckResult where
  requestids : Option (List (Option String))
  ownertable : Option String
  attachmentid : Option String
  deriving DecidableEq

namespace AttachmentResponseAckResult

def fields : NamedFields (Option (List (Option String)) × Option String × Option String × Unit) :=
  .cons "requestids" (.list .string) none <| .cons "ownertable" .string none <|
    .cons "attachmentid" .string none .nil

def formatter : Formatter (Option AttachmentResponseAckResult) :=
  .named fields (fun r => (r.requestids, r.ownertable, r.attachmentid, ()))
    (fun (requestids, ownertable, attachmentid, _) => ⟨requestids, ownertable, attachmentid⟩)

end AttachmentResponseAckResult

/-- The payload of the acknowledgement of an attachment response. -/
structure AttachmentResponseAckTypeData where
  status : StatusCode
  result : Option AttachmentResponseAckResult
  deriving DecidableEq

namespace AttachmentResponseAckTypeData

def fields : Fields (StatusCode × Option AttachmentResponseAckResult × Unit) :=
  .cons StatusCode.formatter ⟨0⟩ <| .cons AttachmentResponseAckResult.formatter none .nil

def formatter : Formatter (Option AttachmentResponseAckTypeData) :=
  .keyed fields (fun d => (d.status, d.result, ())) (fun (status, result, _) => ⟨status, result⟩)

end AttachmentResponseAckTypeData

/-- The acknowledgement of an attachment response. -/
structure AttachmentResponseAckData where
  status : StatusCode
  ackData : Option AttachmentResponseAckTypeData
  exception : Option String
  deriving DecidableEq

namespace AttachmentResponseAckData

def fields : Fields (StatusCode × Option AttachmentResponseAckTypeData × Option String × Unit) :=
  .cons StatusCode.formatter ⟨0⟩ <| .cons AttachmentResponseAckTypeData.formatter none <|
    .cons .string none .nil

def formatter : Formatter (Option AttachmentResponseAckData) :=
  .keyed fields (fun d => (d.status, d.ackData, d.exception, ()))
    (fun (status, ackData, exception, _) => ⟨status, ackData, exception⟩)

end AttachmentResponseAckData

/-! ## Round trips -/

/-- A list of strings is read back unchanged. -/
lemma strings_exact : (Formatter.list Formatter.string).Exact :=
  Formatter.list_exact Formatter.string_exact

/-- An optional 64-bit integer is read back unchanged. -/
lemma nullableInt64_exact : (Formatter.nullable Formatter.int64).Exact :=
  Formatter.nullable_exact Formatter.int64_exact Formatter.int64_neverNil

open NamedFields in
/-- The result of an attachment request is read back unchanged, since its names are distinct. -/
lemma AttachmentResult.formatter_exact : AttachmentResult.formatter.Exact := by
  have hfields : fields.Fills ∧ fields.Named := by
    refine cons_fills_named strings_exact ?_ (by decide)
    refine cons_fills_named Formatter.string_exact ?_ (by decide)
    refine cons_fills_named Formatter.string_exact ?_ (by decide)
    refine cons_fills_named strings_exact ?_ (by decide)
    refine cons_fills_named Formatter.string_exact ?_ (by decide)
    refine cons_fills_named nullableInt64_exact ?_ (by decide)
    refine cons_fills_named nullableInt64_exact ?_ (by decide)
    exact cons_fills_named Formatter.bytes_exact ⟨nil_fills, nil_named⟩ (by decide)
  exact Formatter.named_exact hfields.1 fun _ => rfl

lemma AttachmentRequestAckTypeData.formatter_exact :
    AttachmentRequestAckTypeData.formatter.Exact := by
  refine Formatter.keyed_exact ?_ fun _ => rfl
  refine Fields.cons_exact StatusCode.formatter_exact ?_
  refine Fields.cons_exact AttachmentResult.formatter_exact ?_
  exact Fields.cons_exact nullableInt64_exact Fields.nil_roundTrips

theorem AttachmentRequestAckData.formatter_exact : AttachmentRequestAckData.formatter.Exact := by
  refine Formatter.keyed_exact ?_ fun _ => rfl
  refine Fields.cons_exact StatusCode.formatter_exact ?_
  refine Fields.cons_exact AttachmentRequestAckTypeData.formatter_exact ?_
  exact Fields.cons_exact Formatter.string_exact Fields.nil_roundTrips

theorem AttachmentResponseData.formatter_exact : AttachmentResponseData.formatter.Exact :=
  Formatter.keyed_exact (Fields.cons_exact AttachmentResult.formatter_exact Fields.nil_roundTrips)
    fun _ => rfl

open NamedFields in
lemma AttachmentResponseAckResult.formatter_exact :
    AttachmentResponseAckResult.formatter.Exact := by
  have hfields : fields.Fills ∧ fields.Named := by
    refine cons_fills_named strings_exact ?_ (by decide)
    refine cons_fills_named Formatter.string_exact ?_ (by decide)
    exact cons_fills_named Formatter.string_exact ⟨nil_fills, nil_named⟩ (by decide)
  exact Formatter.named_exact hfields.1 fun _ => rfl

lemma AttachmentResponseAckTypeData.formatter_exact :
    AttachmentResponseAckTypeData.formatter.Exact := by
  refine Formatter.keyed_exact ?_ fun _ => rfl
  refine Fields.cons_exact StatusCode.formatter_exact ?_
  exact Fields.cons_exact AttachmentResponseAckResult.formatter_exact Fields.nil_roundTrips

theorem AttachmentResponseAckData.formatter_exact :
    AttachmentResponseAckData.formatter.Exact := by
  refine Formatter.keyed_exact ?_ fun _ => rfl
  refine Fields.cons_exact StatusCode.formatter_exact ?_
  refine Fields.cons_exact AttachmentResponseAckTypeData.formatter_exact ?_
  exact Fields.cons_exact Formatter.string_exact Fields.nil_roundTrips

end Gds
