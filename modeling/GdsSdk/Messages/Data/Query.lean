import GdsSdk.Messages.Data.Event

/-!
# Queries

A query request has a formatter of its own, which writes the page size and the query type only
if both are given.  The acknowledgement of a query and the request for its next page, which
hands the query context back, are described by their keys.
-/

namespace Gds

open MsgPack

/-- The consistency of a query.  Its code may be any 32-bit integer. -/
structure ConsistencyType where
  code : Int32
  deriving DecidableEq

namespace ConsistencyType

def page : ConsistencyType := ⟨0⟩
def pages : ConsistencyType := ⟨1⟩
def none : ConsistencyType := ⟨2⟩

/-- The text of a type: its name, or the code of an undefined one. -/
def text (t : ConsistencyType) : String :=
  if t = page then "PAGE"
  else if t = pages then "PAGES"
  else if t = none then "NONE"
  else toString t.code.toInt

/-- The type of a name, in upper or lower case. -/
def ofName (name : List Char) : Option ConsistencyType :=
  let upper := name.map Char.toUpper
  if upper = ['P', 'A', 'G', 'E'] then some page
  else if upper = ['P', 'A', 'G', 'E', 'S'] then some pages
  else if upper = ['N', 'O', 'N', 'E'] then some none
  else Option.none

/-- A text without the blanks around it. -/
def trim (s : List Char) : List Char :=
  ((s.dropWhile Char.isWhitespace).reverse.dropWhile Char.isWhitespace).reverse

/-- The number that a text of digits denotes. -/
def digits : List Char → ℕ → Option ℕ
  | [], n => some n
  | c :: cs, n => if c.isDigit then digits cs (10 * n + (c.toNat - '0'.toNat)) else Option.none

/-- A number with an optional sign. -/
def ofNumber : List Char → Option ℤ
  | '-' :: c :: cs => (fun n : ℕ => -(n : ℤ)) <$> digits (c :: cs) 0
  | '+' :: c :: cs => Int.ofNat <$> digits (c :: cs) 0
  | c :: cs => Int.ofNat <$> digits (c :: cs) 0
  | [] => Option.none

/-- Parse the text of a type: a number, or names separated by commas, whose codes are then
combined. -/
def parse (s : String) : Option ConsistencyType :=
  match ofNumber (trim s.toList) with
  | some n => if -2 ^ 31 ≤ n ∧ n < 2 ^ 31 then some ⟨Int32.ofInt n⟩ else Option.none
  | Option.none => do
    let types ← (s.toList.splitOn ',').mapM fun name => ofName (trim name)
    return ⟨types.foldl (fun code t => code ||| t.code) 0⟩

end ConsistencyType

/-- How the pages of a query are served.  Its code may be any 32-bit integer. -/
structure QueryType where
  code : Int32
  deriving DecidableEq

/-- The data of a query request. -/
structure QueryRequestData where
  selectStringBlock : Option String
  consistencyType : ConsistencyType
  timeout : Int64
  queryPageSize : Option Int32
  queryType : Option QueryType
  deriving DecidableEq

namespace QueryRequestFormatter

/-- The two optional fields are written together or not at all. -/
def serialize (value : QueryRequestData) : List WriteOp :=
  match value.queryPageSize, value.queryType with
  | some pageSize, some type =>
    [.arrayHeader 5, .string value.selectStringBlock, .string (some value.consistencyType.text),
      .int64 value.timeout, .integer pageSize.toInt, .integer type.code.toInt]
  | _, _ =>
    [.arrayHeader 3, .string value.selectStringBlock, .string (some value.consistencyType.text),
      .int64 value.timeout]

/-- A request of any other size than five has no query type, which is cast all the same. -/
def deserialize : Reader QueryRequestData := do
  let size ← Reader.readArrayHeader
  let select ← Reader.readString
  let consistency ← Reader.readString
  match consistency with
  | none => throw .argumentNull
  | some text =>
    match ConsistencyType.parse text with
    | none => throw (.format "Requested value was not found.")
    | some consistency => do
      let timeout ← Reader.readInt64
      if size = 5 then
        let pageSize ← Reader.readInt32
        let type ← Reader.readInt32
        return ⟨select, consistency, timeout, some pageSize, some ⟨type⟩⟩
      else
        throw (.invalidOperation "Nullable object must have a value.")

end QueryRequestFormatter

/-- A node of the system. -/
structure GDSDescriptor where
  clusterName : Option String
  nodeName : Option String
  deriving DecidableEq

namespace GDSDescriptor

def fields : Fields (Option String × Option String × Unit) :=
  .cons .string none <| .cons .string none .nil

def formatter : Formatter (Option GDSDescriptor) :=
  .keyed fields (fun d => (d.clusterName, d.nodeName, ()))
    (fun (clusterName, nodeName, _) => ⟨clusterName, nodeName⟩)

lemma formatter_exact : formatter.Exact := by
  refine Formatter.keyed_exact ?_ fun _ => rfl
  refine Fields.cons_exact Formatter.string_exact ?_
  exact Fields.cons_exact Formatter.string_exact Fields.nil_roundTrips

end GDSDescriptor

/-- Where a query stands between two of its pages. -/
structure QueryContextDescriptor where
  id : Option String
  query : Option String
  deliveredNumberOfHits : Int64
  queryStartTime : Int64
  consistencyType : Option String
  lastBucketId : Option String
  gdsDescriptor : Option GDSDescriptor
  fieldValues : Option (List Value)
  partitionNames : Option (List (Option String))

namespace QueryContextDescriptor

def fields : Fields (Option String × Option String × Int64 × Int64 × Option String ×
    Option String × Option GDSDescriptor × Option (List Value) × Option (List (Option String)) ×
    Unit) :=
  .cons .string none <| .cons .string none <| .cons .int64 0 <| .cons .int64 0 <|
    .cons .string none <| .cons .string none <| .cons GDSDescriptor.formatter none <|
    .cons (.list .object) none <| .cons (.list .string) none .nil

def formatter : Formatter (Option QueryContextDescriptor) :=
  .keyed fields
    (fun d => (d.id, d.query, d.deliveredNumberOfHits, d.queryStartTime, d.consistencyType,
      d.lastBucketId, d.gdsDescriptor, d.fieldValues, d.partitionNames, ()))
    (fun (id, query, delivered, startTime, consistency, bucket, gds, values, partitions, _) =>
      ⟨id, query, delivered, startTime, consistency, bucket, gds, values, partitions⟩)

/-- A query context is read back unchanged. -/
theorem formatter_exact : formatter.Exact := by
  refine Formatter.keyed_exact ?_ fun _ => rfl
  refine Fields.cons_exact Formatter.string_exact ?_
  refine Fields.cons_exact Formatter.string_exact ?_
  refine Fields.cons_exact Formatter.int64_exact ?_
  refine Fields.cons_exact Formatter.int64_exact ?_
  refine Fields.cons_exact Formatter.string_exact ?_
  refine Fields.cons_exact Formatter.string_exact ?_
  refine Fields.cons_exact GDSDescriptor.formatter_exact ?_
  refine Fields.cons_exact objects_exact ?_
  exact Fields.cons_exact strings_exact Fields.nil_roundTrips

end QueryContextDescriptor

/-- The payload of the acknowledgement of a query: one page of its hits. -/
structure QueryRequestAckTypeData where
  numberOfHits : Int64
  numberOfFilteredHits : Int64
  hasMorePage : Bool
  queryContextDescriptor : Option QueryContextDescriptor
  fieldDescriptors : Option (List (Option FieldDescriptor))
  records : Option (List (Option (List Value)))
  numberOfTotalHits : Int64

namespace QueryRequestAckTypeData

def fields : Fields (Int64 × Int64 × Bool × Option QueryContextDescriptor ×
    Option (List (Option FieldDescriptor)) × Option (List (Option (List Value))) × Int64 ×
    Unit) :=
  .cons .int64 0 <| .cons .int64 0 <| .cons .boolean false <|
    .cons QueryContextDescriptor.formatter none <|
    .cons (.list FieldDescriptor.formatter) none <| .cons (.list (.list .object)) none <|
    .cons .int64 0 .nil

def formatter : Formatter (Option QueryRequestAckTypeData) :=
  .keyed fields
    (fun d => (d.numberOfHits, d.numberOfFilteredHits, d.hasMorePage, d.queryContextDescriptor,
      d.fieldDescriptors, d.records, d.numberOfTotalHits, ()))
    (fun (hits, filtered, more, context, descriptors, records, total, _) =>
      ⟨hits, filtered, more, context, descriptors, records, total⟩)

lemma formatter_exact : formatter.Exact := by
  refine Formatter.keyed_exact ?_ fun _ => rfl
  refine Fields.cons_exact Formatter.int64_exact ?_
  refine Fields.cons_exact Formatter.int64_exact ?_
  refine Fields.cons_exact Formatter.boolean_exact ?_
  refine Fields.cons_exact QueryContextDescriptor.formatter_exact ?_
  refine Fields.cons_exact (Formatter.list_exact FieldDescriptor.formatter_exact) ?_
  refine Fields.cons_exact (Formatter.list_exact objects_exact) ?_
  exact Fields.cons_exact Formatter.int64_exact Fields.nil_roundTrips

end QueryRequestAckTypeData

/-- The acknowledgement of a query. -/
structure QueryRequestAckData where
  status : StatusCode
  ackData : Option QueryRequestAckTypeData
  exception : Option String

namespace QueryRequestAckData

def fields : Fields (StatusCode × Option QueryRequestAckTypeData × Option String × Unit) :=
  .cons StatusCode.formatter ⟨0⟩ <| .cons QueryRequestAckTypeData.formatter none <|
    .cons .string none .nil

def formatter : Formatter (Option QueryRequestAckData) :=
  .keyed fields (fun d => (d.status, d.ackData, d.exception, ()))
    (fun (status, ackData, exception, _) => ⟨status, ackData, exception⟩)

/-- The acknowledgement of a query is read back unchanged. -/
theorem formatter_exact : formatter.Exact := by
  refine Formatter.keyed_exact ?_ fun _ => rfl
  refine Fields.cons_exact StatusCode.formatter_exact ?_
  refine Fields.cons_exact QueryRequestAckTypeData.formatter_exact ?_
  exact Fields.cons_exact Formatter.string_exact Fields.nil_roundTrips

end QueryRequestAckData

/-- The request for the next page of a query. -/
structure NextQueryPageRequestData where
  queryContextDescriptor : Option QueryContextDescriptor
  timeout : Int64

namespace NextQueryPageRequestData

def fields : Fields (Option QueryContextDescriptor × Int64 × Unit) :=
  .cons QueryContextDescriptor.formatter none <| .cons .int64 0 .nil

def formatter : Formatter (Option NextQueryPageRequestData) :=
  .keyed fields (fun d => (d.queryContextDescriptor, d.timeout, ()))
    (fun (context, timeout, _) => ⟨context, timeout⟩)

/-- The request for the next page is read back unchanged. -/
theorem formatter_exact : formatter.Exact := by
  refine Formatter.keyed_exact ?_ fun _ => rfl
  refine Fields.cons_exact QueryContextDescriptor.formatter_exact ?_
  exact Fields.cons_exact Formatter.int64_exact Fields.nil_roundTrips

end NextQueryPageRequestData

end Gds
