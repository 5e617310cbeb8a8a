import GdsSdk.MsgPack.Runs

/-!
# Message headers

The enumerations that travel as integers, the header of a message, and its formatter, which
writes the ten fields flat into the array of the message.
-/

namespace Gds

open MsgPack

/-- What a message carries.  The code of a decoded message may be any 32-bit integer. -/
structure DataType where
  code : Int32
  deriving DecidableEq

namespace DataType

def connection : DataType := ⟨0⟩
def connectionAck : DataType := ⟨1⟩
def event : DataType := ⟨2⟩
def eventAck : DataType := ⟨3⟩
def attachmentRequest : DataType := ⟨4⟩
def attachmentRequestAck : DataType := ⟨5⟩
def attachmentResponse : DataType := ⟨6⟩
def attachmentResponseAck : DataType := ⟨7⟩
def eventDocument : DataType := ⟨8⟩
def eventDocumentAck : DataType := ⟨9⟩
def queryRequest : DataType := ⟨10⟩
def queryRequestAck : DataType := ⟨11⟩
def nextQueryPageRequest : DataType := ⟨12⟩

/-- The text of a type in an error message: its name, or the code of an undefined one. -/
def text (t : DataType) : String :=
  if t = connection then "Connection"
  else if t = connectionAck then "ConnectionAck"
  else if t = event then "Event"
  else if t = eventAck then "EventAck"
  else if t = attachmentRequest then "AttachmentRequest"
  else if t = attachmentRequestAck then "AttachmentRequestAck"
  else if t = attachmentResponse then "AttachmentResponse"
  else if t = attachmentResponseAck then "AttachmentResponseAck"
  else if t = eventDocument then "EventDocument"
  else if t = eventDocumentAck then "EventDocumentAck"
  else if t = queryRequest then "QueryRequest"
  else if t = queryRequestAck then "QueryRequestAck"
  else if t = nextQueryPageRequest then "NextQueryPageRequest"
  else toString t.code.toInt

end DataType

/-- The status of an acknowledgement.  Any 32-bit integer may be received. -/
structure StatusCode where
  code : Int32
  deriving DecidableEq

namespace StatusCode

def ok : StatusCode := ⟨200⟩
def created : StatusCode := ⟨201⟩
def unauthorized : StatusCode := ⟨401⟩

/-- An enumeration travels as its underlying integer. -/
def formatter : Formatter StatusCode where
  serialize s := Formatter.int32.serialize s.code
  deserialize := StatusCode.mk <$> Reader.readInt32

lemma formatter_exact : formatter.Exact := by
  rintro ⟨n⟩ ws hws
  exact (Formatter.int32_exact n ws hws).map StatusCode.mk

end StatusCode

namespace MsgPackUtils

def writeNullableBool : Option Bool → WriteOp
  | some b => .boolean b
  | none => .nil

def readNullableBool : Reader (Option Bool) := Reader.orNil Reader.readBoolean

def writeNullableInt : Option Int32 → WriteOp
  | some n => .integer n.toInt
  | none => .nil

def readNullableInt : Reader (Option Int32) := Reader.orNil Reader.readInt32

lemma reads_nullableBool (b : Option Bool) :
    Reads readNullableBool [(writeNullableBool b).toElement] b :=
  match b with
  | none => Reads.orNil_nil
  | some b => Reads.orNil_some (by simp [writeNullableBool]) (Reads.readBoolean b)

lemma reads_nullableInt (n : Option Int32) :
    Reads readNullableInt [(writeNullableInt n).toElement] n :=
  match n with
  | none => Reads.orNil_nil
  | some n => Reads.orNil_some (by simp [writeNullableInt]) (Reads.readInt32 n)

/-- A nullable boolean was read from the element that is written for it. -/
lemma run_readNullableBool_eq_ok {es rest : List Element} {b : Option Bool} :
    readNullableBool.run es = .ok (b, rest) ↔ es = (writeNullableBool b).toElement :: rest := by
  rw [readNullableBool, Reader.run_orNil_eq_ok]
  constructor
  · rintro (⟨rfl, rfl⟩ | ⟨_, _, b, -, -, rfl, h⟩)
    · rfl
    · exact Reader.run_readBoolean_eq_ok.mp h
  · rintro rfl
    cases b with
    | none => exact .inl ⟨rfl, rfl⟩
    | some b => exact .inr ⟨_, _, b, rfl, by simp [writeNullableBool], rfl, rfl⟩

/-- A nullable integer was read from the element that is written for it. -/
lemma run_readNullableInt_eq_ok {es rest : List Element} {n : Option Int32} :
    readNullableInt.run es = .ok (n, rest) ↔ es = (writeNullableInt n).toElement :: rest := by
  rw [readNullableInt, Reader.run_orNil_eq_ok]
  constructor
  · rintro (⟨rfl, rfl⟩ | ⟨_, _, n, -, -, rfl, h⟩)
    · rfl
    · exact Reader.run_readInt32_eq_ok.mp h
  · rintro rfl
    cases n with
    | none => exact .inl ⟨rfl, rfl⟩
    | some n => exact .inr ⟨_, _, n, rfl, by simp [writeNullableInt], rfl,
        Reader.run_readInt32_eq_ok.mpr rfl⟩

end MsgPackUtils

/-- The header of a message. -/
structure MessageHeader where
  userName : Option String
  messageId : Option String
  createTime : Int64
  requestTime : Int64
  isFragmented : Bool
  firstFragment : Option Bool
  lastFragment : Option Bool
  offset : Option Int32
  fullDataSize : Option Int32
  dataType : DataType
  deriving DecidableEq

namespace MessageHeaderFormatter

open MsgPackUtils

/-- The ten fields of a header, without an array header of their own. -/
def serialize (value : MessageHeader) : List WriteOp :=
  [.string value.userName,
    .string value.messageId,
    .integer value.createTime.toInt,
    .integer value.requestTime.toInt,
    .boolean value.isFragmented,
    writeNullableBool value.firstFragment,
    writeNullableBool value.lastFragment,
    writeNullableInt value.offset,
    writeNullableInt value.fullDataSize,
    .integer value.dataType.code.toInt]

def deserialize : Reader MessageHeader := do
  let userName ← Reader.readString
  let messageId ← Reader.readString
  let createTime ← Reader.readInt64
  let requestTime ← Reader.readInt64
  let isFragmented ← Reader.readBoolean
  let firstFragment ← readNullableBool
  let lastFragment ← readNullableBool
  let offset ← readNullableInt
  let fullDataSize ← readNullableInt
  let dataType ← Reader.readInt32
  return ⟨userName, messageId, createTime, requestTime, isFragmented, firstFragment,
    lastFragment, offset, fullDataSize, ⟨dataType⟩⟩

/-- A header is read back from the ten elements that were written for it. -/
theorem reads_serialize (h : MessageHeader) : Reads deserialize (written (serialize h)) h := by
  refine (Reads.readString h.userName).bind_cons ?_
  refine (Reads.readString h.messageId).bind_cons ?_
  refine (Reads.readInt64 h.createTime).bind_cons ?_
  refine (Reads.readInt64 h.requestTime).bind_cons ?_
  refine (Reads.readBoolean h.isFragmented).bind_cons ?_
  refine (reads_nullableBool h.firstFragment).bind_cons ?_
  refine (reads_nullableBool h.lastFragment).bind_cons ?_
  refine (reads_nullableInt h.offset).bind_cons ?_
  refine (reads_nullableInt h.fullDataSize).bind_cons ?_
  exact (Reads.readInt32 h.dataType.code).bind_cons (Reads.pure h)

/-- A header was read exactly from the ten elements that are written for it. -/
theorem run_deserialize_eq_ok {es rest : List Element} {h : MessageHeader} :
    deserialize.run es = .ok (h, rest) ↔ es = written (serialize h) ++ rest := by
  constructor
  · intro hread
    simp only [deserialize, Reader.run_bind_eq_ok, Reader.run_readString_eq_ok,
      Reader.run_readInt64_eq_ok, Reader.run_readInt32_eq_ok, Reader.run_readBoolean_eq_ok,
      run_readNullableBool_eq_ok, run_readNullableInt_eq_ok, Reader.run_pure_eq_ok] at hread
    obtain ⟨_, _, rfl, _, _, rfl, _, _, rfl, _, _, rfl, _, _, rfl, _, _, rfl, _, _, rfl, _, _, rfl,
      _, _, rfl, _, _, rfl, rfl, rfl⟩ := hread
    rfl
  · rintro rfl
    exact reads_serialize h rest

end MessageHeaderFormatter

end Gds
