import GdsSdk.Messages.Data.Connection
import GdsSdk.Messages.Data.Query

/-!
# Messages

A message is a header and a data part of one of thirteen kinds.  `MessageFormatter` writes the
header flat into an array of eleven elements and dispatches on the kind of the data part, on the
way out by the data itself and on the way in by the type that the header announces.
`MessageManager` puts the formatter between messages and their binaries.
-/

namespace Gds

open MsgPack

/-- The data part of a message. -/
inductive MessageData where
  | connection (d : ConnectionData)
  | connectionAck (d : ConnectionAckData)
  | event (d : EventData)
  | eventAck (d : EventAckData)
  | attachmentRequest (d : AttachmentRequestData)
  | attachmentRequestAck (d : AttachmentRequestAckData)
  | attachmentResponse (d : AttachmentResponseData)
  | attachmentResponseAck (d : AttachmentResponseAckData)
  | eventDocument (d : EventDocument)
  | eventDocumentAck (d : EventDocumentAck)
  | queryRequest (d : QueryRequestData)
  | queryRequestAck (d : QueryRequestAckData)
  | nextQueryPageRequest (d : NextQueryPageRequestData)

/-- The type that a header has to announce for a data part. -/
def MessageData.getDataType : MessageData → DataType
  | connection _ => .connection
  | connectionAck _ => .connectionAck
  | event _ => .event
  | eventAck _ => .eventAck
  | attachmentRequest _ => .attachmentRequest
  | attachmentRequestAck _ => .attachmentRequestAck
  | attachmentResponse _ => .attachmentResponse
  | attachmentResponseAck _ => .attachmentResponseAck
  | eventDocument _ => .eventDocument
  | eventDocumentAck _ => .eventDocumentAck
  | queryRequest _ => .queryRequest
  | queryRequestAck _ => .queryRequestAck
  | nextQueryPageRequest _ => .nextQueryPageRequest

/-- A message.  The data part of a decoded message is null where nil stood in its place. -/
structure Message where
  header : MessageHeader
  data : Option MessageData

namespace MessageFormatter

/-- The elements of a data part. -/
def serializeData : MessageData → Except WriteError (List WriteOp)
  | .connection d => ConnectionDataTypeFormatter.serialize d
  | .connectionAck d => ConnectionAckData.formatter.serialize (some d)
  | .event d => EventData.formatter.serialize (some d)
  | .eventAck _ => throw (.invalidOperation
      "'EventAck' Message Data Type cannot be serlaized by client")
  | .attachmentRequest d => AttachmentRequestData.formatter.serialize d
  | .attachmentRequestAck d => AttachmentRequestAckData.formatter.serialize (some d)
  | .attachmentResponse d => AttachmentResponseData.formatter.serialize (some d)
  | .attachmentResponseAck d => AttachmentResponseAckData.formatter.serialize (some d)
  | .eventDocument d => EventDocument.formatter.serialize (some d)
  | .eventDocumentAck d => EventDocumentAck.formatter.serialize (some d)
  | .queryRequest d => return QueryRequestFormatter.serialize d
  | .queryRequestAck _ => throw (.invalidOperation
      "'QueryRequestAck' Message Data Type cannot be serlaized by client")
  | .nextQueryPageRequest d => NextQueryPageRequestData.formatter.serialize (some d)

/-- The elements of a message.  A message without data has no type to dispatch on. -/
def serialize (value : Message) : Except WriteError (List WriteOp) :=
  match value.data with
  | none => throw .nullReference
  | some data => do
    let ws ← serializeData data
    return .arrayHeader 11 :: (MessageHeaderFormatter.serialize value.header ++ ws)

/-- Read a data part of the announced type. -/
def deserializeData (type : DataType) : Reader (Option MessageData) :=
  if type = .connection then
    Option.map .connection <$> ConnectionDataTypeFormatter.deserialize
  else if type = .connectionAck then
    Option.map .connectionAck <$> ConnectionAckData.formatter.deserialize
  else if type = .event then
    throw (.invalidOperation "'Event' Message Data Type cannot be deserlaized by client")
  else if type = .eventAck then
    Option.map .eventAck <$> EventAckData.formatter.deserialize
  else if type = .attachmentRequest then
    (some ∘ .attachmentRequest) <$> AttachmentRequestData.formatter.deserialize
  else if type = .attachmentRequestAck then
    Option.map .attachmentRequestAck <$> AttachmentRequestAckData.formatter.deserialize
  else if type = .attachmentResponse then
    Option.map .attachmentResponse <$> AttachmentResponseData.formatter.deserialize
  else if type = .attachmentResponseAck then
    Option.map .attachmentResponseAck <$> AttachmentResponseAckData.formatter.deserialize
  else if type = .eventDocument then
    Option.map .eventDocument <$> EventDocument.formatter.deserialize
  else if type = .eventDocumentAck then
    Option.map .eventDocumentAck <$> EventDocumentAck.formatter.deserialize
  else if type = .queryRequest then
    throw (.invalidOperation "'QueryRequest' Message Data Type cannot be deserlaized by client")
  else if type = .queryRequestAck then
    Option.map .queryRequestAck <$> QueryRequestAckData.formatter.deserialize
  else if type = .nextQueryPageRequest then
    throw (.invalidOperation
      "'NextQueryPageRequest' Message Data Type cannot be deserlaized by client")
  else
    throw (.invalidOperation ("Unknown Data Type: " ++ type.text))

def deserialize : Reader Message := do
  let _ ← Reader.readArrayHeader
  let header ← MessageHeaderFormatter.deserialize
  let data ← deserializeData header.dataType
  return ⟨header, data⟩

/-- Reading a message whose data part is known to be readable. -/
lemma reads_of_data {header : MessageHeader} {ws : List WriteOp} {data : Option MessageData}
    (h : Reads (deserializeData header.dataType) (written ws) data) :
    Reads deserialize (written (.arrayHeader 11 :: (MessageHeaderFormatter.serialize header ++ ws)))
      ⟨header, data⟩ := by
  rw [written_cons, written_append]
  refine (Reads.readArrayHeader 11).bind_cons ?_
  refine (MessageHeaderFormatter.reads_serialize header).bind ?_
  exact h.map (Message.mk header)

end MessageFormatter

/-- The exception of the serializer, which wraps whatever a formatter throws. -/
inductive MessagePackSerializationException where
  /-- A formatter failed to write. -/
  | write (cause : WriteError)
  /-- A length does not fit its length field. -/
  | length
  /-- A formatter failed to read. -/
  | read (cause : ReadError)
  deriving DecidableEq

namespace MessageManager

variable (F : WireFormat)

def getMessage (header : MessageHeader) (data : Option MessageData) : Message := ⟨header, data⟩

/-- The binary of a message. -/
def getBinaryFromMessage (message : Message) :
    Except MessagePackSerializationException (List UInt8) :=
  match MessageFormatter.serialize message with
  | .error e => throw (.write e)
  | .ok ws =>
    match F.encodeAll ws with
    | none => throw .length
    | some b => return b

/-- The message at the front of a binary. -/
def getMessageFromBinary (message : List UInt8) :
    Except MessagePackSerializationException Message :=
  match MessageFormatter.deserialize.run (F.elements message) with
  | .error e => throw (.read e)
  | .ok (m, _) => return m

/-- The header of a message that is not fragmented.  The identifier and the two times are those
that the system hands out. -/
def getHeader (userName : Option String) (messageID : Option String) (newGuid : String)
    (createTime requestTime : Int64) (dataType : DataType) : MessageHeader where
  userName := userName
  messageId := some (messageID.getD newGuid)
  createTime := createTime
  requestTime := requestTime
  isFragmented := false
  firstFragment := none
  lastFragment := none
  offset := none
  fullDataSize := none
  dataType := dataType

/-- A login request without cluster name, whose only reserved field is the password. -/
def getConnectionData (serveOnTheSameConnection : Bool) (protocolVersionNumber : Int32)
    (fragmentationSupported : Bool) (fragmentationTransmissionUnit : Option Int32)
    (password : Option String) : ConnectionData where
  clusterName := none
  serveOnTheSameConnection := serveOnTheSameConnection
  protocolVersionNumber := protocolVersionNumber
  fragmentationSupported := fragmentationSupported
  fragmentationTransmissionUnit := fragmentationTransmissionUnit.map Int32.toInt64
  reservedFields := some [ConnectionDataTypeFormatter.toObject password]

/-- An event without priorities has the empty priority structure. -/
def getEventData (operationsStringBlock : Option String)
    (binaryContentsMapping : Option (Dictionary String (Option (List UInt8))))
    (executionPriorityStructure :
      Option (List (Option (List (Option (Dictionary Int32 Bool)))))) : EventData where
  operationsStringBlock := operationsStringBlock
  binaryContentsMapping := binaryContentsMapping
  executionPriorityStructure := some (executionPriorityStructure.getD [])

def getAttachmentRequestData (request : Option String) : AttachmentRequestData := ⟨request⟩

def getAttachmentRequestAckData (status : StatusCode)
    (ackData : Option AttachmentRequestAckTypeData) (exception : Option String) :
    AttachmentRequestAckData := ⟨status, ackData, exception⟩

def getAttachmentResponseData (result : Option AttachmentResult) : AttachmentResponseData :=
  ⟨result⟩

def getAttachmentResponseAckData (status : StatusCode)
    (ackData : Option AttachmentResponseAckTypeData) (exception : Option String) :
    AttachmentResponseAckData := ⟨status, ackData, exception⟩

def getEventDocumentData (tableName : Option String)
    (fieldDescriptors : Option (List (Option FieldDescriptor)))
    (records : Option (List (Option (List Value)))) : EventDocument :=
  ⟨tableName, fieldDescriptors, records⟩

def getEventDocumentAckData (status : StatusCode)
    (ackData : Option (List (Option EventDocumentAckResult))) (exception : Option String) :
    EventDocumentAck := ⟨status, ackData, exception⟩

def getQueryRequest (selectStringBlock : Option String) (consistencyType : ConsistencyType)
    (timeout : Int64) (queryPageSize : Option Int32) (queryType : Option QueryType) :
    QueryRequestData := ⟨selectStringBlock, consistencyType, timeout, queryPageSize, queryType⟩

def getNextQueryPageRequest (queryContextDescriptor : Option QueryContextDescriptor)
    (timeout : Int64) : NextQueryPageRequestData := ⟨queryContextDescriptor, timeout⟩

variable {F}

/-- The binary of a message is that of its elements. -/
lemma getBinaryFromMessage_eq_ok {m : Message} {b : List UInt8} :
    getBinaryFromMessage F m = .ok b ↔
      ∃ ws, MessageFormatter.serialize m = .ok ws ∧ F.encodeAll ws = some b := by
  unfold getBinaryFromMessage
  cases MessageFormatter.serialize m with
  | error e => simp
  | ok ws =>
    cases henc : F.encodeAll ws with
    | none => simp [henc]
    | some b' => simp [henc, Pure.pure, Except.pure]

/-- A binary of elements that the formatter reads as a message decodes to that message. -/
lemma getMessageFromBinary_of_reads {ws : List WriteOp} {b : List UInt8} {m : Message}
    (hc : Covered (written ws)) (hb : F.encodeAll ws = some b)
    (h : Reads MessageFormatter.deserialize (written ws) m) :
    getMessageFromBinary F b = .ok m := by
  have hrun : MessageFormatter.deserialize.run (F.elements b) = .ok (m, []) := by
    rw [F.elements_encodeAll hc hb, ← List.append_nil (written ws)]
    exact h []
  rw [getMessageFromBinary, hrun]
  rfl

end MessageManager

end Gds
