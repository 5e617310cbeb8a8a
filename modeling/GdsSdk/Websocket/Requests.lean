import GdsSdk.Messages.Message

/-!
# The send methods

Besides `SendMessage`, which takes a header and a data part, the client has nine methods that
build the data part from their own parameters, and the header too unless they are given one.
All of them end in `SendMessage` with `SendRequest.arguments`.
-/

namespace Gds

open MessageManager

/-- What the system hands out while a header is built: a new identifier and the current time,
which is asked for twice. -/
structure Stamp where
  newGuid : String
  createTime : Int64
  requestTime : Int64
  deriving DecidableEq

/-- The parameters that the typed methods have in common: a message identifier, and a header to
use instead of a new one. -/
structure SendOptions where
  messageID : Option String
  header : Option MessageHeader
  deriving DecidableEq

/-- A call of one of the send methods. -/
inductive SendRequest where
  | message (header : Option MessageHeader) (data : Option MessageData)
  | event2 (operationsStringBlock : Option String)
      (binaryContentsMapping : Option (MsgPack.Dictionary String (Option (List UInt8))))
      (executionPriorityStructure :
        Option (List (Option (List (Option (MsgPack.Dictionary Int32 Bool))))))
      (options : SendOptions)
  | attachmentRequest4 (request : Option String) (options : SendOptions)
  | attachmentRequestACK5 (status : StatusCode) (ackData : Option AttachmentRequestAckTypeData)
      (exception : Option String) (options : SendOptions)
  | attachmentResponse6 (result : Option AttachmentResult) (options : SendOptions)
  | attachmentResponseAck7 (status : StatusCode)
      (ackData : Option AttachmentResponseAckTypeData) (exception : Option String)
      (options : SendOptions)
  | eventDocument8 (tableName : Option String)
      (fieldDescriptors : Option (List (Option FieldDescriptor)))
      (records : Option (List (Option (List MsgPack.Value)))) (options : SendOptions)
  | eventDocumentAck9 (status : StatusCode)
      (ackData : Option (List (Option EventDocumentAckResult))) (exception : Option String)
      (options : SendOptions)
  | queryRequest10 (selectStringBlock : Option String) (consistencyType : ConsistencyType)
      (timeout : Option Int64) (queryPageSize : Option Int32) (queryType : Option QueryType)
      (options : SendOptions)
  | nextQueryPageRequest12 (queryContextDescriptor : Option QueryContextDescriptor)
      (timeout : Int64) (options : SendOptions)

namespace SendRequest

/-- The header of a typed method: the given one, or a new one of the method's type. -/
def messageHeader (userName : String) (stamp : Stamp) (options : SendOptions) (type : DataType) :
    MessageHeader :=
  options.header.getD (getHeader (some userName) options.messageID stamp.newGuid
    stamp.createTime stamp.requestTime type)

/-- The header and the data part that a send method passes to `SendMessage`.  The timeout of a
query that has none is that of the client. -/
def arguments (userName : String) (clientTimeout : Int32) (stamp : Stamp) :
    SendRequest → Option MessageHeader × Option MessageData
  | message header data => (header, data)
  | event2 operations contents priority options =>
    (some (messageHeader userName stamp options .event),
      some (.event (getEventData operations contents priority)))
  | attachmentRequest4 request options =>
    (some (messageHeader userName stamp options .attachmentRequest),
      some (.attachmentRequest (getAttachmentRequestData request)))
  | attachmentRequestACK5 status ackData exception options =>
    (some (messageHeader userName stamp options .attachmentRequestAck),
      some (.attachmentRequestAck (getAttachmentRequestAckData status ackData exception)))
  | attachmentResponse6 result options =>
    (some (messageHeader userName stamp options .attachmentResponse),
      some (.attachmentResponse (getAttachmentResponseData result)))
  | attachmentResponseAck7 status ackData exception options =>
    (some (messageHeader userName stamp options .attachmentResponseAck),
      some (.attachmentResponseAck (getAttachmentResponseAckData status ackData exception)))
  | eventDocument8 tableName descriptors records options =>
    (some (messageHeader userName stamp options .eventDocument),
      some (.eventDocument (getEventDocumentData tableName descriptors records)))
  | eventDocumentAck9 status ackData exception options =>
    (some (messageHeader userName stamp options .eventDocumentAck),
      some (.eventDocumentAck (getEventDocumentAckData status ackData exception)))
  | queryRequest10 select consistency timeout pageSize type options =>
    (some (messageHeader userName stamp options .queryRequest),
      some (.queryRequest (getQueryRequest select consistency
        (timeout.getD clientTimeout.toInt64) pageSize type)))
  | nextQueryPageRequest12 context timeout options =>
    (some (messageHeader userName stamp options .nextQueryPageRequest),
      some (.nextQueryPageRequest (getNextQueryPageRequest context timeout)))

/-- The common parameters of a typed method. -/
def options : SendRequest → Option SendOptions
  | message _ _ => none
  | event2 _ _ _ o | attachmentRequest4 _ o | attachmentRequestACK5 _ _ _ o
  | attachmentResponse6 _ o | attachmentResponseAck7 _ _ _ o | eventDocument8 _ _ _ o
  | eventDocumentAck9 _ _ _ o | queryRequest10 _ _ _ _ _ o | nextQueryPageRequest12 _ _ o =>
    some o

/-- A typed method that is not given a header builds one that announces its data part. -/
theorem dataType_of_arguments {request : SendRequest} {o : SendOptions}
    (ho : request.options = some o) (hheader : o.header = none) (userName : String)
    (clientTimeout : Int32) (stamp : Stamp) :
    ∃ header data, request.arguments userName clientTimeout stamp = (some header, some data) ∧
      header.dataType = data.getDataType := by
  cases request with
  | message header data => cases ho
  | _ =>
    cases ho
    refine ⟨_, _, rfl, ?_⟩
    rw [messageHeader, hheader]
    rfl

end SendRequest

end Gds
