import GdsSdk.Messages.Output

/-!
# Round trips of messages

A message of a kind that can be both written and read is decoded from its own binary.  The
header comes back unchanged, and so does the data part of most kinds.  Of the reserved fields of a
login request only the password comes back, so that `MessageData.SameAs` compares the login requests
in two data parts by their other fields and the password.
-/

namespace Gds

open MsgPack

/-- Two acknowledgements of a login have the same status, reasons and exception, and login requests
that agree.  In particular the payload of both can be asked for. -/
structure ConnectionAckData.SameAs (d d' : ConnectionAckData) : Prop where
  status : d'.status = d.status
  successAckData : ∃ s s', d.successAckData = .ok s ∧ d'.successAckData = .ok s' ∧
    Option.Rel ConnectionData.SameAs s s'
  unauthorizedAckData : ∃ r, d.unauthorizedAckData = .ok r ∧ d'.unauthorizedAckData = .ok r
  exception : d'.exception = d.exception

/-- An acknowledgement carries a login request or the reasons of a rejection. -/
def ConnectionAckData.HasPayload (d : ConnectionAckData) : Prop :=
  ∃ a, d.ackData = some a ∧
    (a.successAckTypeData.isSome ∨ a.unauthorizedAckTypeData.isSome)

/-- Two data parts are of one kind and equal, but for the reserved fields besides the password of a
login request. -/
inductive MessageData.SameAs : MessageData → MessageData → Prop
  | connection {d d'} (h : d.SameAs d') : SameAs (.connection d) (.connection d')
  | connectionAck {d d'} (h : d.SameAs d') : SameAs (.connectionAck d) (.connectionAck d')
  | attachmentRequest (d) : SameAs (.attachmentRequest d) (.attachmentRequest d)
  | attachmentRequestAck (d) : SameAs (.attachmentRequestAck d) (.attachmentRequestAck d)
  | attachmentResponse (d) : SameAs (.attachmentResponse d) (.attachmentResponse d)
  | attachmentResponseAck (d) : SameAs (.attachmentResponseAck d) (.attachmentResponseAck d)
  | eventDocument (d) : SameAs (.eventDocument d) (.eventDocument d)
  | eventDocumentAck (d) : SameAs (.eventDocumentAck d) (.eventDocumentAck d)

/-- The kinds of data that the client can both write and read.  An acknowledgement of a login
must have a payload. -/
inductive MessageData.TwoWay : MessageData → Prop
  | connection (d) : TwoWay (.connection d)
  | connectionAck {d} (h : d.HasPayload) : TwoWay (.connectionAck d)
  | attachmentRequest (d) : TwoWay (.attachmentRequest d)
  | attachmentRequestAck (d) : TwoWay (.attachmentRequestAck d)
  | attachmentResponse (d) : TwoWay (.attachmentResponse d)
  | attachmentResponseAck (d) : TwoWay (.attachmentResponseAck d)
  | eventDocument (d) : TwoWay (.eventDocument d)
  | eventDocumentAck (d) : TwoWay (.eventDocumentAck d)

/-- Two data parts that agree have the same type. -/
lemma MessageData.SameAs.getDataType_eq {d d' : MessageData} (h : d.SameAs d') :
    d'.getDataType = d.getDataType := by
  cases h <;> rfl

/-- The password of a login request that could be written. -/
lemma ConnectionDataTypeFormatter.password_of_serialize {d : ConnectionData} {ws : List WriteOp}
    (h : serialize d = .ok ws) : ∃ password, d.password = .ok password := by
  simp only [serialize, bind_eq_ok] at h
  obtain ⟨password, hpassword, -⟩ := h
  exact ⟨password, hpassword⟩

/-- The payload of an acknowledgement that could be written. -/
lemma ConnectionAckData.serialize_ackData {d : ConnectionAckData} {ws : List WriteOp}
    (h : formatter.serialize (some d) = .ok ws) :
    ∃ ws', ConnectionAckTypeDataFormatter.serialize d.ackData = .ok ws' := by
  simp only [formatter, Formatter.keyed, fields, Fields.cons, bind_eq_ok] at h
  obtain ⟨_, ⟨_, _, _, ⟨ws', hws', _⟩, _⟩, _⟩ := h
  exact ⟨ws', hws'⟩

/-- An acknowledgement with a payload reaches its peer, but for the reserved fields besides the
password of its login request. -/
lemma ConnectionAckData.sameAs_received {d : ConnectionAckData} {ws : List WriteOp}
    (hd : d.HasPayload) (h : formatter.serialize (some d) = .ok ws) : d.SameAs d.received := by
  obtain ⟨ws', hws'⟩ := serialize_ackData h
  obtain ⟨a, ha, hpayload⟩ := hd
  have hsuccess : d.successAckData = .ok a.successAckTypeData := by
    rw [successAckData, ha]
    rfl
  have hunauthorized : d.unauthorizedAckData = .ok a.unauthorizedAckTypeData := by
    rw [unauthorizedAckData, ha]
    rfl
  rw [ha] at hws'
  cases hs : a.successAckTypeData with
  | some s =>
    -- a success: the other payload is absent on both sides
    simp only [ConnectionAckTypeDataFormatter.serialize, hs] at hws'
    obtain ⟨password, hpassword⟩ := ConnectionDataTypeFormatter.password_of_serialize hws'
    have hsame := ConnectionDataTypeFormatter.sameAs_received hpassword
    have hnone : a.unauthorizedAckTypeData = none := by
      rcases a.exclusive with hnone | hnone
      · rw [hs] at hnone
        cases hnone
      · exact hnone
    have hreceived : d.received.ackData =
        some (.ofSuccess (some (ConnectionDataTypeFormatter.received s))) := by
      simp [received, ha, ConnectionAckTypeDataFormatter.received, hs]
    refine ⟨rfl, ⟨some s, some (ConnectionDataTypeFormatter.received s), ?_, ?_, .some hsame⟩,
      ⟨none, ?_, ?_⟩, rfl⟩
    · rw [hsuccess, hs]
    · rw [successAckData, hreceived]
      rfl
    · rw [hunauthorized, hnone]
    · rw [unauthorizedAckData, hreceived]
      rfl
  | none =>
    -- a rejection: its reasons come back as they are
    obtain ⟨r, hr⟩ : ∃ r, a.unauthorizedAckTypeData = some r := by
      rw [hs] at hpayload
      simpa [Option.isSome_iff_exists] using hpayload
    have hreceived : d.received.ackData = some (.ofUnauthorized (some r)) := by
      simp [received, ha, ConnectionAckTypeDataFormatter.received, hs, hr]
    refine ⟨rfl, ⟨none, none, ?_, ?_, .none⟩, ⟨some r, ?_, ?_⟩, rfl⟩
    · rw [hsuccess, hs]
    · rw [successAckData, hreceived]
      rfl
    · rw [hunauthorized, hr]
    · rw [unauthorizedAckData, hreceived]
      rfl

/-- The data part of a kind that the client can write and read is read back, when its type is
announced, up to the reserved fields besides the password of a login request. -/
theorem MessageFormatter.reads_serializeData {d : MessageData} {ws : List WriteOp}
    (hd : d.TwoWay) (h : serializeData d = .ok ws) :
    ∃ d', d.SameAs d' ∧ Reads (deserializeData d.getDataType) (written ws) (some d') := by
  cases hd with
  | connection d =>
    obtain ⟨password, hpassword⟩ := ConnectionDataTypeFormatter.password_of_serialize h
    exact ⟨_, .connection (ConnectionDataTypeFormatter.sameAs_received hpassword),
      (ConnectionDataTypeFormatter.reads_serialize h).map (Option.map MessageData.connection)⟩
  | connectionAck hd =>
    exact ⟨_, .connectionAck (ConnectionAckData.sameAs_received hd h),
      (ConnectionAckData.formatter_roundTrips _ _ h).map (Option.map MessageData.connectionAck)⟩
  | attachmentRequest d =>
    exact ⟨_, .attachmentRequest d,
      (AttachmentRequestData.formatter_exact _ _ h).map (some ∘ MessageData.attachmentRequest)⟩
  | attachmentRequestAck d =>
    exact ⟨_, .attachmentRequestAck d,
      (AttachmentRequestAckData.formatter_exact _ _ h).map
        (Option.map MessageData.attachmentRequestAck)⟩
  | attachmentResponse d =>
    exact ⟨_, .attachmentResponse d,
      (AttachmentResponseData.formatter_exact _ _ h).map
        (Option.map MessageData.attachmentResponse)⟩
  | attachmentResponseAck d =>
    exact ⟨_, .attachmentResponseAck d,
      (AttachmentResponseAckData.formatter_exact _ _ h).map
        (Option.map MessageData.attachmentResponseAck)⟩
  | eventDocument d =>
    exact ⟨_, .eventDocument d,
      (EventDocument.formatter_exact _ _ h).map (Option.map MessageData.eventDocument)⟩
  | eventDocumentAck d =>
    exact ⟨_, .eventDocumentAck d,
      (EventDocumentAck.formatter_exact _ _ h).map (Option.map MessageData.eventDocumentAck)⟩

namespace MessageManager

variable {F : WireFormat}

/-- A message whose header announces its data part is decoded from its binary with the same
header and the same data part, but for the reserved fields besides the password of a login
request. -/
theorem getMessageFromBinary_getBinaryFromMessage {h : MessageHeader} {d : MessageData}
    {b : List UInt8} (htype : d.getDataType = h.dataType) (hd : d.TwoWay)
    (hb : getBinaryFromMessage F (getMessage h (some d)) = .ok b) :
    ∃ d', getMessageFromBinary F b = .ok ⟨h, some d'⟩ ∧ d'.getDataType = d.getDataType ∧
      d.SameAs d' := by
  obtain ⟨ws, hws, henc⟩ := getBinaryFromMessage_eq_ok.mp hb
  have hc := MessageFormatter.covered_serialize hws
  simp only [MessageFormatter.serialize, getMessage, bind_eq_ok] at hws
  obtain ⟨data, hdata, ⟨⟩⟩ := hws
  obtain ⟨d', hsame, hreads⟩ := MessageFormatter.reads_serializeData hd hdata
  rw [htype] at hreads
  exact ⟨d', getMessageFromBinary_of_reads hc henc (MessageFormatter.reads_of_data hreads),
    hsame.getDataType_eq, hsame⟩

/-- The rejection of a login in the concrete byte format, fragmented and with one reason. -/
theorem getMessageFromBinary_rejection :
    let h : MessageHeader := ⟨some "u", none, 5, -7, true, some true, none, some 0, none, ⟨1⟩⟩
    let d : MessageData := .connectionAck
      (.ofUnauthorized .unauthorized (some ⟨[(1, some "no")], by decide⟩) none)
    ∃ d', getMessageFromBinary standard [155, 161, 117, 192, 5, 249, 195, 195, 192, 0, 192, 1,
      147, 205, 1, 145, 129, 1, 162, 110, 111, 192] = .ok ⟨h, some d'⟩ ∧
      d'.getDataType = d.getDataType ∧ d.SameAs d' :=
  getMessageFromBinary_getBinaryFromMessage rfl (.connectionAck ⟨_, rfl, .inr rfl⟩) (by decide)

end MessageManager

end Gds
