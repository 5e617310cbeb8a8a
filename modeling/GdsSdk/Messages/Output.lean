import GdsSdk.Messages.ConnectionGrammar
import GdsSdk.Messages.Data.Classes
import GdsSdk.Messages.Message
import GdsSdk.MsgPack.Standard
import GdsSdk.MsgPack.Whole

/-!
# The output of the encoder

The headers of arrays and maps are written before their parts, by code that is apart from the
code that writes the parts: the eleven elements of a message before its header and its data part,
and the sizes of a login request and of a query request from the presence of their optional
fields.  `MessageManager.getBinaryFromMessage_wellFormed` says that they are right in every binary:
it is one complete value, an array of the ten fields of the header and of one value for the data
part.
-/

namespace Gds

open MsgPack Formatter

/-! ## The formatters that are written by hand -/

/-- A login request is written as an array whose declared size is right. -/
lemma ConnectionDataTypeFormatter.serialize_wellFormed {d : ConnectionData} {ws : List WriteOp}
    (h : serialize d = .ok ws) : ∃ v : Value, written ws = v.elements := by
  obtain ⟨l, hl⟩ := written_serialize h
  refine ⟨.array l.values, ?_⟩
  rw [hl, Value.elements, l.listElements_values, l.length_values]

lemma ConnectionAckTypeDataFormatter.formatter_wellFormed :
    ConnectionAckTypeDataFormatter.formatter.WellFormed := by
  rintro (_ | a) ws hws
  · cases hws
  simp only [formatter, serialize] at hws
  cases hs : a.successAckTypeData with
  | some d =>
    rw [hs] at hws
    exact ConnectionDataTypeFormatter.serialize_wellFormed hws
  | none =>
    rw [hs] at hws
    cases hr : a.unauthorizedAckTypeData with
    | some r =>
      rw [hr] at hws
      exact reasons_closed wellFormed_closed _ _ hws
    | none =>
      rw [hr] at hws
      cases hws
      exact ⟨.nil, rfl⟩

lemma EventDocumentAckResultFormatter.formatter_wellFormed :
    EventDocumentAckResultFormatter.formatter.WellFormed := by
  rintro (_ | r) ws hws
  · cases hws
  · cases hws
    refine ⟨.array [.integer r.status.code.toInt, ofString r.notification, .map []], ?_⟩
    simp [Value.elements, Value.listElements, Value.entryElements, elements_ofString]

/-- A query request is written as an array whose declared size is right, with or without its
options. -/
lemma QueryRequestFormatter.serialize_wellFormed (q : QueryRequestData) :
    ∃ v : Value, written (serialize q) = v.elements := by
  unfold serialize
  split
  · next pageSize type _ _ =>
    refine ⟨.array [ofString q.selectStringBlock, ofString (some q.consistencyType.text),
      .integer q.timeout.toInt, .integer pageSize.toInt, .integer type.code.toInt], ?_⟩
    simp [Value.elements, Value.listElements, elements_ofString]
  · refine ⟨.array [ofString q.selectStringBlock, ofString (some q.consistencyType.text),
      .integer q.timeout.toInt], ?_⟩
    simp [Value.elements, Value.listElements, elements_ofString]

/-! ## Messages -/

/-- A data part that is written is one complete value. -/
theorem MessageFormatter.serializeData_wellFormed {d : MessageData} {ws : List WriteOp}
    (h : serializeData d = .ok ws) : ∃ v : Value, written ws = v.elements := by
  cases d with
  | connection d => exact ConnectionDataTypeFormatter.serialize_wellFormed h
  | connectionAck d =>
    exact ConnectionAckData.formatter_closed wellFormed_closed
      ConnectionAckTypeDataFormatter.formatter_wellFormed _ _ h
  | event d => exact EventData.formatter_closed wellFormed_closed _ _ h
  | eventAck d => cases h
  | attachmentRequest d => exact AttachmentRequestData.formatter_closed wellFormed_closed _ _ h
  | attachmentRequestAck d =>
    exact AttachmentRequestAckData.formatter_closed wellFormed_closed _ _ h
  | attachmentResponse d => exact AttachmentResponseData.formatter_closed wellFormed_closed _ _ h
  | attachmentResponseAck d =>
    exact AttachmentResponseAckData.formatter_closed wellFormed_closed _ _ h
  | eventDocument d => exact EventDocument.formatter_closed wellFormed_closed _ _ h
  | eventDocumentAck d =>
    exact EventDocumentAck.formatter_closed wellFormed_closed
      EventDocumentAckResultFormatter.formatter_wellFormed _ _ h
  | queryRequest d =>
    cases h
    exact QueryRequestFormatter.serialize_wellFormed d
  | queryRequestAck d => cases h
  | nextQueryPageRequest d =>
    exact NextQueryPageRequestData.formatter_closed wellFormed_closed _ _ h

/-- The values of the ten fields of a header in their order. -/
def MessageHeader.values (h : MessageHeader) : List Value :=
  [ofString h.userName, ofString h.messageId, .integer h.createTime.toInt,
    .integer h.requestTime.toInt, .boolean h.isFragmented,
    h.firstFragment.elim .nil .boolean, h.lastFragment.elim .nil .boolean,
    h.offset.elim .nil fun n => .integer n.toInt,
    h.fullDataSize.elim .nil fun n => .integer n.toInt, .integer h.dataType.code.toInt]

/-- The elements of a header are those of its values. -/
lemma MessageHeader.listElements_values (h : MessageHeader) :
    Value.listElements h.values = written (MessageHeaderFormatter.serialize h) := by
  have hbool : ∀ b : Option Bool, (b.elim Value.nil .boolean).elements =
      [(MsgPackUtils.writeNullableBool b).toElement] := by
    intro b
    cases b <;> rfl
  have hint : ∀ n : Option Int32, (n.elim Value.nil fun n => .integer n.toInt).elements =
      [(MsgPackUtils.writeNullableInt n).toElement] := by
    intro n
    cases n <;> rfl
  simp [values, MessageHeaderFormatter.serialize, Value.listElements, Value.elements,
    elements_ofString, hbool, hint]

/-- A message that is written is an array of the values of its header and the value of its data
part. -/
lemma MessageFormatter.written_serialize {m : Message} {ws : List WriteOp}
    (h : serialize m = .ok ws) :
    ∃ d dataWs v, m.data = some d ∧ serializeData d = .ok dataWs ∧ written dataWs = v.elements ∧
      written ws = (Value.array (m.header.values ++ [v])).elements := by
  unfold serialize at h
  cases hdata : m.data with
  | none =>
    rw [hdata] at h
    cases h
  | some d =>
    rw [hdata] at h
    simp only [bind_eq_ok] at h
    obtain ⟨dataWs, hd, ⟨⟩⟩ := h
    obtain ⟨v, hv⟩ := serializeData_wellFormed hd
    refine ⟨d, dataWs, v, rfl, hd, hv, ?_⟩
    rw [Value.elements, listElements_append, m.header.listElements_values, listElements_singleton,
      ← hv, written_cons, written_append]
    rfl

/-- In a message that is written every header has its parts. -/
lemma MessageFormatter.covered_serialize {m : Message} {ws : List WriteOp}
    (h : serialize m = .ok ws) : Covered (written ws) := by
  obtain ⟨d, dataWs, v, -, -, -, hwritten⟩ := written_serialize h
  rw [hwritten]
  exact covered_elements _

namespace MessageManager

/-- A binary is the encoding of one complete value: an array of eleven values, the ten fields of
the header and what is written for the data part. -/
theorem getBinaryFromMessage_wellFormed {F : WireFormat} {m : Message} {b : List UInt8}
    (hb : getBinaryFromMessage F m = .ok b) :
    ∃ d dataWs v ws, m.data = some d ∧ MessageFormatter.serializeData d = .ok dataWs ∧
      written dataWs = v.elements ∧ F.encodeAll ws = some b ∧
        (m.header.values ++ [v]).length = 11 ∧
          written ws = (Value.array (m.header.values ++ [v])).elements := by
  obtain ⟨ws, hws, henc⟩ := getBinaryFromMessage_eq_ok.mp hb
  obtain ⟨d, dataWs, v, hd, hdata, hv, hwritten⟩ := MessageFormatter.written_serialize hws
  exact ⟨d, dataWs, v, ws, hd, hdata, hv, henc, rfl, hwritten⟩

/-- A login request with a cluster name and a password in the concrete byte format. -/
theorem getBinaryFromMessage_wellFormed_connection :
    let h : MessageHeader := ⟨some "u", none, 5, -7, true, some true, none, some 0, none, ⟨0⟩⟩
    let c : ConnectionData := ⟨some "c", true, 3, false, none, some [.string "p"]⟩
    let b : List UInt8 := [155, 161, 117, 192, 5, 249, 195, 195, 192, 0, 192, 0, 150, 161, 99, 195,
      210, 0, 0, 0, 3, 194, 192, 145, 161, 112]
    ∃ d dataWs v ws, some (MessageData.connection c) = some d ∧
      MessageFormatter.serializeData d = .ok dataWs ∧ written dataWs = v.elements ∧
        standard.encodeAll ws = some b ∧ (h.values ++ [v]).length = 11 ∧
          written ws = (Value.array (h.values ++ [v])).elements :=
  getBinaryFromMessage_wellFormed (F := standard)
    (m := getMessage ⟨some "u", none, 5, -7, true, some true, none, some 0, none, ⟨0⟩⟩
      (some (.connection ⟨some "c", true, 3, false, none, some [.string "p"]⟩))) (by decide)

end MessageManager

end Gds
