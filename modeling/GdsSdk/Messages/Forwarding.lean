import GdsSdk.Messages.AckPayload
import GdsSdk.Messages.AnnouncedData
import GdsSdk.MsgPack.Total

/-!
# Messages that are sent on

A program that stands between two peers receives a message and sends it on.  What it received may
have come from any other implementation, with fields left out, with fields that are not known here,
and with integers of any width; what it sends is its own encoding of what it has read.
`MessageManager.forwarded` says which of the received messages can be sent on, that they reach the
next peer as they are, but for reserved fields of a login request, and that the binary stays the
same on every further way.
-/

namespace Gds

open MsgPack

/-- The received data parts that can be sent on.  The acknowledgements of events and queries are
never written by a client, and neither is an acknowledgement of a login without payload. -/
def MessageData.isForwarded : MessageData → Bool
  | .eventAck _ | .queryRequestAck _ => false
  | .connectionAck d => d.ackData.isSome
  | _ => true

/-! ## What was read can be written -/

/-- A login request whose password can be read is written. -/
lemma ConnectionDataTypeFormatter.exists_serialize {d : ConnectionData} {password : Option String}
    (h : d.password = .ok password) : ∃ ws, serialize d = .ok ws :=
  ⟨_, bind_eq_ok.mpr ⟨password, h, rfl⟩⟩

/-- The password of a received login request can be read. -/
lemma ConnectionDataTypeFormatter.password_of_decoded {es rest : List Element} {d : ConnectionData}
    (h : deserialize.run es = .ok (some d, rest)) : ∃ password, d.password = .ok password := by
  have hread := h
  rw [deserialize, Reader.run_orNil_eq_ok] at h
  rcases h with ⟨-, h⟩ | ⟨_, _, _, -, -, -, h⟩
  · cases h
  rw [Reader.run_bind_eq_ok] at h
  obtain ⟨size, es', hsize, -⟩ := h
  rw [Reader.run_readArrayHeader_eq_ok] at hsize
  rw [hsize] at hread
  obtain ⟨-, -, l, -, hd, -⟩ := run_deserialize_eq_ok.mp hread
  cases hd
  exact l.password_value

/-- A received acknowledgement of a login with a payload has one of the two forms, and is
written. -/
lemma ConnectionAckData.exists_serialize {es rest : List Element} {d : ConnectionAckData}
    (h : formatter.deserialize.run es = .ok (some d, rest)) (hpayload : d.ackData.isSome = true) :
    d.HasPayload ∧ ∃ ws, formatter.serialize (some d) = .ok ws := by
  have hwritten : ∀ a, d.ackData = some a →
      (∀ s, a.successAckTypeData = some s → ∃ password, s.password = .ok password) →
      ∃ ws, formatter.serialize (some d) = .ok ws := by
    intro a ha hpassword
    obtain ⟨ws, hws⟩ := serialize_payload hpassword
    rw [← ha] at hws
    exact serialize_of_payload hws
  rcases ackData_of_decoded h with hnone | ⟨es', rest', hread⟩
  · rw [hnone] at hpayload
    cases hpayload
  rcases payload_of_decoded hread with ⟨hnone, -⟩ | ⟨s, password, ha, hpassword⟩ | ⟨r, ha⟩
  · rw [hnone] at hpayload
    cases hpayload
  · refine ⟨⟨_, ha, .inl rfl⟩, hwritten _ ha fun s' hs' => ?_⟩
    cases hs'
    exact ⟨password, hpassword⟩
  · refine ⟨⟨_, ha, .inr rfl⟩, hwritten _ ha fun s' hs' => ?_⟩
    cases hs'

/-- A received result of an event document is not null. -/
lemma EventDocumentAckResultFormatter.isSome_of_decoded {es rest : List Element}
    {r : Option EventDocumentAckResult} (h : formatter.deserialize.run es = .ok (r, rest)) :
    r.isSome = true := by
  simp only [formatter, deserialize, Reader.run_bind_eq_ok, Reader.run_pure_eq_ok] at h
  obtain ⟨_, _, -, status, _, -, notification, _, -, _, _, -, rfl, -⟩ := h
  rfl

/-- Every value of a list was read for itself. -/
lemma Reader.exists_run_of_mem {α : Type} {r : Reader α} {n : ℕ} {es rest : List Element}
    {as : List α} (h : (Reader.replicate r n).run es = .ok (as, rest)) :
    ∀ a ∈ as, ∃ es' rest', r.run es' = .ok (a, rest') := by
  induction n generalizing es as with
  | zero =>
    obtain ⟨rfl, -⟩ := Reader.run_pure_eq_ok.mp h
    exact fun a ha => absurd ha List.not_mem_nil
  | succ n ih =>
    simp only [Reader.replicate, Reader.run_bind_eq_ok, Reader.run_pure_eq_ok] at h
    obtain ⟨a, es', hfirst, as', _, hothers, rfl, rfl⟩ := h
    intro b hb
    rcases List.mem_cons.mp hb with rfl | hb
    · exact ⟨es, es', hfirst⟩
    · exact ih hothers b hb

/-- The results of a received acknowledgement are written, if there are any. -/
lemma EventDocumentAck.exists_serialize_ackData {es rest : List Element} {d : EventDocumentAck}
    (h : formatter.deserialize.run es = .ok (some d, rest)) :
    ∃ ws, (Formatter.list EventDocumentAckResultFormatter.formatter).serialize d.ackData =
      .ok ws := by
  have hread : d.ackData = none ∨ ∃ es' rest',
      (Formatter.list EventDocumentAckResultFormatter.formatter).deserialize.run es' =
        .ok (d.ackData, rest') := by
    rcases Formatter.run_keyed_cons_cons h with ⟨-, h⟩ | ⟨n, es₁, status, ackData, c, -, h, hread⟩
    · cases h
    cases h
    rcases hread with ⟨-, hnone, -⟩ | ⟨_, -, -, hnone, -⟩ | ⟨k, es₂, es₃, -, -, hlist, -⟩
    · exact .inl hnone
    · exact .inl hnone
    · exact .inr ⟨es₂, es₃, hlist⟩
  rcases hread with hnone | ⟨es', rest', hlist⟩
  · exact ⟨_, by rw [hnone]; rfl⟩
  rcases Formatter.run_list_eq_ok.mp hlist with ⟨-, hnone⟩ | ⟨n, es'', as, -, has, hresults⟩
  · exact ⟨_, by rw [hnone]; rfl⟩
  rw [has]
  refine Formatter.exists_serialize_list fun r hr => ?_
  obtain ⟨_, _, hresult⟩ := Reader.exists_run_of_mem hresults r hr
  obtain ⟨r, rfl⟩ := Option.isSome_iff_exists.mp
    (EventDocumentAckResultFormatter.isSome_of_decoded hresult)
  exact ⟨_, rfl⟩

/-- A received acknowledgement of an event document is written. -/
lemma EventDocumentAck.exists_serialize {es rest : List Element} {d : EventDocumentAck}
    (h : formatter.deserialize.run es = .ok (some d, rest)) :
    ∃ ws, formatter.serialize (some d) = .ok ws := by
  refine Formatter.exists_serialize_keyed ?_
  refine Fields.exists_serialize_cons (StatusCode.formatter_closed Formatter.total_closed _) ?_
  refine Fields.exists_serialize_cons (exists_serialize_ackData h) ?_
  exact Fields.cons_total Formatter.total_closed.string Fields.nil_total _

namespace MessageFormatter

open Formatter

/-- A received data part that can be sent on is of a kind that is both read and written, and is
written. -/
theorem exists_serializeData {type : DataType} {es rest : List Element} {d : MessageData}
    (h : (deserializeData type).run es = .ok (some d, rest)) (hd : d.isForwarded = true) :
    d.TwoWay ∧ ∃ ws, serializeData d = .ok ws := by
  obtain rfl := getDataType_of_run h
  cases d with
  | connection d =>
    obtain ⟨_, hread, heq⟩ := Reader.run_map_eq_ok.mp h
    obtain ⟨d', rfl, heq⟩ := Option.map_eq_some_iff.mp heq
    cases heq
    obtain ⟨password, hpassword⟩ := ConnectionDataTypeFormatter.password_of_decoded hread
    exact ⟨.connection d, ConnectionDataTypeFormatter.exists_serialize hpassword⟩
  | connectionAck d =>
    obtain ⟨_, hread, heq⟩ := Reader.run_map_eq_ok.mp h
    obtain ⟨d', rfl, heq⟩ := Option.map_eq_some_iff.mp heq
    cases heq
    obtain ⟨hpayload, hws⟩ := ConnectionAckData.exists_serialize hread hd
    exact ⟨.connectionAck hpayload, hws⟩
  | event | queryRequest | nextQueryPageRequest =>
    exact (Reader.run_throw_eq_ok.mp h).elim
  | eventAck | queryRequestAck => cases hd
  | attachmentRequest d =>
    exact ⟨.attachmentRequest d, AttachmentRequestData.formatter_closed total_closed d⟩
  | attachmentRequestAck d =>
    exact ⟨.attachmentRequestAck d,
      AttachmentRequestAckData.formatter_closed total_closed (some d)⟩
  | attachmentResponse d =>
    exact ⟨.attachmentResponse d, AttachmentResponseData.formatter_closed total_closed (some d)⟩
  | attachmentResponseAck d =>
    exact ⟨.attachmentResponseAck d,
      AttachmentResponseAckData.formatter_closed total_closed (some d)⟩
  | eventDocument d =>
    exact ⟨.eventDocument d, EventDocument.formatter_closed total_closed (some d)⟩
  | eventDocumentAck d =>
    obtain ⟨_, hread, heq⟩ := Reader.run_map_eq_ok.mp h
    obtain ⟨d', rfl, heq⟩ := Option.map_eq_some_iff.mp heq
    cases heq
    exact ⟨.eventDocumentAck d, EventDocumentAck.exists_serialize hread⟩

/-- A received data part that cannot be sent on makes the formatter throw. -/
theorem serializeData_error {type : DataType} {es rest : List Element} {d : MessageData}
    (h : (deserializeData type).run es = .ok (some d, rest)) (hd : d.isForwarded = false) :
    ∃ e, serializeData d = .error e := by
  obtain rfl := getDataType_of_run h
  cases d with
  | eventAck | queryRequestAck => exact ⟨_, rfl⟩
  | connectionAck d =>
    refine ⟨.nullReference, ?_⟩
    obtain ⟨status, ackData, exception⟩ := d
    cases ackData with
    | none => rfl
    | some a => cases hd
  | event | queryRequest | nextQueryPageRequest =>
    exact (Reader.run_throw_eq_ok.mp h).elim
  | _ => cases hd

end MessageFormatter

/-! ## What is written does not depend on what is lost -/

/-- Login requests that agree, whatever their other reserved fields are, are written with the same
elements. -/
lemma ConnectionDataTypeFormatter.serialize_of_sameAs {d d' : ConnectionData} (h : d.SameAs d') :
    serialize d' = serialize d := by
  rw [serialize, serialize, h.password, h.clusterName, h.serveOnTheSameConnection,
    h.protocolVersionNumber, h.fragmentationSupported, h.fragmentationTransmissionUnit]

/-- Acknowledgements of a login that agree are written with the same elements. -/
lemma ConnectionAckData.serialize_of_sameAs {d d' : ConnectionAckData} (h : d.SameAs d') :
    formatter.serialize (some d') = formatter.serialize (some d) := by
  obtain ⟨status, ackData, exception⟩ := d
  obtain ⟨status', ackData', exception'⟩ := d'
  obtain ⟨hstatus, ⟨s, s', hs, hs', hsame⟩, ⟨r, hr, hr'⟩, hexception⟩ := h
  cases ackData with
  | none => cases hs
  | some a =>
  cases ackData' with
  | none => cases hs'
  | some a' =>
  have hpayload : ConnectionAckTypeDataFormatter.serialize (some a') =
      ConnectionAckTypeDataFormatter.serialize (some a) := by
    have hsuccess : a.successAckTypeData = s := Except.ok.inj hs
    have hsuccess' : a'.successAckTypeData = s' := Except.ok.inj hs'
    have hreasons : a.unauthorizedAckTypeData = r := Except.ok.inj hr
    have hreasons' : a'.unauthorizedAckTypeData = r := Except.ok.inj hr'
    simp only [ConnectionAckTypeDataFormatter.serialize, hsuccess, hsuccess', hreasons, hreasons']
    cases hsame with
    | none => rfl
    | some hsame => exact ConnectionDataTypeFormatter.serialize_of_sameAs hsame
  obtain rfl : status' = status := hstatus
  obtain rfl : exception' = exception := hexception
  simp only [formatter, Formatter.keyed, fields, Fields.cons,
    ConnectionAckTypeDataFormatter.formatter, hpayload]

/-- Data parts that agree are written with the same elements. -/
lemma MessageFormatter.serializeData_of_sameAs {d d' : MessageData} (h : d.SameAs d') :
    serializeData d' = serializeData d := by
  cases h with
  | connection h => exact ConnectionDataTypeFormatter.serialize_of_sameAs h
  | connectionAck h => exact ConnectionAckData.serialize_of_sameAs h
  | _ => rfl

namespace MessageManager

variable {F : WireFormat}

/-- Messages whose data parts agree have the same binary. -/
lemma getBinaryFromMessage_of_sameAs (header : MessageHeader) {d d' : MessageData}
    (h : d.SameAs d') :
    getBinaryFromMessage F (getMessage header (some d')) =
      getBinaryFromMessage F (getMessage header (some d)) := by
  simp only [getBinaryFromMessage, MessageFormatter.serialize, getMessage,
    MessageFormatter.serializeData_of_sameAs h]

end MessageManager

end Gds
