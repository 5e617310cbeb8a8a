import GdsSdk.Messages.QueryOptions
import GdsSdk.Messages.RoundTrip

/-!
# Distinct messages have distinct binaries

Everything that a send method is given has to be in the binary, for some kinds of data only the
peer can read.  This file compares any two messages that have the same binary: they have the same
header, and their data parts are of one kind and have the same content (`MessageData.SameContent`).
What two such messages may differ in are the options of queries that lack one, what a login request
has in its reserved fields besides the password, and the ways in which an acknowledgement of a
login can have no payload.
-/

namespace Gds

open MsgPack

/-- Two data parts of one kind. -/
inductive MessageData.SameKind : MessageData → MessageData → Prop
  | connection (d d') : SameKind (.connection d) (.connection d')
  | connectionAck (d d') : SameKind (.connectionAck d) (.connectionAck d')
  | event (d d') : SameKind (.event d) (.event d')
  | eventAck (d d') : SameKind (.eventAck d) (.eventAck d')
  | attachmentRequest (d d') : SameKind (.attachmentRequest d) (.attachmentRequest d')
  | attachmentRequestAck (d d') : SameKind (.attachmentRequestAck d) (.attachmentRequestAck d')
  | attachmentResponse (d d') : SameKind (.attachmentResponse d) (.attachmentResponse d')
  | attachmentResponseAck (d d') : SameKind (.attachmentResponseAck d) (.attachmentResponseAck d')
  | eventDocument (d d') : SameKind (.eventDocument d) (.eventDocument d')
  | eventDocumentAck (d d') : SameKind (.eventDocumentAck d) (.eventDocumentAck d')
  | queryRequest (d d') : SameKind (.queryRequest d) (.queryRequest d')
  | queryRequestAck (d d') : SameKind (.queryRequestAck d) (.queryRequestAck d')
  | nextQueryPageRequest (d d') : SameKind (.nextQueryPageRequest d) (.nextQueryPageRequest d')

/-- Two data parts have the same kind, and the same content as far as their kind is written. -/
inductive MessageData.SameContent : MessageData → MessageData → Prop
  /-- Login requests agree but for their reserved fields besides the password. -/
  | connection {d d'} (h : d.SameAs d') : SameContent (.connection d) (.connection d')
  /-- Acknowledgements of a login agree in their status, their exception, and what reaches the
  peer of their payload. -/
  | connectionAck {d d'} (h : d.received = d'.received) :
    SameContent (.connectionAck d) (.connectionAck d')
  /-- Queries are equal, or agree in everything but their options, of which each lacks one. -/
  | queryRequest {q q'} (h : q = q' ∨ q.SameQuery q' ∧ ¬ q.HasOptions ∧ ¬ q'.HasOptions) :
    SameContent (.queryRequest q) (.queryRequest q')
  /-- Data parts of any other kind are equal. -/
  | same (d) : SameContent d d

/-- Data parts of the same type are of one kind. -/
lemma MessageData.sameKind_of_getDataType {d d' : MessageData}
    (h : d.getDataType = d'.getDataType) : d.SameKind d' := by
  cases d <;> cases d' <;> dsimp only [getDataType] at h
  -- of one kind, or the codes of the two types differ
  all_goals first
    | constructor
    | exact absurd h (by decide)

/-- Login requests that reach the peer as the same agree but for their reserved fields besides the
password. -/
lemma ConnectionDataTypeFormatter.sameAs_of_received_eq {d d' : ConnectionData}
    {password password' : Option String} (h : d.password = .ok password)
    (h' : d'.password = .ok password') (heq : received d = received d') : d.SameAs d' := by
  have hsame := sameAs_received h
  have hsame' := sameAs_received h'
  rw [heq] at hsame
  constructor
  · rw [← hsame'.clusterName, hsame.clusterName]
  · rw [← hsame'.serveOnTheSameConnection, hsame.serveOnTheSameConnection]
  · rw [← hsame'.protocolVersionNumber, hsame.protocolVersionNumber]
  · rw [← hsame'.fragmentationSupported, hsame.fragmentationSupported]
  · rw [← hsame'.fragmentationTransmissionUnit, hsame.fragmentationTransmissionUnit]
  · rw [← hsame'.password, hsame.password]

namespace MessageFormatter

/-- Data parts of one kind that are written with the same elements have the same content. -/
theorem sameContent_of_written_eq {d d' : MessageData} {ws ws' : List WriteOp}
    (hkind : d.SameKind d') (h : serializeData d = .ok ws) (h' : serializeData d' = .ok ws')
    (heq : written ws = written ws') : d.SameContent d' := by
  -- a class without loss is determined by its elements
  have hexact : ∀ {α : Type} {f : Formatter α} (mk : α → MessageData), f.Exact →
      ∀ a a', f.serialize a = .ok ws → f.serialize a' = .ok ws' → (mk a).SameContent (mk a') := by
    intro α f mk hf a a' ha ha'
    have haa : a = a' := hf.roundTrips.eq_of_written_eq ha ha' heq
    rw [haa]
    exact .same _
  cases hkind with
  | connection d d' =>
    obtain ⟨password, hpassword⟩ := ConnectionDataTypeFormatter.password_of_serialize h
    obtain ⟨password', hpassword'⟩ := ConnectionDataTypeFormatter.password_of_serialize h'
    have hread := ConnectionDataTypeFormatter.reads_serialize h
    rw [heq] at hread
    have hreceived := hread.unique (ConnectionDataTypeFormatter.reads_serialize h')
    exact .connection (ConnectionDataTypeFormatter.sameAs_of_received_eq hpassword hpassword'
      (Option.some.inj hreceived))
  | connectionAck d d' =>
    have hreceived := ConnectionAckData.formatter_roundTrips.eq_of_written_eq h h' heq
    exact .connectionAck (Option.some.inj hreceived)
  | event d d' => exact hexact (fun d => .event (d.getD d')) EventData.formatter_exact _ _ h h'
  | eventAck | queryRequestAck => cases h
  | attachmentRequest d d' =>
    exact hexact MessageData.attachmentRequest AttachmentRequestData.formatter_exact _ _ h h'
  | attachmentRequestAck d d' =>
    exact hexact (fun d => .attachmentRequestAck (d.getD d'))
      AttachmentRequestAckData.formatter_exact _ _ h h'
  | attachmentResponse d d' =>
    exact hexact (fun d => .attachmentResponse (d.getD d'))
      AttachmentResponseData.formatter_exact _ _ h h'
  | attachmentResponseAck d d' =>
    exact hexact (fun d => .attachmentResponseAck (d.getD d'))
      AttachmentResponseAckData.formatter_exact _ _ h h'
  | eventDocument d d' =>
    exact hexact (fun d => .eventDocument (d.getD d')) EventDocument.formatter_exact _ _ h h'
  | eventDocumentAck d d' =>
    exact hexact (fun d => .eventDocumentAck (d.getD d')) EventDocumentAck.formatter_exact _ _ h h'
  | queryRequest q q' =>
    cases h
    cases h'
    exact .queryRequest (QueryRequestFormatter.eq_or_not_hasOptions_of_written_eq heq)
  | nextQueryPageRequest d d' =>
    exact hexact (fun d => .nextQueryPageRequest (d.getD d'))
      NextQueryPageRequestData.formatter_exact _ _ h h'

end MessageFormatter

/-- Headers that are written with the same elements at the front are equal, and so is what follows
them. -/
lemma MessageHeaderFormatter.eq_of_written_append_eq {h h' : MessageHeader} {es es' : List Element}
    (heq : written (serialize h) ++ es = written (serialize h') ++ es') : h = h' ∧ es = es' := by
  have hread := reads_serialize h es
  rw [heq, reads_serialize h' es'] at hread
  cases hread
  exact ⟨rfl, rfl⟩

namespace MessageManager

/-- Two messages whose headers announce their data parts, of any kinds, and that have the same
binary have the same header and data parts with the same content. -/
theorem sameContent_of_sameBinary {F : WireFormat} {h h' : MessageHeader} {d d' : MessageData}
    {b : List UInt8} (htype : d.getDataType = h.dataType) (htype' : d'.getDataType = h'.dataType)
    (hb : getBinaryFromMessage F (getMessage h (some d)) = .ok b)
    (hb' : getBinaryFromMessage F (getMessage h' (some d')) = .ok b) :
    h = h' ∧ d.SameContent d' := by
  obtain ⟨ws, hws, henc⟩ := getBinaryFromMessage_eq_ok.mp hb
  obtain ⟨ws', hws', henc'⟩ := getBinaryFromMessage_eq_ok.mp hb'
  -- the binary has the elements of both messages
  have helements : written ws = written ws' := by
    rw [← F.elements_encodeAll (MessageFormatter.covered_serialize hws) henc,
      F.elements_encodeAll (MessageFormatter.covered_serialize hws') henc']
  simp only [MessageFormatter.serialize, getMessage, bind_eq_ok] at hws hws'
  obtain ⟨data, hdata, ⟨⟩⟩ := hws
  obtain ⟨data', hdata', ⟨⟩⟩ := hws'
  simp only [written_cons, written_append] at helements
  obtain ⟨rfl, hparts⟩ := MessageHeaderFormatter.eq_of_written_append_eq (List.cons.inj helements).2
  have hkind := MessageData.sameKind_of_getDataType (htype.trans htype'.symm)
  exact ⟨rfl, MessageFormatter.sameContent_of_written_eq hkind hdata hdata' hparts⟩

/-- Two queries that differ in a page size without a type have the same binary. -/
theorem sameContent_of_sameBinary_queries :
    let h : MessageHeader := ⟨some "u", none, 5, -7, false, none, none, none, none, ⟨10⟩⟩
    let q : QueryRequestData := ⟨some "q", .pages, 30000, some 100, none⟩
    let q' : QueryRequestData := ⟨some "q", .pages, 30000, none, none⟩
    h = h ∧ (MessageData.queryRequest q).SameContent (.queryRequest q') :=
  sameContent_of_sameBinary (F := standard) (b := [155, 161, 117, 192, 5, 249, 194, 192, 192, 192,
    192, 10, 147, 161, 113, 165, 80, 65, 71, 69, 83, 211, 0, 0, 0, 0, 0, 0, 117, 48]) rfl rfl
    (by decide) (by decide)

end MessageManager

end Gds
