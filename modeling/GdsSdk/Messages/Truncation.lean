import GdsSdk.Messages.AnnouncedData
import GdsSdk.Messages.EventDocumentResults
import GdsSdk.Messages.Output
import GdsSdk.MsgPack.Whole

/-!
# Truncated messages

A binary that is cut off anywhere lacks the last of its elements, and a decoder that reads whole
values fails on it.  Three decoders are written by hand and do not always read whole values: the
one of a login request goes by its declared size, the payload of an acknowledgement contains one,
and the results of an event document end with a map that is not read.  Each of them can only go
wrong on an input with a particular beginning (`Misaligned`, `ResultList`), and no message that
the client encodes begins so, apart from the event document results themselves, whose decoder
counts its elements.
-/

namespace Gds

open MsgPack Formatter
open ConnectionLayout (stringElement stringElement_ne_boolean stringElement_ne_integer
  stringElement_ne_arrayHeader)

/-- The beginning of a login request under a size that the decoder takes for the right one. -/
def Misaligned (es : List Element) : Prop :=
  (∃ s b t, es = .arrayHeader 4 :: stringElement s :: .boolean b :: t) ∨
    ∃ b t, es = .arrayHeader 6 :: .boolean b :: t

/-- The beginning of an acknowledgement whose payload begins so. -/
def MisalignedAck (es : List Element) : Prop :=
  ∃ n i t, es = .arrayHeader n :: .integer i :: t ∧ Misaligned t

/-- The beginning of an acknowledgement of an event document with at least one result. -/
def ResultList (es : List Element) : Prop :=
  ∃ n i k m t, es =
    .arrayHeader n :: .integer i :: .arrayHeader (k + 1) :: .arrayHeader m :: t

/-! ## The decoders that are written by hand -/

section Decoders

variable {es rest : List Element}

/-- A layout of the wrong size begins as such a layout does. -/
lemma ConnectionLayout.Missized.misaligned {l : ConnectionLayout} {size : ℕ}
    (h : l.Missized size) (rest : List Element) :
    Misaligned (.arrayHeader size :: (l.elements ++ rest)) := by
  rcases h with ⟨rfl, hcluster, -⟩ | ⟨rfl, hcluster, -⟩
  · obtain ⟨name, hname⟩ := Option.isSome_iff_exists.mp hcluster
    left
    rw [ConnectionLayout.elements, hname]
    exact ⟨name, _, _, rfl⟩
  · right
    rw [ConnectionLayout.elements, hcluster]
    exact ⟨_, _, rfl⟩

/-- The decoder of a login request reads a whole value unless its size is wrong. -/
lemma ConnectionDataTypeFormatter.whole_or_misaligned {v : Option ConnectionData}
    (h : deserialize.run es = .ok (v, rest)) : skipFrom 1 es = .ok rest ∨ Misaligned es := by
  have hstart : es = .nil :: rest ∨ ∃ size es', es = .arrayHeader size :: es' := by
    rw [deserialize, Reader.run_orNil_eq_ok] at h
    simp only [Reader.run_bind_eq_ok, Reader.run_readArrayHeader_eq_ok] at h
    rcases h with ⟨hnil, -⟩ | ⟨_, _, _, -, -, -, size, es', hes, -⟩
    · exact .inl hnil
    · exact .inr ⟨size, es', hes⟩
  rcases hstart with rfl | ⟨size, es', rfl⟩
  · exact .inl (skipFrom_single rfl rest)
  obtain ⟨hlow, hhigh, l, rfl, -, hexpected⟩ := run_deserialize_eq_ok.mp h
  by_cases hsize : l.Missized size
  · exact .inr (hsize.misaligned rest)
  · left
    -- the layout has the declared number of values
    have hvalue : (Value.array l.values).elements = .arrayHeader size :: l.elements := by
      rw [Value.elements, l.listElements_values, l.length_values,
        ← (ConnectionLayout.size_eq_iff hsize).mpr ⟨hlow, hhigh, hexpected⟩]
    rw [← List.cons_append, ← hvalue, skipFrom_elements]
    exact skipFrom_zero rest

/-- The decoder of the payload of an acknowledgement reads a whole value unless it is a login
request of the wrong size. -/
lemma ConnectionAckTypeDataFormatter.whole_or_misaligned {p : Option ConnectionAckTypeData}
    (h : deserialize.run es = .ok (p, rest)) : skipFrom 1 es = .ok rest ∨ Misaligned es := by
  rw [deserialize, Reader.run_nextType_bind_eq_ok] at h
  obtain ⟨e, es', rfl, h⟩ := h
  by_cases harray : e.type = .array
  · rw [if_pos harray, Reader.run_map_eq_ok] at h
    obtain ⟨d, hd, -⟩ := h
    exact ConnectionDataTypeFormatter.whole_or_misaligned hd
  left
  rw [if_neg harray, Reader.run_nextType_bind] at h
  by_cases hmap : e.type = .map
  · rw [if_pos hmap, Reader.run_map_eq_ok] at h
    obtain ⟨r, hr, -⟩ := h
    exact reasons_closed whole_closed _ _ _ hr
  · rw [if_neg hmap, Reader.run_bind_eq_ok] at h
    obtain ⟨_, _, hnil, h⟩ := h
    obtain ⟨-, rfl⟩ := Reader.run_pure_eq_ok.mp h
    rw [Reader.run_readNil_eq_ok.mp hnil]
    exact skipFrom_single rfl _

/-- The decoder of an acknowledgement with a status, a payload and an exception reads a whole value
unless the one of the payload, which comes after the status, does not. -/
lemma run_ack {β δ : Type} {g : Formatter β} {default : β}
    {toFields : δ → StatusCode × β × Option String × Unit}
    {ofFields : StatusCode × β × Option String × Unit → δ} {v : Option δ}
    (h : (keyed (.cons StatusCode.formatter ⟨0⟩ (.cons g default (.cons .string none .nil)))
      toFields ofFields).deserialize.run es = .ok (v, rest)) :
    skipFrom 1 es = .ok rest ∨ ∃ n i b es₂ es₃, es = .arrayHeader n :: .integer i :: es₂ ∧
      g.deserialize.run es₂ = .ok (b, es₃) ∧ skipFrom 1 es₂ ≠ .ok es₃ := by
  have hexception : (Fields.cons Formatter.string none .nil).Whole :=
    whole_closed.cons whole_closed.string whole_closed.nil
  rcases run_keyed_second (StatusCode.formatter_closed whole_closed) hexception h with
    hwhole | ⟨n, status, b, es₁, es₂, es₃, rfl, hstatus, hpayload, hsecond⟩
  · exact .inl hwhole
  right
  simp only [StatusCode.formatter, Reader.run_map_eq_ok, Reader.run_readInt32_eq_ok] at hstatus
  obtain ⟨i, rfl, -⟩ := hstatus
  exact ⟨n, _, b, es₂, es₃, rfl, hpayload, hsecond⟩

/-- The decoder of an acknowledgement reads a whole value unless its payload is a login request of
the wrong size. -/
lemma ConnectionAckData.whole_or_misaligned {v : Option ConnectionAckData}
    (h : formatter.deserialize.run es = .ok (v, rest)) :
    skipFrom 1 es = .ok rest ∨ MisalignedAck es := by
  rcases run_ack h with hwhole | ⟨n, i, p, es₂, es₃, rfl, hpayload, hsecond⟩
  · exact .inl hwhole
  · right
    rcases ConnectionAckTypeDataFormatter.whole_or_misaligned hpayload with hwhole | hmisaligned
    · exact absurd hwhole hsecond
    · exact ⟨n, i, es₂, rfl, hmisaligned⟩

/-- The decoder of an acknowledgement of an event document reads a whole value unless there are
results. -/
lemma EventDocumentAck.whole_or_resultList {v : Option EventDocumentAck}
    (h : formatter.deserialize.run es = .ok (v, rest)) :
    skipFrom 1 es = .ok rest ∨ ResultList es := by
  rcases run_ack h with hwhole | ⟨n, i, results, es₂, es₃, rfl, hresults, hsecond⟩
  · exact .inl hwhole
  right
  rcases run_list_eq_ok.mp hresults with ⟨rfl, -⟩ | ⟨k, es₄, rs, rfl, -, hreplicate⟩
  · exact absurd (skipFrom_single rfl es₃) hsecond
  rcases k with _ | k
  · -- an empty list is one value
    obtain ⟨-, rfl⟩ := Reader.run_pure_eq_ok.mp hreplicate
    exact absurd (skipFrom_single rfl es₄) hsecond
  · -- the first result starts with an array header
    rw [Reader.replicate, Reader.run_bind_eq_ok] at hreplicate
    obtain ⟨r, es₅, hr, -⟩ := hreplicate
    simp only [EventDocumentAckResultFormatter.formatter,
      EventDocumentAckResultFormatter.deserialize, Reader.run_bind_eq_ok,
      Reader.run_readArrayHeader_eq_ok] at hr
    obtain ⟨m, es₆, rfl, -⟩ := hr
    exact ⟨n, i, k, m, es₆, rfl⟩

/-! The readers of the three types whose decoders are written by hand. -/

lemma MessageFormatter.deserializeData_connection : deserializeData .connection =
    Option.map .connection <$> ConnectionDataTypeFormatter.deserialize := rfl

lemma MessageFormatter.deserializeData_connectionAck : deserializeData .connectionAck =
    Option.map .connectionAck <$> ConnectionAckData.formatter.deserialize := rfl

lemma MessageFormatter.deserializeData_eventDocumentAck : deserializeData .eventDocumentAck =
    Option.map .eventDocumentAck <$> EventDocumentAck.formatter.deserialize := rfl

/-- A data part is read as a whole value, unless it has one of the beginnings for which a decoder
may go wrong. -/
theorem MessageFormatter.whole_or_start {type : DataType} {v : Option MessageData}
    (h : (deserializeData type).run es = .ok (v, rest)) :
    skipFrom 1 es = .ok rest ∨ Misaligned es ∨ MisalignedAck es ∨
      (type = .eventDocumentAck ∧ ResultList es) := by
  rcases deserializeData_cases type with ⟨hnull, -⟩ | ⟨rfl, -⟩ | ⟨-, e, hread⟩
  · simp only [DataType.NullOnNil, List.mem_cons, List.not_mem_nil, or_false] at hnull
    rcases hnull with rfl | rfl | rfl | rfl | rfl | rfl | rfl | rfl | rfl
    · rw [deserializeData_connection, Reader.run_map_eq_ok] at h
      obtain ⟨d, hd, -⟩ := h
      exact (ConnectionDataTypeFormatter.whole_or_misaligned hd).imp id .inl
    · rw [deserializeData_connectionAck, Reader.run_map_eq_ok] at h
      obtain ⟨d, hd, -⟩ := h
      exact (ConnectionAckData.whole_or_misaligned hd).imp id fun hack => .inr (.inl hack)
    · exact .inl (Consumes.map (EventAckData.formatter_closed whole_closed) _ _ _ h)
    · exact .inl (Consumes.map (AttachmentRequestAckData.formatter_closed whole_closed) _ _ _ h)
    · exact .inl (Consumes.map (AttachmentResponseData.formatter_closed whole_closed) _ _ _ h)
    · exact .inl (Consumes.map (AttachmentResponseAckData.formatter_closed whole_closed) _ _ _ h)
    · exact .inl (Consumes.map (EventDocument.formatter_closed whole_closed) _ _ _ h)
    · rw [deserializeData_eventDocumentAck, Reader.run_map_eq_ok] at h
      obtain ⟨d, hd, -⟩ := h
      exact (EventDocumentAck.whole_or_resultList hd).imp id fun hlist => .inr (.inr ⟨rfl, hlist⟩)
    · exact .inl (Consumes.map (QueryRequestAckData.formatter_closed whole_closed) _ _ _ h)
  · exact .inl (Consumes.map (AttachmentRequestData.formatter_closed whole_closed) _ _ _ h)
  · rw [hread, Reader.run_throw_eq_ok] at h
    exact h.elim

end Decoders

/-! ## What encoded data parts begin with -/

/-- How the payload of an acknowledgement begins: nil, a map, a login request, or a class whose
first field is a status. -/
inductive BeginsPayload : List Element → Prop
  | nil (t) : BeginsPayload (.nil :: t)
  | map (n t) : BeginsPayload (.mapHeader n :: t)
  | layout (l : ConnectionLayout) (t) :
    BeginsPayload (.arrayHeader (4 + l.parts) :: (l.elements ++ t))
  | status (n i t) (hn : n = 2 ∨ n = 3) : BeginsPayload (.arrayHeader n :: .integer i :: t)

/-- How a list of event document results begins. -/
inductive BeginsResults : List Element → Prop
  | none (t) : BeginsResults (.nil :: t)
  | empty (t) : BeginsResults (.arrayHeader 0 :: t)
  | results (k t) : BeginsResults (.arrayHeader (k + 1) :: .arrayHeader 3 :: t)

/-- How the elements of a data part begin. -/
inductive Begins : MessageData → List Element → Prop
  | login {d} (l : ConnectionLayout) (t) :
    Begins d (.arrayHeader (4 + l.parts) :: (l.elements ++ t))
  | text {d} (s t) : Begins d (stringElement s :: t)
  | named {d} (n s t) (hn : n = 3 ∨ n = 5) : Begins d (.arrayHeader n :: stringElement s :: t)
  | document {d} (s e t) (he : e.type ≠ .boolean) :
    Begins d (.arrayHeader 4 :: stringElement s :: e :: t)
  | part {d} (n e t) (hn : n ≤ 2) (he : e.type ≠ .integer) : Begins d (.arrayHeader n :: e :: t)
  | ack {d} (i t) (ht : BeginsPayload t) : Begins d (.arrayHeader 3 :: .integer i :: t)
  | resultsAck (d i t) (ht : BeginsResults t) :
    Begins (.eventDocumentAck d) (.arrayHeader 3 :: .integer i :: t)

/-- The elements of a list begin with nil or with the header of an array. -/
lemma written_list {α : Type} {f : Formatter α} {v : Option (List α)} {ws : List WriteOp}
    (h : (Formatter.list f).serialize v = .ok ws) :
    ∃ e t, written ws = e :: t ∧ e.type ≠ .boolean := by
  rcases v with _ | as
  · cases h
    exact ⟨_, _, rfl, by simp [Element.type]⟩
  · simp only [Formatter.list, bind_eq_ok] at h
    obtain ⟨ws', -, ⟨⟩⟩ := h
    exact ⟨_, _, rfl, by simp [Element.type]⟩

/-- The elements of an instance of a class begin with nil or with a header. -/
lemma written_keyed {α β : Type} {fields : Fields β} {toFields : α → β} {ofFields : β → α}
    {v : Option α} {ws : List WriteOp}
    (h : (keyed fields toFields ofFields).serialize v = .ok ws) :
    ∃ e t, written ws = e :: t ∧ e.type ≠ .integer := by
  rcases v with _ | a
  · cases h
    exact ⟨_, _, rfl, by simp [Element.type]⟩
  · obtain ⟨ws', -, rfl⟩ := serialize_keyed_eq_ok.mp h
    exact ⟨_, _, rfl, by simp [Element.type]⟩

lemma written_named {α β : Type} {fields : NamedFields β} {toFields : α → β} {ofFields : β → α}
    {v : Option α} {ws : List WriteOp}
    (h : (Formatter.named fields toFields ofFields).serialize v = .ok ws) :
    ∃ e t, written ws = e :: t ∧ e.type ≠ .integer := by
  rcases v with _ | a
  · cases h
    exact ⟨_, _, rfl, by simp [Element.type]⟩
  · simp only [Formatter.named, bind_eq_ok] at h
    obtain ⟨ws', -, ⟨⟩⟩ := h
    exact ⟨_, _, rfl, by simp [Element.type]⟩

/-- The elements of an acknowledgement begin with its status, and go on with its payload. -/
lemma written_ack {β γ δ : Type} {g : Formatter β} {default : β} {rest : Fields γ}
    {toFields : δ → StatusCode × β × γ} {ofFields : StatusCode × β × γ → δ} {a : δ}
    {ws : List WriteOp}
    (h : (keyed (.cons StatusCode.formatter ⟨0⟩ (.cons g default rest)) toFields
      ofFields).serialize (some a) = .ok ws) :
    ∃ w ws', g.serialize (toFields a).2.1 = .ok w ∧ rest.serialize (toFields a).2.2 = .ok ws' ∧
      written ws = .arrayHeader (rest.count + 2) :: .integer (toFields a).1.code.toInt ::
        (written w ++ written ws') := by
  obtain ⟨w, ws₁, hstatus, hfields, hwritten⟩ := written_keyed_cons h
  obtain ⟨w', hw', ws', hws', rfl⟩ := Fields.serialize_cons_eq_ok.mp hfields
  cases hstatus
  refine ⟨w', ws', hw', hws', ?_⟩
  rw [hwritten, written_append]
  rfl

/-- A payload whose class starts with a status begins as such. -/
lemma beginsPayload_of_status {α β : Type} {rest : Fields β} {toFields : α → StatusCode × β}
    {ofFields : StatusCode × β → α} {v : Option α} {ws : List WriteOp}
    (hcount : rest.count = 1 ∨ rest.count = 2)
    (h : (keyed (.cons StatusCode.formatter ⟨0⟩ rest) toFields ofFields).serialize v = .ok ws)
    (t : List Element) : BeginsPayload (written ws ++ t) := by
  rcases v with _ | a
  · cases h
    exact .nil _
  · obtain ⟨w, ws', hw, -, hwritten⟩ := written_keyed_cons h
    cases hw
    rw [hwritten]
    exact .status _ _ _ (by omega)

/-- The payload of an acknowledgement of a login begins with one of its three forms. -/
lemma beginsPayload_of_connection {p : Option ConnectionAckTypeData} {ws : List WriteOp}
    (h : ConnectionAckTypeDataFormatter.serialize p = .ok ws) (t : List Element) :
    BeginsPayload (written ws ++ t) := by
  rcases p with _ | a
  · cases h
  simp only [ConnectionAckTypeDataFormatter.serialize] at h
  cases hs : a.successAckTypeData with
  | some d =>
    rw [hs] at h
    obtain ⟨l, hl⟩ := ConnectionDataTypeFormatter.written_serialize h
    rw [hl]
    exact .layout l t
  | none =>
    rw [hs] at h
    cases hr : a.unauthorizedAckTypeData with
    | some r =>
      rw [hr] at h
      simp only [ConnectionAckTypeDataFormatter.reasons, Formatter.dictionary, bind_eq_ok] at h
      obtain ⟨ws', -, ⟨⟩⟩ := h
      exact .map _ _
    | none =>
      rw [hr] at h
      cases h
      exact .nil _

/-- A list of results begins with nil, or with the headers of the list and of its first result. -/
lemma beginsResults_of_list {v : Option (List (Option EventDocumentAckResult))}
    {ws : List WriteOp}
    (h : (Formatter.list EventDocumentAckResultFormatter.formatter).serialize v = .ok ws)
    (t : List Element) : BeginsResults (written ws ++ t) := by
  rcases v with _ | _ | ⟨r, rs⟩
  · cases h
    exact .none _
  · cases h
    exact .empty _
  · simp only [Formatter.list, MsgPack.serializeAll, bind_eq_ok] at h
    obtain ⟨_, ⟨w, hw, ws', -, ⟨⟩⟩, ⟨⟩⟩ := h
    cases r with
    | none => cases hw
    | some r =>
      cases hw
      exact .results _ _

/-- The data parts that the client encodes begin in one of these ways. -/
theorem MessageFormatter.begins_of_serializeData {d : MessageData} {ws : List WriteOp}
    (h : serializeData d = .ok ws) : Begins d (written ws) := by
  cases d with
  | connection d =>
    obtain ⟨l, hl⟩ := ConnectionDataTypeFormatter.written_serialize h
    rw [hl, ← List.append_nil l.elements]
    exact .login l []
  | connectionAck d =>
    obtain ⟨w, ws', hw, -, hwritten⟩ := written_ack h
    rw [hwritten]
    exact .ack _ _ (beginsPayload_of_connection hw _)
  | event d =>
    obtain ⟨w, ws₁, hw, -, hwritten⟩ := written_keyed_cons h
    cases hw
    rw [hwritten]
    exact .named _ _ _ (.inl rfl)
  | eventAck d => cases h
  | attachmentRequest d =>
    cases h
    exact .text _ _
  | attachmentRequestAck d =>
    obtain ⟨w, ws', hw, -, hwritten⟩ := written_ack h
    rw [hwritten]
    exact .ack _ _ (beginsPayload_of_status (.inr rfl) hw _)
  | attachmentResponse d =>
    obtain ⟨w, ws₁, hw, -, hwritten⟩ := written_keyed_cons h
    obtain ⟨e, t, hes, he⟩ := written_named hw
    rw [hwritten, hes]
    exact .part _ _ _ (by decide) he
  | attachmentResponseAck d =>
    obtain ⟨w, ws', hw, -, hwritten⟩ := written_ack h
    rw [hwritten]
    exact .ack _ _ (beginsPayload_of_status (.inl rfl) hw _)
  | eventDocument d =>
    obtain ⟨w, ws₁, hw, hrest, hwritten⟩ := written_keyed_cons h
    obtain ⟨w', hw', ws₂, -, rfl⟩ := Fields.serialize_cons_eq_ok.mp hrest
    obtain ⟨e, t, hes, he⟩ := written_list hw'
    cases hw
    rw [hwritten, written_append, hes]
    exact .document _ _ _ he
  | eventDocumentAck d =>
    obtain ⟨w, ws', hw, -, hwritten⟩ := written_ack h
    rw [hwritten]
    exact .resultsAck _ _ _ (beginsResults_of_list hw _)
  | queryRequest d =>
    cases h
    unfold QueryRequestFormatter.serialize
    split
    · exact .named _ _ _ (.inr rfl)
    · exact .named _ _ _ (.inl rfl)
  | queryRequestAck d => cases h
  | nextQueryPageRequest d =>
    obtain ⟨w, ws₁, hw, -, hwritten⟩ := written_keyed_cons h
    obtain ⟨e, t, hes, he⟩ := written_keyed hw
    rw [hwritten, hes]
    exact .part _ _ _ (by decide) he

/-! ## No data part begins as a decoder goes wrong -/

section Beginnings

variable {d : MessageData} {es t : List Element}

/-! These beginnings do not depend on what comes after them. -/

lemma Misaligned.append (h : Misaligned es) (t : List Element) : Misaligned (es ++ t) := by
  rcases h with ⟨s, b, t', rfl⟩ | ⟨b, t', rfl⟩
  · exact .inl ⟨s, b, t' ++ t, rfl⟩
  · exact .inr ⟨b, t' ++ t, rfl⟩

lemma MisalignedAck.append (h : MisalignedAck es) (t : List Element) :
    MisalignedAck (es ++ t) := by
  obtain ⟨n, i, t', rfl, ht'⟩ := h
  exact ⟨n, i, t' ++ t, rfl, ht'.append t⟩

lemma ResultList.append (h : ResultList es) (t : List Element) : ResultList (es ++ t) := by
  obtain ⟨n, i, k, m, t', rfl⟩ := h
  exact ⟨n, i, k, m, t' ++ t, rfl⟩

/-- A misaligned input is an array of four or six elements. -/
lemma Misaligned.header {e : Element} (h : Misaligned (e :: t)) :
    e = .arrayHeader 4 ∨ e = .arrayHeader 6 := by
  rcases h with ⟨s, b, t', h⟩ | ⟨b, t', h⟩
  · cases h
    exact .inl rfl
  · cases h
    exact .inr rfl

/-- Its second element is a string or a boolean. -/
lemma Misaligned.second {e e' : Element} (h : Misaligned (e :: e' :: t)) :
    (e = .arrayHeader 4 ∧ ∃ s, e' = stringElement s) ∨
      (e = .arrayHeader 6 ∧ ∃ b, e' = .boolean b) := by
  rcases h with ⟨s, b, t', h⟩ | ⟨b, t', h⟩
  · cases h
    exact .inl ⟨rfl, s, rfl⟩
  · cases h
    exact .inr ⟨rfl, b, rfl⟩

/-- An input that starts with another element is not misaligned. -/
lemma not_misaligned_of_header {e : Element} (h : e ≠ .arrayHeader 4 ∧ e ≠ .arrayHeader 6) :
    ¬ Misaligned (e :: t) := by
  intro hmisaligned
  rcases hmisaligned.header with he | he
  · exact h.1 he
  · exact h.2 he

/-- A layout under its own size is not misaligned. -/
lemma ConnectionLayout.not_misaligned (l : ConnectionLayout) (t : List Element) :
    ¬ Misaligned (.arrayHeader (4 + l.parts) :: (l.elements ++ t)) := by
  unfold ConnectionLayout.parts
  intro h
  rcases l.elements_head with ⟨hname, s, es, hes⟩ | ⟨hname, b, es, hes⟩
  · -- the name comes first, and there are at least five elements
    rw [hes] at h
    rcases h.second with ⟨hsize, -⟩ | ⟨-, b, hb⟩
    · have hfour := Element.arrayHeader.inj hsize
      rw [if_pos hname] at hfour
      omega
    · exact stringElement_ne_boolean s b hb
  · -- the flag comes first, and there are at most five elements
    rw [hes] at h
    rcases h.second with ⟨-, s, hs⟩ | ⟨hsize, -⟩
    · exact stringElement_ne_boolean s b hs.symm
    · have hsix := Element.arrayHeader.inj hsize
      rw [hname, if_neg (by simp)] at hsix
      split at hsix <;> omega

/-- No payload of an acknowledgement is misaligned. -/
lemma BeginsPayload.not_misaligned (h : BeginsPayload es) : ¬ Misaligned es := by
  cases h with
  | nil t => exact not_misaligned_of_header (by simp)
  | map n t => exact not_misaligned_of_header (by simp)
  | layout l t => exact l.not_misaligned t
  | status n i t hn =>
    refine not_misaligned_of_header ?_
    simp only [ne_eq, Element.arrayHeader.injEq]
    omega

/-- No list of results is misaligned. -/
lemma BeginsResults.not_misaligned (h : BeginsResults es) : ¬ Misaligned es := by
  cases h with
  | none t => exact not_misaligned_of_header (by simp)
  | empty t => exact not_misaligned_of_header (by simp)
  | results k t =>
    intro h
    rcases h.second with ⟨-, s, hs⟩ | ⟨-, b, hb⟩
    · exact stringElement_ne_arrayHeader s 3 hs.symm
    · cases hb

/-- No data part is misaligned. -/
lemma Begins.not_misaligned (h : Begins d es) : ¬ Misaligned es := by
  cases h with
  | login l t => exact l.not_misaligned t
  | text s t =>
    exact not_misaligned_of_header
      ⟨stringElement_ne_arrayHeader s 4, stringElement_ne_arrayHeader s 6⟩
  | named n s t hn =>
    refine not_misaligned_of_header ?_
    simp only [ne_eq, Element.arrayHeader.injEq]
    omega
  | document s e t he =>
    rintro (⟨s', b, t', h⟩ | ⟨b, t', h⟩)
    · have hthird := (List.cons.inj (List.cons.inj (List.cons.inj h).2).2).1
      rw [hthird] at he
      exact he rfl
    · cases h
  | part n e t hn he =>
    refine not_misaligned_of_header ?_
    simp only [ne_eq, Element.arrayHeader.injEq]
    omega
  | ack i t ht => exact not_misaligned_of_header (by simp)
  | resultsAck ack i t ht => exact not_misaligned_of_header (by simp)

/-- A data part whose second element is an integer is an acknowledgement. -/
lemma Begins.of_integer {n : ℕ} {i : ℤ} (h : Begins d (.arrayHeader n :: .integer i :: t)) :
    BeginsPayload t ∨ (BeginsResults t ∧ ∃ ack, d = .eventDocumentAck ack) := by
  generalize hes : Element.arrayHeader n :: .integer i :: t = es at h
  cases h with
  | login l t' =>
    have hsecond := (List.cons.inj hes).2
    rcases l.elements_head with ⟨-, s, es', hl⟩ | ⟨-, b, es', hl⟩
    · rw [hl] at hsecond
      exact absurd (List.cons.inj hsecond).1.symm (stringElement_ne_integer s i)
    · rw [hl] at hsecond
      cases hsecond
  | text s t' =>
    exact absurd (List.cons.inj hes).1.symm (stringElement_ne_arrayHeader s n)
  | named m s t' hm =>
    have hsecond := (List.cons.inj (List.cons.inj hes).2).1
    exact absurd hsecond.symm (stringElement_ne_integer s i)
  | document s e t' he =>
    have hsecond := (List.cons.inj (List.cons.inj hes).2).1
    exact absurd hsecond.symm (stringElement_ne_integer s i)
  | part m e t' hm he =>
    cases hes
    exact absurd rfl he
  | ack j t' ht =>
    cases hes
    exact .inl ht
  | resultsAck ack j t' ht =>
    cases hes
    exact .inr ⟨ht, ack, rfl⟩

/-- No data part is misaligned in the payload of an acknowledgement. -/
lemma Begins.not_misalignedAck (h : Begins d es) : ¬ MisalignedAck es := by
  rintro ⟨n, i, t, rfl, ht⟩
  rcases h.of_integer with hpayload | ⟨hresults, -⟩
  · exact hpayload.not_misaligned ht
  · exact hresults.not_misaligned ht

/-- Only an acknowledgement of an event document begins with results. -/
lemma Begins.of_resultList (h : Begins d es) (hlist : ResultList es) :
    ∃ ack, d = .eventDocumentAck ack := by
  obtain ⟨n, i, k, m, t, rfl⟩ := hlist
  rcases h.of_integer with hpayload | ⟨-, hack⟩
  · generalize hes : Element.arrayHeader (k + 1) :: .arrayHeader m :: t = es' at hpayload
    cases hpayload with
    | layout l t' =>
      -- the second element is the name or the flag
      have hsecond := (List.cons.inj hes).2
      rcases l.elements_head with ⟨-, s, es', hl⟩ | ⟨-, b, es', hl⟩
      · rw [hl] at hsecond
        exact absurd (List.cons.inj hsecond).1.symm (stringElement_ne_arrayHeader s m)
      · rw [hl] at hsecond
        cases hsecond
    | _ => cases hes
  · exact hack

end Beginnings

/-! ## Acknowledgements of event documents -/

/-- Results are written with empty maps. -/
lemma EventDocumentAck.written_results {rs : List (Option EventDocumentAckResult)}
    {ws : List WriteOp}
    (h : MsgPack.serializeAll EventDocumentAckResultFormatter.formatter.serialize rs = .ok ws) :
    (written ws).length = rs.length * 4 := by
  induction rs generalizing ws with
  | nil =>
    cases h
    rfl
  | cons r rs ih =>
    simp only [MsgPack.serializeAll, bind_eq_ok] at h
    obtain ⟨w, hw, ws', hws', ⟨⟩⟩ := h
    cases r with
    | none => cases hw
    | some r =>
      cases hw
      rw [written_append, List.length_append, ih hws', List.length_cons]
      simp only [written, List.map_cons, List.map_nil, List.length_cons, List.length_nil]
      omega

/-- An acknowledgement whose results are there is written as the four elements of each of them
between three others and the exception. -/
lemma EventDocumentAck.written_serialize {d : EventDocumentAck}
    {rs : List (Option EventDocumentAckResult)} {ws : List WriteOp} (hrs : d.ackData = some rs)
    (h : formatter.serialize (some d) = .ok ws) :
    ∃ es, written ws = .arrayHeader 3 :: .integer d.status.code.toInt ::
      .arrayHeader rs.length :: es ∧ es.length = rs.length * 4 + 1 := by
  obtain ⟨w, ws', hw, hexception, hwritten⟩ := written_ack h
  obtain ⟨w', hw', ws₂, hnil, rfl⟩ := Fields.serialize_cons_eq_ok.mp hexception
  cases hw'
  cases hnil
  simp only [hrs, Formatter.list, bind_eq_ok] at hw
  obtain ⟨ws₃, hresults, ⟨⟩⟩ := hw
  refine ⟨written ws₃ ++ [(WriteOp.string d.exception).toElement], hwritten, ?_⟩
  rw [List.length_append, written_results hresults]
  rfl

/-- Results that are cut off cannot be read: the decoder reads all of their elements. -/
lemma EventDocumentAck.not_run_prefix {d : EventDocumentAck} {ws : List WriteOp}
    {es lost rest : List Element} {v : Option EventDocumentAck}
    (h : formatter.serialize (some d) = .ok ws) (hsplit : es ++ lost = written ws)
    (hresults : ResultList es) (hrun : formatter.deserialize.run es = .ok (v, rest)) :
    lost = [] := by
  obtain ⟨n, i, k, m, t, rfl⟩ := hresults
  cases hrs : d.ackData with
  | none =>
    -- nothing but nil is written in the place of the results
    obtain ⟨w, ws', hw, -, hwritten⟩ := written_ack h
    rw [hrs] at hw
    cases hw
    rw [hwritten] at hsplit
    cases hsplit
  | some rs =>
    obtain ⟨es', hwritten, hlength⟩ := written_serialize hrs h
    rw [hwritten] at hsplit
    obtain ⟨hn, hsplit⟩ := List.cons.inj hsplit
    obtain ⟨hi, hsplit⟩ := List.cons.inj hsplit
    obtain ⟨hk, hsplit⟩ := List.cons.inj hsplit
    rw [hn, hi, hk] at hrun
    let w : EventDocumentAckWire := ⟨d.status.code, rs.map fun _ => ⟨0, none, []⟩, none⟩
    have hsize : w.results.length = rs.length := List.length_map _
    rw [← hsize] at hrun
    have hread := length_of_run (w := w) hrun
    have hall := congrArg List.length hsplit
    rw [List.append_eq, List.length_append] at hall
    exact List.eq_nil_of_length_eq_zero (by omega)

/-! ## Messages -/

/-- A data part is not decoded from a strict prefix of what was written for it, whatever type is
announced. -/
theorem MessageFormatter.not_run_prefix {d : MessageData} {ws : List WriteOp} {type : DataType}
    {es lost rest : List Element} {v : Option MessageData} (h : serializeData d = .ok ws)
    (hsplit : es ++ lost = written ws) (hrun : (deserializeData type).run es = .ok (v, rest)) :
    lost = [] := by
  have hbegins := begins_of_serializeData h
  rw [← hsplit] at hbegins
  rcases whole_or_start hrun with hwhole | hmisaligned | hack | ⟨rfl, hresults⟩
  · obtain ⟨value, hvalue⟩ := serializeData_wellFormed h
    exact skipFrom_prefix (hsplit.trans hvalue) hwhole
  · exact absurd (hmisaligned.append lost) hbegins.not_misaligned
  · exact absurd (hack.append lost) hbegins.not_misalignedAck
  · obtain ⟨ack, rfl⟩ := hbegins.of_resultList (hresults.append lost)
    rw [deserializeData_eventDocumentAck, Reader.run_map_eq_ok] at hrun
    obtain ⟨o, hrun, -⟩ := hrun
    exact EventDocumentAck.not_run_prefix h hsplit hresults hrun

namespace MessageManager

/-- A binary that is cut off anywhere is not taken for a message. -/
theorem getMessageFromBinary_truncated {F : WireFormat} {m : Message} {b cut : List UInt8}
    (hb : getBinaryFromMessage F m = .ok (b ++ cut)) (hcut : cut ≠ []) :
    ∃ e : MessagePackSerializationException, getMessageFromBinary F b = .error e := by
  cases hread : getMessageFromBinary F b with
  | error e => exact ⟨e, rfl⟩
  | ok m' =>
    obtain ⟨ws, hws, henc⟩ := getBinaryFromMessage_eq_ok.mp hb
    obtain ⟨lost, hlost, helements⟩ := F.elements_prefix henc hcut
    obtain ⟨d, dataWs, v, -, hdata, hv, hwritten⟩ := MessageFormatter.written_serialize hws
    obtain ⟨rest, hrun⟩ := (getMessageFromBinary_eq_ok F b).mp hread
    obtain ⟨n, es, hes, hrun⟩ := MessageFormatter.run_deserialize_eq_ok.mp hrun
    -- both binaries have the ten elements of a header before the data part
    rw [hwritten, hes, Value.elements, listElements_append, listElements_singleton,
      m.header.listElements_values, List.cons_append, List.append_assoc] at helements
    have hparts := (List.cons.inj helements).2
    have hdata' : es ++ lost = v.elements := (List.append_inj hparts rfl).2
    exact absurd (MessageFormatter.not_run_prefix hdata (hdata'.trans hv.symm) hrun) hlost

/-- An acknowledgement of an event document without the empty map of its result and what comes
after it. -/
theorem getMessageFromBinary_truncated_results :
    ∃ e : MessagePackSerializationException, getMessageFromBinary standard
      [155, 161, 117, 192, 5, 249, 194, 192, 192, 192, 192, 9, 147, 204, 200, 145, 147, 204, 201,
        192] = .error e :=
  @getMessageFromBinary_truncated standard
    (getMessage ⟨some "u", none, 5, -7, false, none, none, none, none, ⟨9⟩⟩
      (some (.eventDocumentAck ⟨⟨200⟩, some [some ⟨⟨201⟩, none⟩], none⟩)))
    [155, 161, 117, 192, 5, 249, 194, 192, 192, 192, 192, 9, 147, 204, 200, 145, 147, 204, 201, 192]
    [128, 192] (by decide) (by decide)

end MessageManager

end Gds
