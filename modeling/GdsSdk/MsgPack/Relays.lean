import GdsSdk.MsgPack.Whole

/-!
# Values that pass through a formatter

A program that reads a value of its peer and later hands it back should return what it was given.
`Formatter.Relays f v a` says that `f` reads the value `v` as `a`, whatever follows it, and writes
`a` as `v`.  It passes from the fields of a class with integer keys to the class, so it reduces to
the order of the fields: what is read from the n-th place is written to the n-th place.

The second part goes from a class that was read from an array to what its fields were read from.
-/

namespace MsgPack

open Value

variable {α β : Type}

namespace Formatter

/-- `f` reads the value `v` as `a` and writes it back. -/
def Relays (f : Formatter α) (v : Value) (a : α) : Prop :=
  Reads f.deserialize v.elements a ∧ ∃ ws, f.serialize a = .ok ws ∧ written ws = v.elements

/-- The value of a list that may be null. -/
def ofList (enc : α → Value) : Option (List α) → Value
  | none => .nil
  | some as => .array (as.map enc)

lemma string_relays (s : Option String) : string.Relays (ofString s) s := by
  unfold Relays
  rw [elements_ofString]
  exact ⟨Reads.readString s, _, rfl, rfl⟩

lemma int64_relays (n : Int64) : int64.Relays (.integer n.toInt) n :=
  ⟨Reads.readInt64 n, _, rfl, rfl⟩

lemma object_relays (v : Value) : object.Relays v v := by
  refine ⟨readValue_elements v, _, rfl, ?_⟩
  simp [written, Function.comp_def]

/-- The values of a list pass one after the other. -/
lemma relays_serializeAll {f : Formatter α} {enc : α → Value} (hf : ∀ a, f.Relays (enc a) a)
    (as : List α) :
    Reads (Reader.replicate f.deserialize as.length) (listElements (as.map enc)) as ∧
      ∃ ws, serializeAll f.serialize as = .ok ws ∧ written ws = listElements (as.map enc) := by
  induction as with
  | nil => exact ⟨Reads.replicate_zero, [], rfl, rfl⟩
  | cons a as ih =>
    obtain ⟨hreads, ws, hws, hwritten⟩ := ih
    obtain ⟨hread, w, hw, hwritten'⟩ := hf a
    rw [List.map_cons, listElements]
    refine ⟨Reads.replicate_succ hread hreads, w ++ ws, ?_, ?_⟩
    · rw [serializeAll, hw, hws]
      rfl
    · rw [written_append, hwritten, hwritten']

/-- A list passes if its values do. -/
lemma list_relays {f : Formatter α} {enc : α → Value} (hf : ∀ a, f.Relays (enc a) a)
    (as : Option (List α)) : (list f).Relays (ofList enc as) as := by
  cases as with
  | none => exact ⟨Reads.orNil_nil, _, rfl, rfl⟩
  | some as =>
    obtain ⟨hreads, ws, hws, hwritten⟩ := relays_serializeAll hf as
    unfold Relays
    rw [ofList, elements, List.length_map]
    refine ⟨Reads.orNil_some (by simp) ((Reads.readArrayHeader _).bind_cons hreads),
      .arrayHeader as.length :: ws, ?_, ?_⟩
    · simp only [list, hws]
      rfl
    · rw [written_cons, hwritten]
      rfl

end Formatter

namespace Fields

/-- The fields are read from the values `vs` as `b` and written back. -/
structure Relays (fields : Fields β) (vs : List Value) (b : β) : Prop where
  length : vs.length = fields.count
  reads : Reads (fields.deserialize fields.count) (listElements vs) b
  writes : ∃ ws, fields.serialize b = .ok ws ∧ written ws = listElements vs

lemma nil_relays : nil.Relays [] () := ⟨rfl, Reads.skip_zero, [], rfl, rfl⟩

/-- One more field passes in front of the others. -/
lemma cons_relays {f : Formatter α} {default : α} {rest : Fields β} {v : Value} {vs : List Value}
    {a : α} {b : β} (hf : f.Relays v a) (hrest : rest.Relays vs b) :
    (cons f default rest).Relays (v :: vs) (a, b) := by
  obtain ⟨hread, w, hw, hwritten⟩ := hf
  obtain ⟨ws, hws, hwritten'⟩ := hrest.writes
  refine ⟨?_, ?_, w ++ ws, ?_, ?_⟩
  · rw [List.length_cons, hrest.length]
    rfl
  · rw [listElements]
    exact reads_cons hread hrest.reads
  · exact serialize_cons_eq_ok.mpr ⟨w, hw, ws, hws, rfl⟩
  · rw [listElements, written_append, hwritten, hwritten']

end Fields

/-- An instance of a class with integer keys passes if its fields do. -/
lemma Formatter.keyed_relays {fields : Fields β} {toFields : α → β} {ofFields : β → α}
    {vs : List Value} {a : α} (h : fields.Relays vs (toFields a))
    (hof : ofFields (toFields a) = a) :
    (keyed fields toFields ofFields).Relays (.array vs) (some a) := by
  obtain ⟨ws, hws, hwritten⟩ := h.writes
  have hread := h.reads.map ofFields
  rw [hof] at hread
  unfold Relays
  rw [elements, h.length]
  refine ⟨Reads.orNil_some (by simp) ((Reads.readArrayHeader _).bind_cons hread), _,
    Formatter.serialize_keyed_eq_ok.mpr ⟨ws, hws, rfl⟩, ?_⟩
  rw [written_cons, hwritten]
  rfl

/-- The elements of an array do not tell apart last values that have the same ones. -/
lemma elements_array_concat (vs : List Value) {v v' : Value} (h : v.elements = v'.elements) :
    (Value.array (vs ++ [v])).elements = (Value.array (vs ++ [v'])).elements := by
  simp only [elements, listElements_append, listElements_singleton, h, List.length_append,
    List.length_singleton]

/-! ## What was read from an array -/

/-- Values that are followed by something are skipped up to it. -/
lemma skipFrom_values (vs : List Value) (rest : List Element) :
    skipFrom vs.length (listElements vs ++ rest) = .ok rest := by
  have hskip : skipFrom (0 + vs.length) (listElements vs ++ rest) = skipFrom 0 rest :=
    skipFrom_listElements fun v _ => skipFrom_elements v
  rwa [Nat.zero_add, skipFrom_zero] at hskip

/-- A class that was read from an array was read from as many fields as the array has values. -/
lemma Formatter.run_keyed_array {fields : Fields β} {toFields : α → β} {ofFields : β → α}
    {vs : List Value} {rest rest' : List Element} {o : Option α}
    (h : (keyed fields toFields ofFields).deserialize.run ((Value.array vs).elements ++ rest) =
      .ok (o, rest')) :
    ∃ b, o = some (ofFields b) ∧
      (fields.deserialize vs.length).run (listElements vs ++ rest) = .ok (b, rest') := by
  rw [elements, List.cons_append] at h
  rcases Formatter.run_keyed_eq_ok.mp h with ⟨hnil, -⟩ | ⟨n, es, b, hes, rfl, hb⟩
  · cases hnil
  · cases hes
    exact ⟨b, rfl, hb⟩

/-- The first field was read from the first value, and the others from the others. -/
lemma Fields.run_cons_values {f : Formatter α} {default : α} {fields : Fields β} (hf : f.Whole)
    {v : Value} {vs : List Value} {rest rest' : List Element} {p : α × β}
    (h : ((cons f default fields).deserialize (v :: vs).length).run
      (listElements (v :: vs) ++ rest) = .ok (p, rest')) :
    f.deserialize.run (v.elements ++ (listElements vs ++ rest)) =
        .ok (p.1, listElements vs ++ rest) ∧
      (fields.deserialize vs.length).run (listElements vs ++ rest) = .ok (p.2, rest') := by
  rw [List.length_cons, listElements, List.append_assoc, Fields.run_cons_succ_eq_ok] at h
  obtain ⟨es, hfirst, hothers⟩ := h
  have hskip := hf _ _ _ hfirst
  rw [skipFrom_elements v 0, skipFrom_zero] at hskip
  cases hskip
  exact ⟨hfirst, hothers⟩

end MsgPack
