import GdsSdk.MsgPack.Closed

/-!
# Well-formed output

A writer is free to declare an array of three elements and to write two.  `Value` is the type of
the sequences of elements in which every header declares what follows it, and a formatter is
`WellFormed` if what it writes is always one complete value.  The rules below say that the
formatters of lists, of dictionaries and of annotated classes are well formed if those of their
parts are; `wellFormed_closed` collects them.
-/

namespace MsgPack

open Value

/-! ## Elements of several values -/

lemma listElements_append (vs vs' : List Value) :
    listElements (vs ++ vs') = listElements vs ++ listElements vs' := by
  induction vs with
  | nil => rfl
  | cons v vs ih => rw [List.cons_append, listElements, listElements, ih, List.append_assoc]

lemma listElements_singleton (v : Value) : listElements [v] = v.elements := by
  rw [listElements, listElements, List.append_nil]

/-- Every value has a first element. -/
lemma Value.elements_ne_nil (v : Value) : v.elements ≠ [] := by
  cases v <;> simp [Value.elements]

namespace Formatter

variable {α β κ υ : Type}

/-- What `f` writes is one complete value. -/
def WellFormed (f : Formatter α) : Prop :=
  ∀ a ws, f.serialize a = .ok ws → ∃ v : Value, written ws = v.elements

/-! ## Primitive types -/

/-- The value of a string or of the null string. -/
def ofString : Option String → Value
  | none => .nil
  | some s => .string s

lemma elements_ofString (s : Option String) :
    (ofString s).elements = [(WriteOp.string s).toElement] := by
  cases s <;> rfl

lemma boolean_wellFormed : boolean.WellFormed := by
  rintro b ws ⟨⟩
  exact ⟨.boolean b, rfl⟩

lemma int32_wellFormed : int32.WellFormed := by
  rintro n ws ⟨⟩
  exact ⟨.integer n.toInt, rfl⟩

lemma int64_wellFormed : int64.WellFormed := by
  rintro n ws ⟨⟩
  exact ⟨.integer n.toInt, rfl⟩

lemma string_wellFormed : string.WellFormed := by
  rintro s ws ⟨⟩
  exact ⟨ofString s, (elements_ofString s).symm⟩

lemma requiredString_wellFormed : requiredString.WellFormed := by
  rintro s ws ⟨⟩
  exact ⟨.string s, rfl⟩

lemma bytes_wellFormed : bytes.WellFormed := by
  rintro (_ | data) ws ⟨⟩
  · exact ⟨.nil, rfl⟩
  · exact ⟨.binary data, rfl⟩

lemma object_wellFormed : object.WellFormed := by
  rintro v ws ⟨⟩
  refine ⟨v, ?_⟩
  simp [written, Function.comp_def]

lemma nullable_wellFormed {f : Formatter α} (hf : f.WellFormed) : (nullable f).WellFormed := by
  rintro (_ | a) ws hws
  · cases hws
    exact ⟨.nil, rfl⟩
  · exact hf a ws hws

/-! ## Lists and dictionaries -/

/-- The values of a list are written one after the other. -/
lemma WellFormed.serializeAll {f : Formatter α} (hf : f.WellFormed) (as : List α) :
    ∀ ws, serializeAll f.serialize as = .ok ws →
      ∃ vs : List Value, written ws = listElements vs ∧ vs.length = as.length := by
  induction as with
  | nil =>
    rintro ws ⟨⟩
    exact ⟨[], rfl, rfl⟩
  | cons a as ih =>
    intro ws hws
    simp only [MsgPack.serializeAll, bind_eq_ok] at hws
    obtain ⟨w, hw, ws', hws', ⟨⟩⟩ := hws
    obtain ⟨v, hv⟩ := hf a w hw
    obtain ⟨vs, hvs, hlength⟩ := ih ws' hws'
    refine ⟨v :: vs, ?_, by rw [List.length_cons, List.length_cons, hlength]⟩
    rw [written_append, hv, hvs, listElements]

lemma list_wellFormed {f : Formatter α} (hf : f.WellFormed) : (list f).WellFormed := by
  rintro (_ | as) ws hws
  · cases hws
    exact ⟨.nil, rfl⟩
  · simp only [list, bind_eq_ok] at hws
    obtain ⟨ws', hws', ⟨⟩⟩ := hws
    obtain ⟨vs, hvs, hlength⟩ := hf.serializeAll as ws' hws'
    refine ⟨.array vs, ?_⟩
    rw [written_cons, hvs, WriteOp.toElement_arrayHeader, elements, hlength]

/-- The entries of a dictionary are written one after the other, each as a key and a value. -/
lemma WellFormed.serializeEntries {fk : Formatter κ} {fv : Formatter υ} (hk : fk.WellFormed)
    (hv : fv.WellFormed) (ps : List (κ × υ)) :
    ∀ ws, MsgPack.serializeAll (entry fk fv).serialize ps = .ok ws →
      ∃ es : List (Value × Value), written ws = entryElements es ∧ es.length = ps.length := by
  induction ps with
  | nil =>
    rintro ws ⟨⟩
    exact ⟨[], rfl, rfl⟩
  | cons p ps ih =>
    intro ws hws
    simp only [MsgPack.serializeAll, entry, bind_eq_ok] at hws
    obtain ⟨_, ⟨k, hkw, v, hvw, ⟨⟩⟩, ws', hws', ⟨⟩⟩ := hws
    obtain ⟨key, hkey⟩ := hk _ _ hkw
    obtain ⟨value, hvalue⟩ := hv _ _ hvw
    obtain ⟨es, hes, hlength⟩ := ih ws' hws'
    refine ⟨(key, value) :: es, ?_, by rw [List.length_cons, List.length_cons, hlength]⟩
    rw [written_append, written_append, hkey, hvalue, hes, entryElements]

lemma dictionary_wellFormed [DecidableEq κ] {fk : Formatter κ} {fv : Formatter υ}
    (hk : fk.WellFormed) (hv : fv.WellFormed) : (dictionary fk fv).WellFormed := by
  rintro (_ | d) ws hws
  · cases hws
    exact ⟨.nil, rfl⟩
  · simp only [dictionary, bind_eq_ok] at hws
    obtain ⟨ws', hws', ⟨⟩⟩ := hws
    obtain ⟨es, hes, hlength⟩ := hk.serializeEntries hv d.entries ws' hws'
    refine ⟨.map es, ?_⟩
    rw [written_cons, hes, WriteOp.toElement_mapHeader, elements, hlength]

end Formatter

/-! ## Annotated classes -/

namespace Fields

variable {α β : Type}

/-- The fields are written as as many values as there are fields. -/
def WellFormed (fields : Fields β) : Prop :=
  ∀ b ws, fields.serialize b = .ok ws →
    ∃ vs : List Value, written ws = listElements vs ∧ vs.length = fields.count

lemma nil_wellFormed : nil.WellFormed := by
  rintro b ws ⟨⟩
  exact ⟨[], rfl, rfl⟩

lemma cons_wellFormed {f : Formatter α} {default : α} {rest : Fields β} (hf : f.WellFormed)
    (hrest : rest.WellFormed) : (cons f default rest).WellFormed := by
  intro p ws hws
  simp only [cons, bind_eq_ok] at hws
  obtain ⟨w, hw, ws', hws', ⟨⟩⟩ := hws
  obtain ⟨v, hv⟩ := hf _ _ hw
  obtain ⟨vs, hvs, hcount⟩ := hrest _ _ hws'
  refine ⟨v :: vs, ?_, by rw [List.length_cons, hcount]; rfl⟩
  rw [written_append, hv, hvs, listElements]

end Fields

namespace NamedFields

variable {α β : Type}

/-- The fields are written as as many entries as there are fields. -/
def WellFormed (fields : NamedFields β) : Prop :=
  ∀ b ws, fields.serialize b = .ok ws →
    ∃ es : List (Value × Value), written ws = entryElements es ∧ es.length = fields.names.length

lemma nil_wellFormed : nil.WellFormed := by
  rintro b ws ⟨⟩
  exact ⟨[], rfl, rfl⟩

lemma cons_wellFormed {name : String} {f : Formatter α} {default : α} {rest : NamedFields β}
    (hf : f.WellFormed) (hrest : rest.WellFormed) :
    (cons name f default rest).WellFormed := by
  intro p ws hws
  simp only [cons, bind_eq_ok] at hws
  obtain ⟨w, hw, ws', hws', ⟨⟩⟩ := hws
  obtain ⟨v, hv⟩ := hf _ _ hw
  obtain ⟨es, hes, hcount⟩ := hrest _ _ hws'
  refine ⟨(.string name, v) :: es, ?_, ?_⟩
  · rw [written_cons, written_append, hv, hes, entryElements]
    rfl
  · rw [List.length_cons, hcount]
    rfl

end NamedFields

namespace Formatter

variable {α β : Type}

lemma keyed_wellFormed {fields : Fields β} {toFields : α → β} {ofFields : β → α}
    (h : fields.WellFormed) : (keyed fields toFields ofFields).WellFormed := by
  rintro (_ | a) ws hws
  · cases hws
    exact ⟨.nil, rfl⟩
  · simp only [keyed, bind_eq_ok] at hws
    obtain ⟨ws', hws', ⟨⟩⟩ := hws
    obtain ⟨vs, hvs, hcount⟩ := h _ _ hws'
    refine ⟨.array vs, ?_⟩
    rw [written_cons, hvs, WriteOp.toElement_arrayHeader, elements, hcount]

lemma named_wellFormed {fields : NamedFields β} {toFields : α → β} {ofFields : β → α}
    (h : fields.WellFormed) : (named fields toFields ofFields).WellFormed := by
  rintro (_ | a) ws hws
  · cases hws
    exact ⟨.nil, rfl⟩
  · simp only [named, bind_eq_ok] at hws
    obtain ⟨ws', hws', ⟨⟩⟩ := hws
    obtain ⟨es, hes, hcount⟩ := h _ _ hws'
    refine ⟨.map es, ?_⟩
    rw [written_cons, hes, WriteOp.toElement_mapHeader, elements, hcount]

/-- Well-formed output passes from the parts of a class to the class. -/
theorem wellFormed_closed :
    Closed @WellFormed @Fields.WellFormed @NamedFields.WellFormed where
  boolean := boolean_wellFormed
  int32 := int32_wellFormed
  int64 := int64_wellFormed
  string := string_wellFormed
  requiredString := requiredString_wellFormed
  bytes := bytes_wellFormed
  object := object_wellFormed
  wrap := fun unwrap _ hf b ws hws => hf (unwrap b) ws hws
  nullable := nullable_wellFormed
  list := list_wellFormed
  dictionary := dictionary_wellFormed
  nil := Fields.nil_wellFormed
  cons := Fields.cons_wellFormed
  keyed := keyed_wellFormed
  namedNil := NamedFields.nil_wellFormed
  namedCons := NamedFields.cons_wellFormed
  named := named_wellFormed

end Formatter

end MsgPack
