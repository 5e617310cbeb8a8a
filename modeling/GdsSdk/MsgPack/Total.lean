import GdsSdk.MsgPack.Closed

/-!
# Formatters that write every value

Most formatters cannot fail to write: what they are given they put down as elements, one part after
the other.  `Formatter.Total f` says so of `f`, and passes from the fields of a class to the class.
So whoever has read a value with such a formatter can hand it on.
-/

namespace MsgPack

/-- Values of which each can be written can be written one after the other. -/
lemma exists_serializeAll {α : Type} {write : α → Except WriteError (List WriteOp)} {as : List α}
    (h : ∀ a ∈ as, ∃ ws, write a = .ok ws) : ∃ ws, serializeAll write as = .ok ws := by
  induction as with
  | nil => exact ⟨[], rfl⟩
  | cons a as ih =>
    obtain ⟨w, hw⟩ := h a List.mem_cons_self
    obtain ⟨ws, hws⟩ := ih fun a ha => h a (List.mem_cons_of_mem _ ha)
    refine ⟨w ++ ws, ?_⟩
    rw [serializeAll, hw, hws]
    rfl

namespace Formatter

variable {α β κ υ : Type}

/-- `f` writes every value of its type. -/
def Total (f : Formatter α) : Prop := ∀ a, ∃ ws, f.serialize a = .ok ws

lemma nullable_total {f : Formatter α} (hf : f.Total) : (nullable f).Total := by
  intro a
  cases a with
  | none => exact ⟨_, rfl⟩
  | some a => exact hf a

/-- A list whose values can be written can be written. -/
lemma exists_serialize_list {f : Formatter α} {as : List α}
    (h : ∀ a ∈ as, ∃ ws, f.serialize a = .ok ws) : ∃ ws, (list f).serialize (some as) = .ok ws := by
  obtain ⟨ws, hws⟩ := exists_serializeAll h
  refine ⟨.arrayHeader as.length :: ws, ?_⟩
  simp only [list, hws]
  rfl

lemma list_total {f : Formatter α} (hf : f.Total) : (list f).Total := by
  intro as
  cases as with
  | none => exact ⟨_, rfl⟩
  | some as => exact exists_serialize_list fun a _ => hf a

lemma entry_total {fk : Formatter κ} {fv : Formatter υ} (hk : fk.Total) (hv : fv.Total) :
    (entry fk fv).Total := by
  intro p
  obtain ⟨k, hkw⟩ := hk p.1
  obtain ⟨v, hvw⟩ := hv p.2
  exact ⟨k ++ v, bind_eq_ok.mpr ⟨k, hkw, bind_eq_ok.mpr ⟨v, hvw, rfl⟩⟩⟩

lemma dictionary_total [DecidableEq κ] {fk : Formatter κ} {fv : Formatter υ} (hk : fk.Total)
    (hv : fv.Total) : (dictionary fk fv).Total := by
  intro d
  cases d with
  | none => exact ⟨_, rfl⟩
  | some d =>
    obtain ⟨ws, hws⟩ := exists_serializeAll fun p (_ : p ∈ d.entries) => entry_total hk hv p
    exact ⟨_, bind_eq_ok.mpr ⟨ws, hws, rfl⟩⟩

end Formatter

namespace Fields

variable {α β : Type}

/-- The fields of every instance are written. -/
def Total (fields : Fields β) : Prop := ∀ b, ∃ ws, fields.serialize b = .ok ws

/-- The fields of an instance are written if the first one is and the others are. -/
lemma exists_serialize_cons {f : Formatter α} {default : α} {rest : Fields β} {p : α × β}
    (hf : ∃ ws, f.serialize p.1 = .ok ws) (hrest : ∃ ws, rest.serialize p.2 = .ok ws) :
    ∃ ws, (cons f default rest).serialize p = .ok ws := by
  obtain ⟨w, hw⟩ := hf
  obtain ⟨ws, hws⟩ := hrest
  exact ⟨w ++ ws, serialize_cons_eq_ok.mpr ⟨w, hw, ws, hws, rfl⟩⟩

lemma nil_total : nil.Total := fun _ => ⟨[], rfl⟩

lemma cons_total {f : Formatter α} {default : α} {rest : Fields β} (hf : f.Total)
    (hrest : rest.Total) : (cons f default rest).Total :=
  fun p => exists_serialize_cons (hf p.1) (hrest p.2)

end Fields

namespace NamedFields

variable {α β : Type}

/-- The fields of every instance are written. -/
def Total (fields : NamedFields β) : Prop := ∀ b, ∃ ws, fields.serialize b = .ok ws

lemma cons_total {name : String} {f : Formatter α} {default : α} {rest : NamedFields β}
    (hf : f.Total) (hrest : rest.Total) : (cons name f default rest).Total := by
  intro p
  obtain ⟨w, hw⟩ := hf p.1
  obtain ⟨ws, hws⟩ := hrest p.2
  exact ⟨_, bind_eq_ok.mpr ⟨w, hw, bind_eq_ok.mpr ⟨ws, hws, rfl⟩⟩⟩

end NamedFields

namespace Formatter

variable {α β : Type}

/-- An instance of a class with integer keys is written if its fields are. -/
lemma exists_serialize_keyed {fields : Fields β} {toFields : α → β} {ofFields : β → α} {a : α}
    (h : ∃ ws, fields.serialize (toFields a) = .ok ws) :
    ∃ ws, (keyed fields toFields ofFields).serialize (some a) = .ok ws := by
  obtain ⟨ws, hws⟩ := h
  exact ⟨_, serialize_keyed_eq_ok.mpr ⟨ws, hws, rfl⟩⟩

lemma keyed_total {fields : Fields β} {toFields : α → β} {ofFields : β → α} (h : fields.Total) :
    (keyed fields toFields ofFields).Total := by
  intro a
  cases a with
  | none => exact ⟨_, rfl⟩
  | some a => exact exists_serialize_keyed (h (toFields a))

lemma named_total {fields : NamedFields β} {toFields : α → β} {ofFields : β → α}
    (h : fields.Total) : (named fields toFields ofFields).Total := by
  intro a
  cases a with
  | none => exact ⟨_, rfl⟩
  | some a =>
    obtain ⟨ws, hws⟩ := h (toFields a)
    exact ⟨_, bind_eq_ok.mpr ⟨ws, hws, rfl⟩⟩

/-- To write every value passes from the parts of a class to the class. -/
theorem total_closed : Closed @Total @Fields.Total @NamedFields.Total where
  boolean := fun _ => ⟨_, rfl⟩
  int32 := fun _ => ⟨_, rfl⟩
  int64 := fun _ => ⟨_, rfl⟩
  string := fun _ => ⟨_, rfl⟩
  requiredString := fun _ => ⟨_, rfl⟩
  bytes := fun _ => ⟨_, rfl⟩
  object := fun _ => ⟨_, rfl⟩
  wrap := fun unwrap _ hf b => hf (unwrap b)
  nullable := nullable_total
  list := list_total
  dictionary := dictionary_total
  nil := Fields.nil_total
  cons := Fields.cons_total
  keyed := keyed_total
  namedNil := fun _ => ⟨[], rfl⟩
  namedCons := NamedFields.cons_total
  named := named_total

end Formatter

end MsgPack
