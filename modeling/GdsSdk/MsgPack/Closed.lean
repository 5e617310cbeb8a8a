import GdsSdk.MsgPack.Value

/-!
# Properties that pass from the parts of a class to the class

The formatter of a class is put together from those of its fields.  A property of formatters,
together with one of the fields of either kind of class, is `Closed` if it holds of the primitive
formatters and passes through every combination.  A class is then looked at once, for all such
properties: whatever is closed holds of its formatter.
-/

namespace MsgPack.Formatter

/-- The property `P` of formatters, `PF` of the fields of a class with integer keys and `PN` of
those of a class with field names hold of whatever is put together from parts of which they
hold. -/
structure Closed (P : ∀ {α : Type}, Formatter α → Prop) (PF : ∀ {β : Type}, Fields β → Prop)
    (PN : ∀ {β : Type}, NamedFields β → Prop) : Prop where
  boolean : P boolean
  int32 : P int32
  int64 : P int64
  string : P string
  requiredString : P requiredString
  bytes : P bytes
  object : P object
  /-- A type that travels as another one. -/
  wrap : ∀ {α β : Type} {f : Formatter α} (unwrap : β → α) (wrap : α → β), P f →
    P ⟨fun b => f.serialize (unwrap b), wrap <$> f.deserialize⟩
  nullable : ∀ {α : Type} {f : Formatter α}, P f → P (nullable f)
  list : ∀ {α : Type} {f : Formatter α}, P f → P (list f)
  dictionary : ∀ {κ υ : Type} [DecidableEq κ] {fk : Formatter κ} {fv : Formatter υ},
    P fk → P fv → P (dictionary fk fv)
  nil : PF .nil
  cons : ∀ {α β : Type} {f : Formatter α} {default : α} {rest : Fields β}, P f → PF rest →
    PF (.cons f default rest)
  keyed : ∀ {α β : Type} {fields : Fields β} {toFields : α → β} {ofFields : β → α},
    PF fields → P (keyed fields toFields ofFields)
  namedNil : PN .nil
  namedCons : ∀ {α β : Type} {name : String} {f : Formatter α} {default : α}
    {rest : NamedFields β}, P f → PN rest → PN (.cons name f default rest)
  named : ∀ {α β : Type} {fields : NamedFields β} {toFields : α → β} {ofFields : β → α},
    PN fields → P (named fields toFields ofFields)

namespace Closed

variable {P : ∀ {α : Type}, Formatter α → Prop} {PF : ∀ {β : Type}, Fields β → Prop}
  {PN : ∀ {β : Type}, NamedFields β → Prop}

/-- A list of strings. -/
lemma strings (h : Closed @P @PF @PN) : P (Formatter.list Formatter.string) := h.list h.string

/-- A record of dynamically typed values. -/
lemma objects (h : Closed @P @PF @PN) : P (Formatter.list Formatter.object) := h.list h.object

end Closed

end MsgPack.Formatter
