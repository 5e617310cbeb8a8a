import GdsSdk.MsgPack.Reader

/-!
# Formatters

A formatter pairs the serializer of a type with its deserializer.  This file has the formatters
of the primitive types, of lists and dictionaries, and of the two kinds of annotated class: one
whose fields have integer keys and travel as an array in key order, and one whose fields travel
as a map from their names.

`Formatter.RoundTrips f norm` says that what `f` has written it reads back as `norm` of the
value, consuming exactly the elements that were written; `Formatter.Exact f` is the case where
nothing is lost.
-/

namespace MsgPack

/-- What can go wrong while a value is written. -/
inductive WriteError where
  /-- A value is not an instance of the type it is cast to. -/
  | invalidCast
  /-- A member of a null object is accessed. -/
  | nullReference
  /-- An operation was requested that is not available. -/
  | invalidOperation (message : String)
  deriving DecidableEq

/-- The serializer and the deserializer of a type. -/
structure Formatter (α : Type) where
  serialize : α → Except WriteError (List WriteOp)
  deserialize : Reader α

/-- Write the values of a list one after the other. -/
def serializeAll {α : Type} (write : α → Except WriteError (List WriteOp)) :
    List α → Except WriteError (List WriteOp)
  | [] => return []
  | a :: as => do
    let w ← write a
    let ws ← serializeAll write as
    return w ++ ws

/-- A bind succeeds exactly when both of its parts do. -/
lemma bind_eq_ok {ε α β : Type} {x : Except ε α} {f : α → Except ε β} {b : β} :
    (x >>= f) = .ok b ↔ ∃ a, x = .ok a ∧ f a = .ok b := by
  cases x <;> simp [Bind.bind, Except.bind]

namespace Formatter

variable {α β κ υ : Type}

/-- What `f` has written is read back as `norm` of it. -/
def RoundTrips (f : Formatter α) (norm : α → α) : Prop :=
  ∀ a ws, f.serialize a = .ok ws → Reads f.deserialize (written ws) (norm a)

/-- What `f` has written is read back unchanged. -/
def Exact (f : Formatter α) : Prop :=
  ∀ a ws, f.serialize a = .ok ws → Reads f.deserialize (written ws) a

/-- What `f` writes never starts with nil, so that nil can stand for an absent value. -/
def NeverNil (f : Formatter α) : Prop :=
  ∀ a ws, f.serialize a = .ok ws → ∃ e es, written ws = e :: es ∧ e ≠ .nil

lemma Exact.roundTrips {f : Formatter α} (h : f.Exact) : f.RoundTrips id := h

/-! ## Primitive types -/

def boolean : Formatter Bool where
  serialize b := return [.boolean b]
  deserialize := Reader.readBoolean

/-- Integers in their shortest form. -/
def int32 : Formatter Int32 where
  serialize n := return [.integer n.toInt]
  deserialize := Reader.readInt32

/-- Integers in their shortest form. -/
def int64 : Formatter Int64 where
  serialize n := return [.integer n.toInt]
  deserialize := Reader.readInt64

def string : Formatter (Option String) where
  serialize s := return [.string s]
  deserialize := Reader.readString

/-- A string that must not be null, such as the key of a dictionary. -/
def requiredString : Formatter String where
  serialize s := return [.string (some s)]
  deserialize := do
    match ← Reader.readString with
    | some s => return s
    | none => throw .argumentNull

def bytes : Formatter (Option (List UInt8)) where
  serialize data := return [.binary data]
  deserialize := Reader.readBytes

/-- A value type that may be absent. -/
def nullable (f : Formatter α) : Formatter (Option α) where
  serialize
    | none => return [.nil]
    | some a => f.serialize a
  deserialize := Reader.orNil f.deserialize

lemma boolean_exact : boolean.Exact := by
  rintro b ws ⟨⟩
  exact Reads.readBoolean b

lemma int32_exact : int32.Exact := by
  rintro n ws ⟨⟩
  exact Reads.readInt32 n

lemma int64_exact : int64.Exact := by
  rintro n ws ⟨⟩
  exact Reads.readInt64 n

lemma string_exact : string.Exact := by
  rintro s ws ⟨⟩
  exact Reads.readString s

lemma requiredString_exact : requiredString.Exact := by
  rintro s ws ⟨⟩
  exact (Reads.readString (some s)).bind_cons (Reads.pure s)

lemma bytes_exact : bytes.Exact := by
  rintro data ws ⟨⟩
  exact Reads.readBytes data

lemma boolean_neverNil : boolean.NeverNil := by
  rintro b ws ⟨⟩
  exact ⟨_, _, rfl, by simp⟩

lemma int64_neverNil : int64.NeverNil := by
  rintro n ws ⟨⟩
  exact ⟨_, _, rfl, by simp⟩

lemma nullable_exact {f : Formatter α} (hf : f.Exact) (hnil : f.NeverNil) :
    (nullable f).Exact := by
  rintro (_ | a) ws hws
  · cases hws
    exact Reads.orNil_nil
  · obtain ⟨e, es, hes, he⟩ := hnil a ws hws
    have hr := hf a ws hws
    rw [hes] at hr ⊢
    exact Reads.orNil_some he hr

/-! ## Lists -/

/-- A list that may be null, as an array. -/
def list (f : Formatter α) : Formatter (Option (List α)) where
  serialize
    | none => return [.nil]
    | some as => do
      let ws ← serializeAll f.serialize as
      return .arrayHeader as.length :: ws
  deserialize := Reader.orNil do
    let n ← Reader.readArrayHeader
    Reader.replicate f.deserialize n

lemma Exact.serializeAll {f : Formatter α} (hf : f.Exact) (as : List α) :
    ∀ ws, serializeAll f.serialize as = .ok ws →
      Reads (Reader.replicate f.deserialize as.length) (written ws) as := by
  induction as with
  | nil =>
    rintro ws ⟨⟩
    exact Reads.replicate_zero
  | cons a as ih =>
    intro ws hws
    simp only [MsgPack.serializeAll, bind_eq_ok] at hws
    obtain ⟨w, hw, ws', hws', ⟨⟩⟩ := hws
    rw [written_append]
    exact Reads.replicate_succ (hf a w hw) (ih ws' hws')

lemma list_exact {f : Formatter α} (hf : f.Exact) : (list f).Exact := by
  rintro (_ | as) ws hws
  · cases hws
    exact Reads.orNil_nil
  · simp only [list, bind_eq_ok] at hws
    obtain ⟨ws', hws', ⟨⟩⟩ := hws
    exact Reads.orNil_some (by simp)
      ((Reads.readArrayHeader _).bind_cons (hf.serializeAll as ws' hws'))

/-! ## Dictionaries -/

end Formatter

/-- A dictionary in the order of its insertions.  No key occurs twice. -/
structure Dictionary (κ υ : Type) where
  entries : List (κ × υ)
  nodup : (entries.map Prod.fst).Nodup

namespace Dictionary

variable {κ υ : Type}

/-- The dictionary without entries. -/
def empty : Dictionary κ υ := ⟨[], List.nodup_nil⟩

/-- Add entries one by one, which fails on a key that is already present. -/
def ofEntries [DecidableEq κ] (entries : List (κ × υ)) : Reader (Dictionary κ υ) :=
  if h : (entries.map Prod.fst).Nodup then return ⟨entries, h⟩ else throw .duplicateKey

lemma ofEntries_entries [DecidableEq κ] (d : Dictionary κ υ) :
    ofEntries d.entries = (pure d : Reader (Dictionary κ υ)) := by
  rw [ofEntries, dif_pos d.nodup]

end Dictionary

namespace Formatter

variable {α β κ υ : Type}

/-- A key followed by its value. -/
def entry (fk : Formatter κ) (fv : Formatter υ) : Formatter (κ × υ) where
  serialize p := do
    let k ← fk.serialize p.1
    let v ← fv.serialize p.2
    return k ++ v
  deserialize := do
    let k ← fk.deserialize
    let v ← fv.deserialize
    return (k, v)

/-- A dictionary that may be null, as a map. -/
def dictionary [DecidableEq κ] (fk : Formatter κ) (fv : Formatter υ) :
    Formatter (Option (Dictionary κ υ)) where
  serialize
    | none => return [.nil]
    | some d => do
      let ws ← serializeAll (entry fk fv).serialize d.entries
      return .mapHeader d.entries.length :: ws
  deserialize := Reader.orNil do
    let n ← Reader.readMapHeader
    let entries ← Reader.replicate (entry fk fv).deserialize n
    Dictionary.ofEntries entries

lemma entry_exact {fk : Formatter κ} {fv : Formatter υ} (hk : fk.Exact) (hv : fv.Exact) :
    (entry fk fv).Exact := by
  intro p ws hws
  simp only [entry, bind_eq_ok] at hws
  obtain ⟨k, hkw, v, hvw, ⟨⟩⟩ := hws
  rw [written_append]
  exact (hk _ _ hkw).bind ((hv _ _ hvw).map fun v => (p.1, v))

lemma dictionary_exact [DecidableEq κ] {fk : Formatter κ} {fv : Formatter υ} (hk : fk.Exact)
    (hv : fv.Exact) : (dictionary fk fv).Exact := by
  rintro (_ | d) ws hws
  · cases hws
    exact Reads.orNil_nil
  · simp only [dictionary, bind_eq_ok] at hws
    obtain ⟨ws', hws', ⟨⟩⟩ := hws
    have hentries := (entry_exact hk hv).serializeAll d.entries ws' hws'
    have hdict : Reads (Dictionary.ofEntries d.entries) [] d := by
      rw [Dictionary.ofEntries_entries]
      exact Reads.pure d
    refine Reads.orNil_some (by simp)
      ((Reads.readMapHeader _).bind_cons ?_)
    have hread := hentries.bind hdict
    rwa [List.append_nil] at hread

end Formatter

/-! ## Classes with integer keys -/

/-- The fields of a class in key order.  A reader that finds fewer fields than the class has
fills in the defaults, and one that finds more skips them. -/
structure Fields (β : Type) where
  count : ℕ
  serialize : β → Except WriteError (List WriteOp)
  deserialize : ℕ → Reader β

namespace Fields

variable {α β : Type}

/-- No further field. -/
def nil : Fields Unit where
  count := 0
  serialize _ := return []
  deserialize n := Reader.skip n

/-- One more field in front of the others. -/
def cons (f : Formatter α) (default : α) (rest : Fields β) : Fields (α × β) where
  count := rest.count + 1
  serialize p := do
    let w ← f.serialize p.1
    let ws ← rest.serialize p.2
    return w ++ ws
  deserialize
    | 0 => do
      let b ← rest.deserialize 0
      return (default, b)
    | n + 1 => do
      let a ← f.deserialize
      let b ← rest.deserialize n
      return (a, b)

/-- The fields are written one after the other. -/
lemma serialize_cons_eq_ok {f : Formatter α} {default : α} {rest : Fields β} {p : α × β}
    {ws : List WriteOp} :
    (cons f default rest).serialize p = .ok ws ↔
      ∃ w, f.serialize p.1 = .ok w ∧ ∃ ws', rest.serialize p.2 = .ok ws' ∧ w ++ ws' = ws := by
  simp [cons, bind_eq_ok, Pure.pure, Except.pure]

/-- Reading a further field and then the others. -/
lemma reads_cons {f : Formatter α} {default : α} {rest : Fields β} {n : ℕ} {a : α} {b : β}
    {es es' : List Element} (hf : Reads f.deserialize es a)
    (hrest : Reads (rest.deserialize n) es' b) :
    Reads ((cons f default rest).deserialize (n + 1)) (es ++ es') (a, b) :=
  hf.bind (hrest.map fun b => (a, b))

/-- What the fields have written is read back as `norm` of it. -/
def RoundTrips (fields : Fields β) (norm : β → β) : Prop :=
  ∀ b ws, fields.serialize b = .ok ws →
    Reads (fields.deserialize fields.count) (written ws) (norm b)

lemma nil_roundTrips : nil.RoundTrips id := by
  rintro b ws ⟨⟩
  exact Reads.skip_zero

lemma cons_roundTrips {f : Formatter α} {default : α} {rest : Fields β} {norm : α → α}
    {norms : β → β} (hf : f.RoundTrips norm) (hrest : rest.RoundTrips norms) :
    (cons f default rest).RoundTrips (Prod.map norm norms) := by
  intro p ws hws
  simp only [cons, bind_eq_ok] at hws
  obtain ⟨w, hw, ws', hws', ⟨⟩⟩ := hws
  rw [written_append]
  exact reads_cons (hf _ _ hw) (hrest _ _ hws')

lemma cons_exact {f : Formatter α} {default : α} {rest : Fields β} (hf : f.Exact)
    (hrest : rest.RoundTrips id) : (cons f default rest).RoundTrips id :=
  cons_roundTrips hf.roundTrips hrest

end Fields

namespace Formatter

variable {α β γ : Type}

/-- A class with integer keys that may be null: an array of its fields. -/
def keyed (fields : Fields β) (toFields : α → β) (ofFields : β → α) : Formatter (Option α) where
  serialize
    | none => return [.nil]
    | some a => do
      let ws ← fields.serialize (toFields a)
      return .arrayHeader fields.count :: ws
  deserialize := Reader.orNil do
    let n ← Reader.readArrayHeader
    let b ← fields.deserialize n
    return ofFields b

/-- An instance of a class with integer keys is written as an array of its fields. -/
lemma serialize_keyed_eq_ok {fields : Fields β} {toFields : α → β} {ofFields : β → α} {a : α}
    {ws : List WriteOp} :
    (keyed fields toFields ofFields).serialize (some a) = .ok ws ↔
      ∃ ws', fields.serialize (toFields a) = .ok ws' ∧ .arrayHeader fields.count :: ws' = ws := by
  simp [keyed, bind_eq_ok, Pure.pure, Except.pure]

/-- The elements of an instance of a class with integer keys begin with those of its first
field. -/
lemma written_keyed_cons {f : Formatter γ} {default : γ} {rest : Fields β}
    {toFields : α → γ × β} {ofFields : γ × β → α} {a : α} {ws : List WriteOp}
    (h : (keyed (.cons f default rest) toFields ofFields).serialize (some a) = .ok ws) :
    ∃ w ws', f.serialize (toFields a).1 = .ok w ∧ rest.serialize (toFields a).2 = .ok ws' ∧
      written ws = .arrayHeader (rest.count + 1) :: (written w ++ written ws') := by
  rw [serialize_keyed_eq_ok] at h
  obtain ⟨_, hfields, rfl⟩ := h
  obtain ⟨w, hw, ws', hws', rfl⟩ := Fields.serialize_cons_eq_ok.mp hfields
  refine ⟨w, ws', hw, hws', ?_⟩
  rw [written_cons, written_append]
  rfl

/-- Reading an instance of a class with integer keys. -/
lemma reads_keyed {fields : Fields β} {toFields : α → β} {ofFields : β → α} {n : ℕ} {b : β}
    {es : List Element} (h : Reads (fields.deserialize n) es b) :
    Reads (keyed fields toFields ofFields).deserialize (.arrayHeader n :: es)
      (some (ofFields b)) :=
  Reads.orNil_some (by simp) ((Reads.readArrayHeader n).bind_cons (h.map ofFields))

lemma keyed_roundTrips {fields : Fields β} {toFields : α → β} {ofFields : β → α} {norm : β → β}
    (h : fields.RoundTrips norm) :
    (keyed fields toFields ofFields).RoundTrips
      (Option.map fun a => ofFields (norm (toFields a))) := by
  rintro (_ | a) ws hws
  · cases hws
    exact Reads.orNil_nil
  · simp only [keyed, bind_eq_ok] at hws
    obtain ⟨ws', hws', ⟨⟩⟩ := hws
    exact reads_keyed (h _ _ hws')

lemma keyed_exact {fields : Fields β} {toFields : α → β} {ofFields : β → α}
    (h : fields.RoundTrips id) (hof : ∀ a, ofFields (toFields a) = a) :
    (keyed fields toFields ofFields).Exact := by
  intro a ws hws
  simpa [hof] using keyed_roundTrips h a ws hws

end Formatter

/-! ## Classes with field names -/

/-- The fields of a class that travels as a map from field names.  `read key` replaces the field
of that name by what is read next; it is undefined on names the class does not have. -/
structure NamedFields (β : Type) where
  names : List String
  initial : β
  serialize : β → Except WriteError (List WriteOp)
  read : String → Option (β → Reader β)

namespace NamedFields

variable {α β γ : Type}

/-- No further field. -/
def nil : NamedFields Unit where
  names := []
  initial := ()
  serialize _ := return []
  read _ := none

/-- One more field in front of the others. -/
def cons (name : String) (f : Formatter α) (default : α) (rest : NamedFields β) :
    NamedFields (α × β) where
  names := name :: rest.names
  initial := (default, rest.initial)
  serialize p := do
    let w ← f.serialize p.1
    let ws ← rest.serialize p.2
    return .string name :: (w ++ ws)
  read key :=
    if key = name then some fun p => (fun a => (a, p.2)) <$> f.deserialize
    else (rest.read key).map fun r p => (fun b => (p.1, b)) <$> r p.2

/-- Read `n` entries of the map: the value under a known name goes into its field, the value
under any other key is skipped. -/
def readEntries (read : String → Option (β → Reader β)) : ℕ → β → Reader β
  | 0, b => return b
  | n + 1, b => do
    let key ← Reader.readString
    match key.bind read with
    | some r => do
      let b' ← r b
      readEntries read n b'
    | none => do
      Reader.skip 1
      readEntries read n b

/-- The entries that the fields write fill exactly these fields, also where they are only a part
`put` of the record `γ` under construction. -/
def Fills (fields : NamedFields β) : Prop :=
  ∀ {γ : Type} (put : β → γ) (read : String → Option (γ → Reader γ)),
    (∀ key r, fields.read key = some r →
      ∃ r', read key = some r' ∧ ∀ b, r' (put b) = put <$> r b) →
    ∀ b ws, fields.serialize b = .ok ws → ∀ b₀,
      Reads (readEntries read fields.names.length (put b₀)) (written ws) (put b)

/-- Every name that the fields can read is one of their names. -/
def Named (fields : NamedFields β) : Prop :=
  ∀ key, key ∉ fields.names → fields.read key = none

lemma nil_named : nil.Named := fun _ _ => rfl

lemma cons_named {name : String} {f : Formatter α} {default : α} {rest : NamedFields β}
    (h : rest.Named) : (cons name f default rest).Named := by
  intro key hkey
  simp only [cons, List.mem_cons, not_or] at hkey
  simp [cons, hkey.1, h key hkey.2]

lemma nil_fills : nil.Fills := by
  rintro γ put read - b ws ⟨⟩ b₀
  exact Reads.pure _

/-- Reading one entry under a known name. -/
lemma readEntries_succ {read : String → Option (γ → Reader γ)} {name : String}
    {r : γ → Reader γ} {n : ℕ} {c c' c'' : γ} {es es' : List Element}
    (hname : read name = some r) (hr : Reads (r c) es c')
    (hrest : Reads (readEntries read n c') es' c'') :
    Reads (readEntries read (n + 1) c) (.string name :: (es ++ es')) c'' := by
  refine (Reads.readString (some name)).bind_cons ?_
  simp only [Option.bind_some, hname]
  exact hr.bind hrest

lemma cons_fills {name : String} {f : Formatter α} {default : α} {rest : NamedFields β}
    (hf : f.Exact) (hrest : rest.Fills) (hnamed : rest.Named) (hname : name ∉ rest.names) :
    (cons name f default rest).Fills := by
  intro γ put read hread p ws hws b₀
  simp only [cons, bind_eq_ok] at hws
  obtain ⟨w, hw, ws', hws', ⟨⟩⟩ := hws
  -- the first entry fills the first field
  obtain ⟨r, hr, hput⟩ := hread name _ (if_pos rfl)
  have hfirst : Reads (r (put b₀)) (written w) (put (p.1, b₀.2)) := by
    rw [hput]
    exact ((hf _ _ hw).map fun a => (a, b₀.2)).map put
  -- the others fill the rest, since none of them has the first name
  have hothers : Reads (readEntries read rest.names.length (put (p.1, b₀.2))) (written ws')
      (put (p.1, p.2)) := by
    refine hrest (fun b => put (p.1, b)) read ?_ p.2 ws' hws' b₀.2
    intro key r hkey
    have hne : key ≠ name := by
      rintro rfl
      simp [hnamed key hname] at hkey
    have hcons : (cons name f default rest).read key =
        some fun p => (fun b => (p.1, b)) <$> r p.2 := by
      simp [cons, hne, hkey]
    obtain ⟨r', hr', hput'⟩ := hread key _ hcons
    refine ⟨r', hr', fun b => ?_⟩
    rw [hput', Functor.map_map]
  rw [written_cons, written_append]
  exact readEntries_succ hr hfirst hothers

/-- One more field that is read back unchanged. -/
lemma cons_fills_named {name : String} {f : Formatter α} {default : α}
    {rest : NamedFields β} (hf : f.Exact) (hrest : rest.Fills ∧ rest.Named)
    (hname : name ∉ rest.names) :
    (cons name f default rest).Fills ∧ (cons name f default rest).Named :=
  ⟨cons_fills hf hrest.1 hrest.2 hname, cons_named hrest.2⟩

end NamedFields

namespace Formatter

variable {α β : Type}

/-- A class with named fields that may be null: a map from the names to the fields. -/
def named (fields : NamedFields β) (toFields : α → β) (ofFields : β → α) :
    Formatter (Option α) where
  serialize
    | none => return [.nil]
    | some a => do
      let ws ← fields.serialize (toFields a)
      return .mapHeader fields.names.length :: ws
  deserialize := Reader.orNil do
    let n ← Reader.readMapHeader
    let b ← NamedFields.readEntries fields.read n fields.initial
    return ofFields b

lemma named_exact {fields : NamedFields β} {toFields : α → β} {ofFields : β → α}
    (h : fields.Fills) (hof : ∀ a, ofFields (toFields a) = a) :
    (named fields toFields ofFields).Exact := by
  rintro (_ | a) ws hws
  · cases hws
    exact Reads.orNil_nil
  · simp only [named, bind_eq_ok] at hws
    obtain ⟨ws', hws', ⟨⟩⟩ := hws
    have hread := h id fields.read (fun key r hr => ⟨r, hr, fun b => (id_map _).symm⟩) _ ws' hws'
      fields.initial
    rw [written_cons]
    refine Reads.orNil_some (by simp) ((Reads.readMapHeader _).bind_cons ?_)
    simpa [hof] using hread.map ofFields

end Formatter

end MsgPack
