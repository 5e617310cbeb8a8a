import GdsSdk.MsgPack.Runs
import GdsSdk.MsgPack.WellFormed

/-!
# Readers of whole values

Skipping a value means counting how many values are still to come, and it succeeds exactly where
the value is complete.  A reader that `Consumes` one value stops where skipping one value does, so
it fails on every input that is cut off inside the value.  The formatters of lists, dictionaries
and annotated classes consume one value if those of their parts do.
-/

namespace MsgPack

open Value

/-! ## Skipping -/

lemma skipFrom_zero (es : List Element) : skipFrom 0 es = .ok es := by
  rw [skipFrom]

lemma skipFrom_succ_cons (n : ℕ) (e : Element) (es : List Element) :
    skipFrom (n + 1) (e :: es) = skipFrom (n + e.arity) es := by
  rw [skipFrom]

/-- An element without parts is skipped as one value. -/
lemma skipFrom_single {e : Element} (h : e.arity = 0) (es : List Element) :
    skipFrom 1 (e :: es) = .ok es := by
  rw [skipFrom_succ_cons, h]
  exact skipFrom_zero es

/-- Values are skipped one after the other. -/
lemma skipFrom_add {n m : ℕ} {es es' : List Element} (h : skipFrom n es = .ok es') :
    skipFrom (n + m) es = skipFrom m es' := by
  induction es generalizing n with
  | nil =>
    cases n with
    | zero =>
      cases h
      rw [Nat.zero_add]
    | succ n => cases h
  | cons e es ih =>
    cases n with
    | zero =>
      rw [skipFrom_zero] at h
      cases h
      rw [Nat.zero_add]
    | succ n =>
      rw [skipFrom_succ_cons] at h
      rw [Nat.succ_add_eq_add_succ, show n + (m + 1) = n + m + 1 from rfl, skipFrom_succ_cons,
        Nat.add_right_comm]
      exact ih h

/-- What has been skipped does not depend on what comes after it. -/
lemma skipFrom_append {n : ℕ} {es es' : List Element} (h : skipFrom n es = .ok es')
    (rest : List Element) : skipFrom n (es ++ rest) = .ok (es' ++ rest) := by
  induction es generalizing n with
  | nil =>
    cases n with
    | zero =>
      cases h
      exact skipFrom_zero _
    | succ n => cases h
  | cons e es ih =>
    cases n with
    | zero =>
      rw [skipFrom_zero] at h
      cases h
      exact skipFrom_zero _
    | succ n =>
      rw [skipFrom_succ_cons] at h
      rw [List.cons_append, skipFrom_succ_cons]
      exact ih h

/-- The values of an array are skipped if each of them is. -/
lemma skipFrom_listElements {vs : List Value} {n : ℕ} {rest : List Element}
    (h : ∀ v ∈ vs, ∀ n rest, skipFrom (n + 1) (v.elements ++ rest) = skipFrom n rest) :
    skipFrom (n + vs.length) (listElements vs ++ rest) = skipFrom n rest := by
  induction vs with
  | nil => rfl
  | cons v vs ih =>
    rw [listElements, List.append_assoc, List.length_cons, ← Nat.add_assoc,
      h v List.mem_cons_self, ih fun v' hv' => h v' (List.mem_cons_of_mem v hv')]

/-- The entries of a map are skipped if each key and each value is. -/
lemma skipFrom_entryElements {es : List (Value × Value)} {n : ℕ} {rest : List Element}
    (h : ∀ p ∈ es, ∀ n rest, skipFrom (n + 1) (p.1.elements ++ rest) = skipFrom n rest ∧
      skipFrom (n + 1) (p.2.elements ++ rest) = skipFrom n rest) :
    skipFrom (n + 2 * es.length) (entryElements es ++ rest) = skipFrom n rest := by
  induction es with
  | nil => rfl
  | cons p es ih =>
    have hp := h p List.mem_cons_self
    rw [entryElements, List.append_assoc, List.append_assoc, List.length_cons,
      show n + 2 * (es.length + 1) = n + 2 * es.length + 1 + 1 by omega, (hp _ _).1, (hp _ _).2,
      ih fun p' hp' => h p' (List.mem_cons_of_mem p hp')]

/-- A value is skipped as one value. -/
theorem skipFrom_elements (v : Value) (n : ℕ) (rest : List Element) :
    skipFrom (n + 1) (v.elements ++ rest) = skipFrom n rest := by
  -- by induction on a bound for the number of elements, which the parts of a value have fewer of
  have key : ∀ k : ℕ, ∀ v : Value, v.elements.length ≤ k → ∀ n rest,
      skipFrom (n + 1) (v.elements ++ rest) = skipFrom n rest := by
    intro k
    induction k with
    | zero =>
      intro v hv
      exact absurd (List.eq_nil_of_length_eq_zero (Nat.le_zero.mp hv)) v.elements_ne_nil
    | succ k ih =>
      intro v hv n rest
      cases v with
      | array vs =>
        simp only [elements, List.length_cons] at hv
        rw [elements, List.cons_append, skipFrom_succ_cons]
        refine skipFrom_listElements fun v hmem => ih v ?_
        have := length_elements_le_of_mem hmem
        omega
      | map es =>
        simp only [elements, List.length_cons] at hv
        rw [elements, List.cons_append, skipFrom_succ_cons]
        refine skipFrom_entryElements fun p hmem n rest => ?_
        have := length_entry_le_of_mem hmem
        exact ⟨ih p.1 (by omega) n rest, ih p.2 (by omega) n rest⟩
      | _ => rfl
  exact key v.elements.length v (Nat.le_refl _) n rest

/-- No value can be skipped in a strict prefix of the elements of a value. -/
theorem skipFrom_prefix {v : Value} {es cut rest : List Element} (h : es ++ cut = v.elements)
    (hskip : skipFrom 1 es = .ok rest) : cut = [] := by
  have hall : skipFrom 1 v.elements = .ok [] := by
    have hv := skipFrom_elements v 0 []
    rwa [List.append_nil, skipFrom_zero] at hv
  have happend := skipFrom_append hskip cut
  rw [h, hall] at happend
  have hnil : rest ++ cut = [] := (Except.ok.inj happend).symm
  exact (List.append_eq_nil_iff.mp hnil).2

/-- There are at least as many elements as values that can be skipped. -/
lemma le_length_of_skipFrom {n : ℕ} {es rest : List Element} (h : skipFrom n es = .ok rest) :
    n ≤ es.length := by
  induction es generalizing n with
  | nil =>
    cases n with
    | zero => exact Nat.le_refl 0
    | succ n => cases h
  | cons e es ih =>
    cases n with
    | zero => exact Nat.zero_le _
    | succ n =>
      rw [skipFrom_succ_cons] at h
      have hle := ih h
      rw [List.length_cons]
      omega

/-- Where values are skipped to the end of the input, every header has its parts. -/
lemma covered_of_skipFrom {n : ℕ} {es : List Element} (h : skipFrom n es = .ok []) :
    Covered es := by
  induction es generalizing n with
  | nil => trivial
  | cons e es ih =>
    cases n with
    | zero =>
      rw [skipFrom_zero] at h
      cases h
    | succ n =>
      rw [skipFrom_succ_cons] at h
      have hle := le_length_of_skipFrom h
      exact ⟨by omega, ih h⟩

/-- In a complete value every header has its parts. -/
theorem covered_elements (v : Value) : Covered v.elements := by
  have hskip := skipFrom_elements v 0 []
  rw [List.append_nil, skipFrom_zero] at hskip
  exact covered_of_skipFrom hskip

/-! ## Readers that consume whole values -/

/-- `Consumes n r`: where reader `r` succeeds, it stops where skipping `n` values does. -/
def Consumes {α : Type} (n : ℕ) (r : Reader α) : Prop :=
  ∀ (es rest : List Element) (a : α), r.run es = .ok (a, rest) → skipFrom n es = .ok rest

namespace Consumes

variable {α β : Type} {r : Reader α} {n m : ℕ}

lemma pure (a : α) : Consumes 0 (Pure.pure a : Reader α) := by
  intro es rest a' h
  obtain ⟨-, rfl⟩ := Reader.run_pure_eq_ok.mp h
  exact skipFrom_zero _

lemma throw (e : ReadError) : Consumes n (MonadExcept.throw e : Reader α) := by
  intro es rest a h
  cases h

/-- A sequence consumes the values of both of its parts. -/
lemma bind {k : α → Reader β} (hr : Consumes n r) (hk : ∀ a, Consumes m (k a)) :
    Consumes (n + m) (r >>= k) := by
  intro es rest b h
  rw [Reader.run_bind_eq_ok] at h
  obtain ⟨a, es', ha, hb⟩ := h
  rw [skipFrom_add (hr es es' a ha)]
  exact hk a es' rest b hb

/-- A second part that consumes nothing. -/
lemma bind_zero {k : α → Reader β} (hr : Consumes n r) (hk : ∀ a, Consumes 0 (k a)) :
    Consumes n (r >>= k) := hr.bind hk

lemma map {f : α → β} (hr : Consumes n r) : Consumes n (f <$> r) := by
  intro es rest b h
  rw [Reader.run_map_eq_ok] at h
  obtain ⟨a, ha, -⟩ := h
  exact hr es rest a ha

/-- A reader of single elements that have no parts. -/
lemma of_run (enc : α → Element) (harity : ∀ a, (enc a).arity = 0)
    (hr : ∀ {es rest : List Element} {a : α}, r.run es = .ok (a, rest) ↔ es = enc a :: rest) :
    Consumes 1 r := by
  intro es rest a h
  rw [hr.mp h]
  exact skipFrom_single (harity a) rest

/-- An array is one value if as many values follow its header as it declares. -/
lemma array {k : ℕ → Reader β} (hk : ∀ n, Consumes n (k n)) :
    Consumes 1 (Reader.readArrayHeader >>= k) := by
  intro es rest b h
  rw [Reader.run_bind_eq_ok] at h
  obtain ⟨n, es', hn, hb⟩ := h
  rw [Reader.run_readArrayHeader_eq_ok.mp hn, skipFrom_succ_cons, Nat.zero_add]
  exact hk n es' rest b hb

/-- A map is one value if twice as many values follow its header as it declares entries. -/
lemma mapOf {k : ℕ → Reader β} (hk : ∀ n, Consumes (2 * n) (k n)) :
    Consumes 1 (Reader.readMapHeader >>= k) := by
  intro es rest b h
  rw [Reader.run_bind_eq_ok] at h
  obtain ⟨n, es', hn, hb⟩ := h
  rw [Reader.run_readMapHeader_eq_ok.mp hn, skipFrom_succ_cons, Nat.zero_add]
  exact hk n es' rest b hb

lemma orNil (hr : Consumes 1 r) : Consumes 1 (Reader.orNil r) := by
  intro es rest o h
  rcases Reader.run_orNil_eq_ok.mp h with ⟨rfl, -⟩ | ⟨_, _, a, -, -, -, ha⟩
  · exact skipFrom_single rfl _
  · exact hr _ _ a ha

lemma skip (n : ℕ) : Consumes n (Reader.skip n) := by
  intro es rest u h
  exact Reader.run_skip_eq_ok.mp h

lemma replicate {k : ℕ} (hr : Consumes k r) (n : ℕ) :
    Consumes (k * n) (Reader.replicate r n) := by
  induction n with
  | zero => exact Consumes.pure []
  | succ n ih =>
    rw [Nat.mul_succ, Nat.add_comm]
    exact hr.bind fun a => ih.bind fun as => Consumes.pure (a :: as)

end Consumes

/-- A dynamically typed value is one value. -/
lemma consumes_readValueBounded (n : ℕ) : Consumes 1 (readValueBounded n) := by
  induction n with
  | zero => exact Consumes.throw _
  | succ n ih =>
    intro es rest v h
    rcases es with _ | ⟨e, es⟩
    · cases h
    rw [skipFrom_succ_cons, Nat.zero_add]
    cases e with
    | arrayHeader k =>
      have hvalues : Consumes (1 * k) (Value.array <$> Reader.replicate (readValueBounded n) k) :=
        (ih.replicate k).map
      rw [Nat.one_mul] at hvalues
      exact hvalues es rest v h
    | mapHeader k =>
      have hentry : Consumes 2 (do
          let key ← readValueBounded n
          let value ← readValueBounded n
          return (key, value)) :=
        ih.bind fun key => ih.bind fun value => Consumes.pure (key, value)
      exact (hentry.replicate k).map es rest v h
    | _ =>
      cases h
      exact skipFrom_zero _

lemma consumes_readValue : Consumes 1 readValue := by
  intro es rest v h
  exact consumes_readValueBounded es.length es rest v h

/-! ## Formatters that consume whole values -/

namespace Formatter

variable {α β κ υ : Type}

/-- The deserializer of `f` consumes one value. -/
def Whole (f : Formatter α) : Prop := Consumes 1 f.deserialize

lemma boolean_whole : boolean.Whole :=
  Consumes.of_run Element.boolean (fun _ => rfl) Reader.run_readBoolean_eq_ok

lemma int32_whole : int32.Whole :=
  Consumes.of_run (fun n : Int32 => .integer n.toInt) (fun _ => rfl)
    Reader.run_readInt32_eq_ok

lemma int64_whole : int64.Whole :=
  Consumes.of_run (fun n : Int64 => .integer n.toInt) (fun _ => rfl)
    Reader.run_readInt64_eq_ok

lemma string_whole : string.Whole := by
  refine Consumes.of_run (fun s => (WriteOp.string s).toElement) ?_
    Reader.run_readString_eq_ok
  intro s
  cases s <;> rfl

lemma requiredString_whole : requiredString.Whole := by
  refine Consumes.bind_zero string_whole ?_
  rintro (_ | s)
  · exact Consumes.throw _
  · exact Consumes.pure s

lemma bytes_whole : bytes.Whole := by
  refine Consumes.of_run (fun data => (WriteOp.binary data).toElement) ?_
    Reader.run_readBytes_eq_ok
  intro data
  cases data <;> rfl

lemma list_whole {f : Formatter α} (hf : f.Whole) : (list f).Whole := by
  refine Consumes.orNil (Consumes.array fun n => ?_)
  have hvalues := Consumes.replicate hf n
  rwa [Nat.one_mul] at hvalues

lemma dictionary_whole [DecidableEq κ] {fk : Formatter κ} {fv : Formatter υ} (hk : fk.Whole)
    (hv : fv.Whole) : (dictionary fk fv).Whole := by
  have hentry : Consumes 2 (entry fk fv).deserialize :=
    Consumes.bind hk fun k => Consumes.bind hv fun v => Consumes.pure (k, v)
  refine Consumes.orNil (Consumes.mapOf fun n => (hentry.replicate n).bind_zero fun entries => ?_)
  unfold Dictionary.ofEntries
  split_ifs
  · exact Consumes.pure _
  · exact Consumes.throw _

end Formatter

namespace Fields

variable {α β : Type}

/-- The deserializer of the fields consumes as many values as it is told that there are. -/
def Whole (fields : Fields β) : Prop := ∀ n, Consumes n (fields.deserialize n)

lemma nil_whole : nil.Whole := Consumes.skip

lemma cons_whole {f : Formatter α} {default : α} {rest : Fields β} (hf : f.Whole)
    (hrest : rest.Whole) : (cons f default rest).Whole := by
  intro n
  cases n with
  | zero => exact (hrest 0).bind fun b => Consumes.pure (default, b)
  | succ n =>
    have hread : Consumes (1 + n) ((cons f default rest).deserialize (n + 1)) :=
      Consumes.bind hf fun a => (hrest n).bind_zero fun b => Consumes.pure (a, b)
    rwa [Nat.add_comm] at hread

end Fields

namespace NamedFields

variable {α β : Type}

/-- The deserializer of every field consumes one value. -/
def Whole (fields : NamedFields β) : Prop :=
  ∀ key r, fields.read key = some r → ∀ b, Consumes 1 (r b)

lemma nil_whole : nil.Whole := by
  intro key r hr
  cases hr

lemma cons_whole {name : String} {f : Formatter α} {default : α} {rest : NamedFields β}
    (hf : f.Whole) (hrest : rest.Whole) : (cons name f default rest).Whole := by
  intro key r hr b
  simp only [cons] at hr
  split_ifs at hr with hname
  · cases hr
    exact Consumes.map hf
  · obtain ⟨r', hr', rfl⟩ := Option.map_eq_some_iff.mp hr
    exact (hrest key r' hr' b.2).map

/-- Every entry is two values, also one that is skipped. -/
lemma consumes_readEntries {read : String → Option (β → Reader β)}
    (hread : ∀ key r, read key = some r → ∀ b, Consumes 1 (r b)) (n : ℕ) (b : β) :
    Consumes (2 * n) (readEntries read n b) := by
  induction n generalizing b with
  | zero => exact Consumes.pure b
  | succ n ih =>
    rw [show 2 * (n + 1) = 1 + (1 + 2 * n) by omega]
    refine Consumes.bind Formatter.string_whole fun key => ?_
    cases hkey : key.bind read with
    | none => exact (Consumes.skip 1).bind fun _ => ih b
    | some r =>
      obtain ⟨name, -, hname⟩ := Option.bind_eq_some_iff.mp hkey
      exact (hread name r hname b).bind fun b' => ih b'

end NamedFields

namespace Formatter

variable {α β γ δ : Type}

/-- A class all of whose fields but the second consume one value each: where its deserializer
succeeds it has consumed one value, or the second field has not. -/
lemma run_keyed_second {f : Formatter α} {g : Formatter β} {rest : Fields γ} {d : α} {d' : β}
    {toFields : δ → α × β × γ} {ofFields : α × β × γ → δ} (hf : f.Whole) (hrest : rest.Whole)
    {es es' : List Element} {v : Option δ}
    (h : (keyed (.cons f d (.cons g d' rest)) toFields ofFields).deserialize.run es =
      .ok (v, es')) :
    skipFrom 1 es = .ok es' ∨
      ∃ n a b es₁ es₂ es₃, es = .arrayHeader n :: es₁ ∧ f.deserialize.run es₁ = .ok (a, es₂) ∧
        g.deserialize.run es₂ = .ok (b, es₃) ∧ skipFrom 1 es₂ ≠ .ok es₃ := by
  rcases run_keyed_cons_cons h with ⟨rfl, -⟩ | ⟨n, es₁, a, b, c, rfl, -, hfields⟩
  · exact .inl (skipFrom_single rfl _)
  rw [skipFrom_succ_cons, Nat.zero_add]
  rcases hfields with ⟨rfl, -, hc⟩ | ⟨es₂, rfl, ha, -, hc⟩ | ⟨k, es₂, es₃, rfl, ha, hb, hc⟩
  · -- none of the fields is there
    exact .inl (hrest 0 _ _ _ hc)
  · -- only the first field is there
    have hskip : skipFrom (1 + 0) es₁ = skipFrom 0 es₂ := skipFrom_add (hf _ _ _ ha)
    exact .inl (hskip.trans (hrest 0 _ _ _ hc))
  · by_cases hsecond : skipFrom 1 es₂ = .ok es₃
    · have hcount : Element.arity (.arrayHeader (k + 2)) = 1 + (1 + k) := by
        simp only [Element.arity]
        omega
      left
      rw [hcount, skipFrom_add (hf _ _ _ ha), skipFrom_add hsecond]
      exact hrest k _ _ _ hc
    · exact .inr ⟨_, a, b, es₁, es₂, es₃, rfl, ha, hb, hsecond⟩

/-- The consumption of one value passes from the parts of a class to the class. -/
theorem whole_closed : Closed @Whole @Fields.Whole @NamedFields.Whole where
  boolean := boolean_whole
  int32 := int32_whole
  int64 := int64_whole
  string := string_whole
  requiredString := requiredString_whole
  bytes := bytes_whole
  object := consumes_readValue
  wrap := fun _ _ hf => Consumes.map hf
  nullable := fun hf => Consumes.orNil hf
  list := list_whole
  dictionary := dictionary_whole
  nil := Fields.nil_whole
  cons := Fields.cons_whole
  keyed := fun hfields => Consumes.orNil <| Consumes.array fun n =>
    (hfields n).bind_zero fun _ => Consumes.pure _
  namedNil := NamedFields.nil_whole
  namedCons := NamedFields.cons_whole
  named := fun hfields => Consumes.orNil <| Consumes.mapOf fun n =>
    (NamedFields.consumes_readEntries hfields n _).bind_zero fun _ => Consumes.pure _

end Formatter

end MsgPack
