import GdsSdk.MsgPack.Formatter

/-!
# Successful runs of readers

`Reads` says what a reader makes of an input that is known.  This file goes the other way: from
a run that succeeded to the elements that it must have found.  There is one equivalence for
every primitive read and one rule for every way to combine readers, so that a successful run of
a composed reader is taken apart by rewriting.
-/

namespace MsgPack

variable {α β : Type}

/-- The value that is read from an input is unique. -/
lemma Reads.unique {r : Reader α} {es : List Element} {a a' : α} (h : Reads r es a)
    (h' : Reads r es a') : a = a' := by
  have hrun := h []
  rw [h' []] at hrun
  cases hrun
  rfl

/-- What was written with the same elements is read back as the same. -/
lemma Formatter.RoundTrips.eq_of_written_eq {f : Formatter α} {norm : α → α}
    (hf : f.RoundTrips norm) {a a' : α} {ws ws' : List WriteOp} (h : f.serialize a = .ok ws)
    (h' : f.serialize a' = .ok ws') (heq : written ws = written ws') : norm a = norm a' := by
  have hread := hf a ws h
  rw [heq] at hread
  exact hread.unique (hf a' ws' h')

namespace Reader

variable {r : Reader α} {es rest : List Element}

/-! ## Combinations -/

/-- A sequence succeeds exactly when both of its parts do. -/
lemma run_bind_eq_ok {k : α → Reader β} {b : β} :
    (r >>= k).run es = .ok (b, rest) ↔
      ∃ a es', r.run es = .ok (a, es') ∧ (k a).run es' = .ok (b, rest) := by
  rw [StateT.run_bind]
  constructor
  · intro h
    cases hr : r.run es with
    | error e =>
      rw [hr] at h
      cases h
    | ok p =>
      rw [hr] at h
      exact ⟨p.1, p.2, rfl, h⟩
  · rintro ⟨a, es', hr, hk⟩
    rw [hr]
    exact hk

/-- The value of a mapped reader is that of the reader, mapped. -/
lemma run_map_eq_ok {f : α → β} {b : β} :
    (f <$> r).run es = .ok (b, rest) ↔ ∃ a, r.run es = .ok (a, rest) ∧ f a = b := by
  rw [StateT.run_map]
  constructor
  · intro h
    cases hr : r.run es with
    | error e =>
      rw [hr] at h
      cases h
    | ok p =>
      rw [hr] at h
      cases h
      exact ⟨p.1, rfl, rfl⟩
  · rintro ⟨a, hr, rfl⟩
    rw [hr]
    rfl

lemma run_pure_eq_ok {a b : α} :
    (pure a : Reader α).run es = .ok (b, rest) ↔ a = b ∧ es = rest := by
  constructor
  · intro h
    cases h
    exact ⟨rfl, rfl⟩
  · rintro ⟨rfl, rfl⟩
    rfl

lemma run_throw_eq_ok {e : ReadError} {p : α × List Element} :
    (throw e : Reader α).run es = .ok p ↔ False := by
  constructor
  · intro h
    cases h
  · exact False.elim

/-- Looking at the type of the next element leaves the input as it is. -/
lemma run_nextType_bind {k : ElementType → Reader β} {e : Element} :
    (nextType >>= k).run (e :: es) = (k e.type).run (e :: es) := rfl

/-- There is a next element if its type was read. -/
lemma run_nextType_bind_eq_ok {k : ElementType → Reader β} {b : β} :
    (nextType >>= k).run es = .ok (b, rest) ↔
      ∃ e es', es = e :: es' ∧ (k e.type).run es = .ok (b, rest) := by
  constructor
  · intro h
    rcases es with _ | ⟨e, es⟩
    · cases h
    · exact ⟨e, es, rfl, h⟩
  · rintro ⟨e, es, rfl, h⟩
    exact h

/-- There is a next element if it was tested for nil. -/
lemma run_isNil_bind_eq_ok {k : Bool → Reader β} {b : β} :
    (isNil >>= k).run es = .ok (b, rest) ↔
      ∃ e es', es = e :: es' ∧ (k (decide (e = .nil))).run es = .ok (b, rest) := by
  have htest : ∀ e es', (isNil >>= k).run (e :: es') =
      (k (decide (e = .nil))).run (e :: es') := by
    intro e es'
    rw [show decide (e = .nil) = decide (e.type = .nil) by simp [Element.type_eq_nil]]
    rfl
  constructor
  · intro h
    rcases es with _ | ⟨e, es⟩
    · cases h
    · rw [htest] at h
      exact ⟨e, es, rfl, h⟩
  · rintro ⟨e, es, rfl, h⟩
    rw [htest]
    exact h

/-! ## Primitive reads -/

/-- A reader of single elements: it reads the element of every value, fails at the end of the
input, and has found the element of what it returns. -/
lemma run_single_eq_ok {f : α → Element} (hreads : ∀ a, Reads r [f a] a)
    (hend : ∀ p, r.run [] ≠ .ok p)
    (hsound : ∀ e es p, r.run (e :: es) = .ok p → e = f p.1 ∧ es = p.2) {a : α} :
    r.run es = .ok (a, rest) ↔ es = f a :: rest := by
  constructor
  · intro h
    rcases es with _ | ⟨e, es⟩
    · exact absurd h (hend _)
    · obtain ⟨he, hrest⟩ := hsound e es _ h
      rw [he, hrest]
  · rintro rfl
    exact hreads a rest

lemma run_readNil_eq_ok {u : Unit} : readNil.run es = .ok (u, rest) ↔ es = .nil :: rest := by
  refine run_single_eq_ok (fun _ => Reads.readNil) (fun _ h => by cases h) fun e es p h => ?_
  cases e <;> cases h
  exact ⟨rfl, rfl⟩

lemma run_readBoolean_eq_ok {b : Bool} :
    readBoolean.run es = .ok (b, rest) ↔ es = .boolean b :: rest := by
  refine run_single_eq_ok Reads.readBoolean (fun _ h => by cases h) fun e es p h => ?_
  cases e <;> cases h
  exact ⟨rfl, rfl⟩

lemma run_readInteger_eq_ok {n : ℤ} :
    readInteger.run es = .ok (n, rest) ↔ es = .integer n :: rest := by
  refine run_single_eq_ok Reads.readInteger (fun _ h => by cases h) fun e es p h => ?_
  cases e <;> cases h
  exact ⟨rfl, rfl⟩

lemma run_readString_eq_ok {s : Option String} :
    readString.run es = .ok (s, rest) ↔ es = (WriteOp.string s).toElement :: rest := by
  refine run_single_eq_ok Reads.readString (fun _ h => by cases h) fun e es p h => ?_
  cases e <;> cases h
  all_goals exact ⟨rfl, rfl⟩

lemma run_readBytes_eq_ok {data : Option (List UInt8)} :
    readBytes.run es = .ok (data, rest) ↔ es = (WriteOp.binary data).toElement :: rest := by
  refine run_single_eq_ok Reads.readBytes (fun _ h => by cases h) fun e es p h => ?_
  cases e <;> cases h
  all_goals exact ⟨rfl, rfl⟩

lemma run_readArrayHeader_eq_ok {n : ℕ} :
    readArrayHeader.run es = .ok (n, rest) ↔ es = .arrayHeader n :: rest := by
  refine run_single_eq_ok Reads.readArrayHeader (fun _ h => by cases h) fun e es p h => ?_
  cases e <;> cases h
  exact ⟨rfl, rfl⟩

lemma run_readMapHeader_eq_ok {n : ℕ} :
    readMapHeader.run es = .ok (n, rest) ↔ es = .mapHeader n :: rest := by
  refine run_single_eq_ok Reads.readMapHeader (fun _ h => by cases h) fun e es p h => ?_
  cases e <;> cases h
  exact ⟨rfl, rfl⟩

/-- A 32-bit integer was read from the integer that it stands for. -/
lemma run_readInt32_eq_ok {n : Int32} :
    readInt32.run es = .ok (n, rest) ↔ es = .integer n.toInt :: rest := by
  constructor
  · intro h
    rw [readInt32, run_bind_eq_ok] at h
    obtain ⟨i, es', hi, h⟩ := h
    rw [run_readInteger_eq_ok] at hi
    split_ifs at h with hrange
    · rw [run_pure_eq_ok] at h
      obtain ⟨rfl, rfl⟩ := h
      rw [hi, Int32.toInt_ofInt_of_le hrange.1 hrange.2]
    · exact absurd h (by rw [run_throw_eq_ok]; exact id)
  · rintro rfl
    exact Reads.readInt32 n rest

/-- A 64-bit integer was read from the integer that it stands for. -/
lemma run_readInt64_eq_ok {n : Int64} :
    readInt64.run es = .ok (n, rest) ↔ es = .integer n.toInt :: rest := by
  constructor
  · intro h
    rw [readInt64, run_bind_eq_ok] at h
    obtain ⟨i, es', hi, h⟩ := h
    rw [run_readInteger_eq_ok] at hi
    split_ifs at h with hrange
    · rw [run_pure_eq_ok] at h
      obtain ⟨rfl, rfl⟩ := h
      rw [hi, Int64.toInt_ofInt_of_le hrange.1 hrange.2]
    · exact absurd h (by rw [run_throw_eq_ok]; exact id)
  · rintro rfl
    exact Reads.readInt64 n rest

lemma run_skip_eq_ok {n : ℕ} {u : Unit} :
    (skip n).run es = .ok (u, rest) ↔ skipFrom n es = .ok rest := by
  unfold skip StateT.run
  cases hskip : skipFrom n es with
  | error e => simp [hskip, Bind.bind, Except.bind]
  | ok es' => simp [hskip, Bind.bind, Except.bind, Pure.pure, Except.pure]

/-- An optional value is absent where nil stands, and otherwise what its reader returns. -/
lemma run_orNil_eq_ok {o : Option α} :
    (orNil r).run es = .ok (o, rest) ↔
      (es = .nil :: rest ∧ o = none) ∨
        ∃ e es' a, es = e :: es' ∧ e ≠ .nil ∧ o = some a ∧ r.run es = .ok (a, rest) := by
  rw [orNil, run_isNil_bind_eq_ok]
  constructor
  · rintro ⟨e, es', rfl, h⟩
    by_cases he : e = .nil
    · subst he
      left
      cases h
      exact ⟨rfl, rfl⟩
    · right
      simp only [he, decide_false, Bool.false_eq_true, if_false, run_map_eq_ok] at h
      obtain ⟨a, ha, rfl⟩ := h
      exact ⟨e, es', a, rfl, he, rfl, ha⟩
  · rintro (⟨rfl, rfl⟩ | ⟨e, es', a, rfl, he, rfl, h⟩)
    · exact ⟨_, _, rfl, rfl⟩
    · refine ⟨e, es', rfl, ?_⟩
      simp only [he, decide_false, Bool.false_eq_true, if_false, run_map_eq_ok]
      exact ⟨a, h, rfl⟩

/-- Values that take one element each are read in the order of their elements. -/
lemma run_replicate_eq_ok {enc : α → Element}
    (hr : ∀ {es rest : List Element} {a : α}, r.run es = .ok (a, rest) ↔ es = enc a :: rest)
    {n : ℕ} {as : List α} :
    (replicate r n).run es = .ok (as, rest) ↔ as.length = n ∧ es = as.map enc ++ rest := by
  induction n generalizing es rest as with
  | zero =>
    rw [replicate, run_pure_eq_ok]
    constructor
    · rintro ⟨rfl, rfl⟩
      exact ⟨rfl, rfl⟩
    · rintro ⟨hlength, rfl⟩
      obtain rfl := List.length_eq_zero_iff.mp hlength
      exact ⟨rfl, rfl⟩
  | succ n ih =>
    simp only [replicate, run_bind_eq_ok, run_pure_eq_ok, hr, ih]
    constructor
    · rintro ⟨a, es', rfl, as', rest', ⟨rfl, rfl⟩, rfl, rfl⟩
      exact ⟨rfl, rfl⟩
    · rintro ⟨hlength, rfl⟩
      rcases as with _ | ⟨a, as⟩
      · cases hlength
      · exact ⟨a, _, rfl, as, _, ⟨Nat.succ.inj hlength, rfl⟩, rfl, rfl⟩

/-- Values of a fixed number of elements take that number for each of them. -/
lemma length_of_run_replicate {k : ℕ}
    (hr : ∀ {es rest : List Element} {a : α}, r.run es = .ok (a, rest) →
      es.length = rest.length + k)
    {n : ℕ} {as : List α} (h : (replicate r n).run es = .ok (as, rest)) :
    es.length = rest.length + n * k := by
  induction n generalizing es as with
  | zero =>
    obtain ⟨-, rfl⟩ := run_pure_eq_ok.mp h
    omega
  | succ n ih =>
    simp only [replicate, run_bind_eq_ok, run_pure_eq_ok] at h
    obtain ⟨a, es', hfirst, as', _, hothers, -, rfl⟩ := h
    have hlength := hr hfirst
    have hlengths := ih hothers
    rw [Nat.succ_mul]
    omega

end Reader

/-! ## Lists and classes -/

open Reader

variable {es rest : List Element}

/-- A list is nil, or an array of the declared number of values. -/
lemma Formatter.run_list_eq_ok {f : Formatter α} {v : Option (List α)} :
    (list f).deserialize.run es = .ok (v, rest) ↔
      (es = .nil :: rest ∧ v = none) ∨ ∃ n es' as, es = .arrayHeader n :: es' ∧ v = some as ∧
        (replicate f.deserialize n).run es' = .ok (as, rest) := by
  simp only [list, run_orNil_eq_ok, run_bind_eq_ok, run_readArrayHeader_eq_ok]
  constructor
  · rintro (h | ⟨_, _, as, -, -, rfl, n, es', rfl, h⟩)
    · exact .inl h
    · exact .inr ⟨n, es', as, rfl, rfl, h⟩
  · rintro (h | ⟨n, es', as, rfl, rfl, h⟩)
    · exact .inl h
    · exact .inr ⟨_, _, as, rfl, by simp, rfl, n, es', rfl, h⟩

/-- A class with integer keys is nil, or an array of its fields. -/
lemma Formatter.run_keyed_eq_ok {fields : Fields β} {toFields : α → β} {ofFields : β → α}
    {v : Option α} :
    (keyed fields toFields ofFields).deserialize.run es = .ok (v, rest) ↔
      (es = .nil :: rest ∧ v = none) ∨
        ∃ n es' b, es = .arrayHeader n :: es' ∧ v = some (ofFields b) ∧
          (fields.deserialize n).run es' = .ok (b, rest) := by
  simp only [keyed, run_orNil_eq_ok, run_bind_eq_ok, run_readArrayHeader_eq_ok, run_pure_eq_ok]
  constructor
  · rintro (h | ⟨_, _, a, -, -, rfl, n, es', rfl, b, _, h, rfl, rfl⟩)
    · exact .inl h
    · exact .inr ⟨n, es', b, rfl, rfl, h⟩
  · rintro (h | ⟨n, es', b, rfl, rfl, h⟩)
    · exact .inl h
    · exact .inr ⟨_, _, _, rfl, by simp, rfl, n, es', rfl, b, rest, h, rfl, rfl⟩

/-- A field that is declared to be there is read before the others. -/
lemma Fields.run_cons_succ_eq_ok {f : Formatter α} {default : α} {fields : Fields β} {n : ℕ}
    {p : α × β} :
    ((cons f default fields).deserialize (n + 1)).run es = .ok (p, rest) ↔
      ∃ es', f.deserialize.run es = .ok (p.1, es') ∧
        (fields.deserialize n).run es' = .ok (p.2, rest) := by
  simp only [cons, run_bind_eq_ok, run_pure_eq_ok]
  constructor
  · rintro ⟨a, es', ha, b, _, hb, rfl, rfl⟩
    exact ⟨es', ha, hb⟩
  · rintro ⟨es', ha, hb⟩
    exact ⟨p.1, es', ha, p.2, rest, hb, rfl, rfl⟩

/-- A field that is not declared to be there is filled in. -/
lemma Fields.run_cons_zero_eq_ok {f : Formatter α} {default : α} {fields : Fields β}
    {p : α × β} :
    ((cons f default fields).deserialize 0).run es = .ok (p, rest) ↔
      p.1 = default ∧ (fields.deserialize 0).run es = .ok (p.2, rest) := by
  simp only [cons, run_bind_eq_ok, run_pure_eq_ok]
  constructor
  · rintro ⟨b, _, hb, rfl, rfl⟩
    exact ⟨rfl, hb⟩
  · rintro ⟨hdefault, hb⟩
    exact ⟨p.2, rest, hb, Prod.ext hdefault.symm rfl, rfl⟩

/-- A class of at least two fields is nil, or an array of a number of fields that may leave out
the second one, or both. -/
lemma Formatter.run_keyed_cons_cons {γ δ : Type} {f : Formatter α} {g : Formatter β}
    {fields : Fields γ} {d : α} {d' : β} {toFields : δ → α × β × γ} {ofFields : α × β × γ → δ}
    {v : Option δ}
    (h : (keyed (.cons f d (.cons g d' fields)) toFields ofFields).deserialize.run es =
      .ok (v, rest)) :
    (es = .nil :: rest ∧ v = none) ∨ ∃ n es₁ a b c, es = .arrayHeader n :: es₁ ∧
      v = some (ofFields (a, b, c)) ∧
      ((n = 0 ∧ b = d' ∧ (fields.deserialize 0).run es₁ = .ok (c, rest)) ∨
        (∃ es₂, n = 1 ∧ f.deserialize.run es₁ = .ok (a, es₂) ∧ b = d' ∧
          (fields.deserialize 0).run es₂ = .ok (c, rest)) ∨
        ∃ k es₂ es₃, n = k + 2 ∧ f.deserialize.run es₁ = .ok (a, es₂) ∧
          g.deserialize.run es₂ = .ok (b, es₃) ∧
          (fields.deserialize k).run es₃ = .ok (c, rest)) := by
  rcases run_keyed_eq_ok.mp h with hnil | ⟨n, es₁, ⟨a, b, c⟩, rfl, rfl, hfields⟩
  · exact .inl hnil
  refine .inr ⟨n, es₁, a, b, c, rfl, rfl, ?_⟩
  rcases n with _ | _ | k
  · rw [Fields.run_cons_zero_eq_ok, Fields.run_cons_zero_eq_ok] at hfields
    exact .inl ⟨rfl, hfields.2.1, hfields.2.2⟩
  · rw [Fields.run_cons_succ_eq_ok] at hfields
    obtain ⟨es₂, ha, hfields⟩ := hfields
    rw [Fields.run_cons_zero_eq_ok] at hfields
    exact .inr (.inl ⟨es₂, rfl, ha, hfields.1, hfields.2⟩)
  · rw [Fields.run_cons_succ_eq_ok] at hfields
    obtain ⟨es₂, ha, hfields⟩ := hfields
    rw [Fields.run_cons_succ_eq_ok] at hfields
    obtain ⟨es₃, hb, hfields⟩ := hfields
    exact .inr (.inr ⟨k, es₂, es₃, rfl, ha, hb, hfields⟩)

end MsgPack
