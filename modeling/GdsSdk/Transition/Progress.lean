import GdsSdk.Transition.Pool
import Mathlib.Algebra.GroupWithZero.Nat
import Mathlib.Data.List.Induction
import Mathlib.Data.List.Nodup
import Mathlib.Data.List.Perm.Subperm

/-!
# Coming to rest

A rank says of every program point how many steps a thread has before it at most.  If every move
lowers the rank of its thread and leaves those of the others alone, then no thread moves more often
than its rank says, however the threads are scheduled (`Takes.countP_le`).  Where some of the steps
raise ranks the bound grows with their number (`Takes.countP_le_add`).  If besides every thread that
is not at its end can move, then the threads come to rest by themselves (`System.exists_rest`).
-/

namespace Transition

namespace System

variable {σ ℓ : Type*} {S : System σ ℓ} {ok : Guard σ ℓ} {s s' : σ}

/-- The steps with these labels lead from one state to another. -/
def Takes (S : System σ ℓ) (ok : Guard σ ℓ) : List ℓ → σ → σ → Prop
  | [], s, s' => s = s'
  | l :: ls, s, s' => ok s l ∧ ∃ t, S.step s l = some t ∧ Takes S ok ls t s'

/-- A list of steps is a run. -/
lemma Takes.reaches {ls : List ℓ} (h : S.Takes ok ls s s') : S.Reaches ok s s' := by
  induction ls generalizing s with
  | nil =>
    cases h
    exact Reaches.refl _
  | cons l ls ih =>
    obtain ⟨hok, t, hstep, hrest⟩ := h
    exact ((Reaches.refl s).step hok hstep).trans (ih hrest)

/-- A measure that the counted steps lower, and that no step raises but the credited ones, bounds
the number of the former by that of the latter. -/
theorem Takes.countP_le_add (I : σ → Prop) (f : σ → ℕ) (k : ℕ) (counted credited : ℓ → Bool)
    (hstep : ∀ s l s', I s → ok s l → S.step s l = some s' →
      I s' ∧ f s' + (counted l).toNat ≤ f s + k * (credited l).toNat)
    {ls : List ℓ} (h : S.Takes ok ls s s') (hs : I s) :
    ls.countP counted + f s' ≤ f s + k * ls.countP credited := by
  induction ls generalizing s with
  | nil =>
    cases h
    simp
  | cons l ls ih =>
    obtain ⟨hok, t, hnext, hrest⟩ := h
    obtain ⟨ht, hle⟩ := hstep s l t hs hok hnext
    have hmore := ih hrest ht
    have hcount : ∀ p : ℓ → Bool, (l :: ls).countP p = ls.countP p + (p l).toNat := by
      intro p
      cases hl : p l <;> simp [hl]
    rw [hcount, hcount, Nat.mul_add]
    omega

/-- A measure that no step raises and that the counted steps lower bounds their number. -/
theorem Takes.countP_le (I : σ → Prop) (f : σ → ℕ) (counted : ℓ → Bool)
    (hstep : ∀ s l s', I s → ok s l → S.step s l = some s' →
      I s' ∧ f s' + (counted l).toNat ≤ f s)
    {ls : List ℓ} (h : S.Takes ok ls s s') (hs : I s) : ls.countP counted + f s' ≤ f s := by
  have hbound := h.countP_le_add I f 0 counted (fun _ => false)
    (fun s l s' hs hok hnext => by simpa using hstep s l s' hs hok hnext) hs
  simpa using hbound

/-- A system that is not at rest and can always come closer to it comes to rest. -/
theorem exists_rest (I D : σ → Prop) (f : σ → ℕ)
    (hnext : ∀ s, I s → ¬ D s → ∃ s', S.Reaches ok s s' ∧ I s' ∧ f s' < f s) (hs : I s) :
    ∃ s', S.Reaches ok s s' ∧ I s' ∧ D s' := by
  -- by induction on how far it is
  generalize hn : f s = n
  induction n using Nat.strongRecOn generalizing s with
  | _ n ih =>
    by_cases hD : D s
    · exact ⟨s, Reaches.refl s, hs, hD⟩
    · obtain ⟨t, hfirst, ht, hlt⟩ := hnext s hs hD
      obtain ⟨s', hrest, hs', hD'⟩ := ih (f t) (hn ▸ hlt) ht rfl
      exact ⟨s', hfirst.trans hrest, hs', hD'⟩

end System

namespace Pool

variable {σ π : Type*} {rank : π → ℕ} {p : Pool σ π} {i j : ℕ} {shared : σ} {pc pc' : π}

/-! ## What a thread has before it -/

/-- The rank of thread `i`. -/
def rankAt (rank : π → ℕ) (i : ℕ) (p : Pool σ π) : ℕ := p.threads[i]?.elim 0 rank

lemma rankAt_eq (h : p.threads[i]? = some pc) : p.rankAt rank i = rank pc := by
  rw [rankAt, h]
  rfl

/-- A move of a thread is a change of its rank. -/
lemma rankAt_set_self (h : p.threads[i]? = some pc) :
    rankAt rank i ⟨shared, p.threads.set i pc'⟩ = rank pc' :=
  rankAt_eq (at_set h)

/-- A move of another thread leaves the rank of a thread alone. -/
lemma rankAt_set_ne (h : i ≠ j) :
    rankAt rank i ⟨shared, p.threads.set j pc'⟩ = p.rankAt rank i := by
  unfold rankAt
  rw [List.getElem?_set_ne h.symm]

/-- The start of another thread leaves the rank of a thread alone. -/
lemma rankAt_spawn (h : p.threads[i]? = some pc) :
    (p.spawn shared pc').rankAt rank i = p.rankAt rank i := by
  rw [rankAt_eq h, rankAt_eq (at_spawn h)]

/-! ## What all threads have before them -/

/-- The sum of the ranks of all threads. -/
def work (rank : π → ℕ) (p : Pool σ π) : ℕ := (p.threads.map rank).sum

/-- A move changes what is to do as it changes the rank of its thread. -/
lemma work_set_add (h : p.threads[i]? = some pc) :
    work rank ⟨shared, p.threads.set i pc'⟩ + rank pc = p.work rank + rank pc' := by
  have key : ∀ (l : List π) (i : ℕ), l[i]? = some pc →
      ((l.set i pc').map rank).sum + rank pc = (l.map rank).sum + rank pc' := by
    intro l
    induction l with
    | nil =>
      intro i hi
      cases hi
    | cons q l ih =>
      intro i hi
      cases i with
      | zero =>
        cases hi
        simp only [List.set_cons_zero, List.map_cons, List.sum_cons]
        omega
      | succ i =>
        have hrest := ih i hi
        simp only [List.set_cons_succ, List.map_cons, List.sum_cons]
        omega
  exact key p.threads i h

/-- A move that lowers the rank of its thread leaves less to do. -/
lemma work_set_lt (h : p.threads[i]? = some pc) (hlt : rank pc' < rank pc) :
    work rank ⟨shared, p.threads.set i pc'⟩ < p.work rank := by
  have hset : work rank ⟨shared, p.threads.set i pc'⟩ + rank pc = p.work rank + rank pc' :=
    work_set_add h
  omega

/-- A new thread adds its rank to what is to do. -/
lemma work_spawn : (p.spawn shared pc').work rank = p.work rank + rank pc' := by
  rw [work, spawn, List.map_append, List.sum_append]
  simp [work]

/-- While something is left to do, a thread is not at its end. -/
lemma exists_rank_pos (h : ¬ ∀ q ∈ p.threads, rank q = 0) :
    ∃ (i : ℕ) (pc : π), p.threads[i]? = some pc ∧ 0 < rank pc := by
  by_contra hnone
  refine h fun q hq => Nat.eq_zero_of_not_pos fun hpos => ?_
  obtain ⟨i, hi⟩ := List.getElem?_of_mem hq
  exact hnone ⟨i, q, hi, hpos⟩

/-! ## Threads that work for others -/

/-- The numbers of the threads at certain program points. -/
def places (f : π → Bool) (l : List π) : List ℕ :=
  (List.range l.length).filter fun i => l[i]?.any f

lemma mem_places {f : π → Bool} {l : List π} : i ∈ places f l ↔ ∃ q, l[i]? = some q ∧ f q = true := by
  rw [places, List.mem_filter, List.mem_range, Option.any_eq_true]
  constructor
  · exact fun h => h.2
  · rintro ⟨q, hq, hf⟩
    exact ⟨(List.getElem?_eq_some_iff.mp hq).1, q, hq, hf⟩

lemma nodup_places (f : π → Bool) (l : List π) : (places f l).Nodup := List.nodup_range.filter _

lemma length_places (f : π → Bool) (l : List π) : (places f l).length = l.countP f := by
  induction l using List.reverseRecOn with
  | nil => rfl
  | append_singleton l q ih =>
    have hold : (List.range l.length).filter (fun i => (l ++ [q])[i]?.any f) = places f l := by
      refine List.filter_congr fun i hi => ?_
      rw [List.getElem?_append_left (List.mem_range.mp hi)]
    rw [places, List.length_append, List.length_singleton, List.range_succ, List.filter_append, hold,
      List.length_append, ih, countP_append_singleton]
    cases hq : f q <;> simp [hq]

/-- If the threads at certain program points work for different threads at other ones, and for one
of these none of them works, then there are fewer of them. -/
theorem countP_lt_countP {ρ : Type*} {f : π → Bool} {g : ρ → Bool} {l : List π} {m : List ρ}
    (worksFor : ℕ → ℕ) (hworks : ∀ i ∈ places f l, worksFor i ∈ places g m)
    (hdistinct : ∀ i ∈ places f l, ∀ i' ∈ places f l, worksFor i = worksFor i' → i = i')
    (hj : j ∈ places g m) (hfree : ∀ i ∈ places f l, worksFor i ≠ j) : l.countP f < m.countP g := by
  have hnodup : (j :: (places f l).map worksFor).Nodup := by
    refine List.nodup_cons.mpr ⟨fun hmem => ?_, (nodup_places f l).map_on hdistinct⟩
    obtain ⟨i, hi, heq⟩ := List.mem_map.mp hmem
    exact hfree i hi heq
  have hsubset : j :: (places f l).map worksFor ⊆ places g m := by
    refine List.cons_subset.mpr ⟨hj, fun k hk => ?_⟩
    obtain ⟨i, hi, rfl⟩ := List.mem_map.mp hk
    exact hworks i hi
  have hle := (List.subperm_of_subset hnodup hsubset).length_le
  rw [List.length_cons, List.length_map, length_places, length_places] at hle
  exact hle

end Pool

end Transition
