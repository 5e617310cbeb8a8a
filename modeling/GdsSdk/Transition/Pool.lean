import GdsSdk.Transition.System
import Mathlib.Data.Nat.Notation

/-!
# Threads over a shared state

A pool is a shared state together with the program points of the threads that work on it.  A
move of one thread replaces the shared state and its own program point; a new thread is put at
the end.

`Pool.Annotated I K` is the method of Owicki and Gries: an invariant of the shared state, and for
every program point what a thread knows there.  A move keeps the annotation if it establishes the
knowledge of its own next program point and does not invalidate what any other thread knows.
`Pool.Numbered K` does the same for what is known of a thread by its number, also before it starts.
The lemmas on `List.countP` do the same for bounds on the number of threads at certain points, and
`Pool.Pending` for what holds already or is left to one of the threads.
-/

namespace Transition

/-- A shared state and the program points of the threads. -/
structure Pool (σ π : Type*) where
  shared : σ
  threads : List π

namespace Pool

variable {σ π : Type*}

/-- Thread `i` takes a step. -/
def move (p : Pool σ π) (i : ℕ) (next : σ → π → Option (σ × π)) : Option (Pool σ π) :=
  match p.threads[i]? with
  | none => none
  | some pc => (next p.shared pc).map fun (shared, pc') => ⟨shared, p.threads.set i pc'⟩

/-- A thread starts, which may change the shared state. -/
def spawn (p : Pool σ π) (shared : σ) (pc : π) : Pool σ π := ⟨shared, p.threads ++ [pc]⟩

lemma move_eq_some {p p' : Pool σ π} {i : ℕ} {next : σ → π → Option (σ × π)} :
    p.move i next = some p' ↔ ∃ pc shared pc', p.threads[i]? = some pc ∧
      next p.shared pc = some (shared, pc') ∧ p' = ⟨shared, p.threads.set i pc'⟩ := by
  unfold move
  cases p.threads[i]? with
  | none => simp
  | some pc =>
    simp only [Option.map_eq_some_iff, Prod.exists, Option.some.injEq]
    constructor
    · rintro ⟨shared, pc', hnext, rfl⟩
      exact ⟨pc, shared, pc', rfl, hnext, rfl⟩
    · rintro ⟨_, shared, pc', rfl, hnext, rfl⟩
      exact ⟨shared, pc', hnext, rfl⟩

/-! ## What holds of every thread -/

/-- A move keeps what holds of every thread if it holds of the program point that it enters. -/
lemma forall_set {P : π → Prop} {l : List π} {i : ℕ} {pc' : π} (h : ∀ q ∈ l, P q) (hpc' : P pc') :
    ∀ q ∈ l.set i pc', P q := by
  intro q hq
  rcases List.mem_or_eq_of_mem_set hq with hq | rfl
  · exact h q hq
  · exact hpc'

/-- A new thread keeps what holds of every thread if it holds of its program point. -/
lemma forall_spawn {P : π → Prop} {p : Pool σ π} {shared : σ} {pc' : π}
    (h : ∀ q ∈ p.threads, P q) (hpc' : P pc') : ∀ q ∈ (p.spawn shared pc').threads, P q := by
  intro q hq
  rcases List.mem_append.mp hq with hq | hq
  · exact h q hq
  · rw [List.mem_singleton.mp hq]
    exact hpc'

/-- After a move the thread is at the program point that it moved to. -/
lemma at_set {l : List π} {i : ℕ} {pc pc' : π} (h : l[i]? = some pc) :
    (l.set i pc')[i]? = some pc' :=
  List.getElem?_set_self (List.getElem?_eq_some_iff.mp h).1

/-- A thread stays where it is when another one starts. -/
lemma at_spawn {p : Pool σ π} {i : ℕ} {shared : σ} {pc pc' : π} (h : p.threads[i]? = some pc) :
    (p.spawn shared pc').threads[i]? = some pc := by
  have hlt : i < p.threads.length := (List.getElem?_eq_some_iff.mp h).1
  rw [spawn, List.getElem?_append_left hlt, h]

/-! ## What threads know -/

/-- The shared state satisfies `I`, and every thread knows `K` at its program point. -/
structure Annotated (I : σ → Prop) (K : σ → π → Prop) (p : Pool σ π) : Prop where
  shared : I p.shared
  threads : ∀ pc ∈ p.threads, K p.shared pc

section Annotated

variable {I : σ → Prop} {K : σ → π → Prop} {p : Pool σ π} {i : ℕ} {shared : σ} {pc pc' : π}

lemma Annotated.at (h : p.Annotated I K) (hpc : p.threads[i]? = some pc) : K p.shared pc :=
  h.threads pc (List.mem_of_getElem? hpc)

/-- A move keeps an annotation: it keeps the invariant, establishes the knowledge of the next
program point, and does not interfere with the other threads. -/
theorem Annotated.set (h : p.Annotated I K) (hI : I shared) (hK : K shared pc')
    (hstable : ∀ q ∈ p.threads, K p.shared q → K shared q) :
    Annotated I K ⟨shared, p.threads.set i pc'⟩ where
  shared := hI
  threads := forall_set (fun q hq => hstable q hq (h.threads q hq)) hK

/-- A new thread keeps an annotation. -/
theorem Annotated.spawn (h : p.Annotated I K) (hI : I shared) (hK : K shared pc')
    (hstable : ∀ q ∈ p.threads, K p.shared q → K shared q) :
    (p.spawn shared pc').Annotated I K where
  shared := hI
  threads := forall_spawn (fun q hq => hstable q hq (h.threads q hq)) hK

end Annotated

/-! ## What is known of a thread by its number -/

/-- Of every number `K` is known, at the program point of its thread or while there is none. -/
def Numbered (K : σ → ℕ → Option π → Prop) (p : Pool σ π) : Prop :=
  ∀ i, K p.shared i p.threads[i]?

section Numbered

variable {K : σ → ℕ → Option π → Prop} {p : Pool σ π} {i : ℕ} {shared : σ} {pc pc' : π}

lemma Numbered.at (h : p.Numbered K) (hpc : p.threads[i]? = some pc) : K p.shared i (some pc) :=
  hpc ▸ h i

/-- A number without a thread is known not to have started. -/
lemma Numbered.fresh (h : p.Numbered K) : K p.shared p.threads.length none := by
  have hnone : p.threads[p.threads.length]? = none := List.getElem?_eq_none (Nat.le_refl _)
  exact hnone ▸ h p.threads.length

/-- A move keeps what is known of every number if it does so at its own next program point and for
the other numbers. -/
theorem Numbered.set (h : p.Numbered K) (hpc : p.threads[i]? = some pc) (hK : K shared i (some pc'))
    (hstable : ∀ j, j ≠ i → K p.shared j p.threads[j]? → K shared j p.threads[j]?) :
    Numbered K ⟨shared, p.threads.set i pc'⟩ := by
  intro j
  by_cases hji : j = i
  · subst hji
    rw [at_set hpc]
    exact hK
  · rw [List.getElem?_set_ne (Ne.symm hji)]
    exact hstable j hji (h j)

/-- A new thread keeps what is known of every number if it does so at its own first program point
and for the other numbers. -/
theorem Numbered.spawn (h : p.Numbered K) (hK : K shared p.threads.length (some pc'))
    (hstable : ∀ j, j ≠ p.threads.length → K p.shared j p.threads[j]? → K shared j p.threads[j]?) :
    (p.spawn shared pc').Numbered K := by
  intro j
  simp only [Pool.spawn]
  rcases Nat.lt_trichotomy j p.threads.length with hj | rfl | hj
  · rw [List.getElem?_append_left hj]
    exact hstable j (Nat.ne_of_lt hj) (h j)
  · rw [List.getElem?_concat_length]
    exact hK
  · have hnone : p.threads[j]? = none := List.getElem?_eq_none (Nat.le_of_lt hj)
    have hnone' : (p.threads ++ [pc'])[j]? = none := by
      rw [List.getElem?_eq_none_iff, List.length_append]
      exact hj
    rw [hnone', ← hnone]
    exact hstable j (Nat.ne_of_gt hj) (h j)

end Numbered

/-! ## Counting threads -/

section Count

variable {l : List π} {i : ℕ} {pc pc' : π}

/-- A move changes the number of threads at certain program points by what it leaves and what
it enters. -/
lemma countP_set_add (f : π → Bool) (pc' : π) (h : l[i]? = some pc) :
    (l.set i pc').countP f + (f pc).toNat = l.countP f + (f pc').toNat := by
  obtain ⟨hi, rfl⟩ := List.getElem?_eq_some_iff.mp h
  have hle : (f l[i]).toNat ≤ l.countP f := by
    cases hf : f l[i] with
    | false => simp
    | true => exact List.countP_pos_iff.mpr ⟨l[i], List.getElem_mem hi, hf⟩
  have hset := List.countP_set (p := f) (a := pc') hi
  rw [hset]
  generalize l.countP f = n at hle ⊢
  cases hf : f l[i] <;> cases hf' : f pc' <;> simp [hf] at hle ⊢ <;> omega

lemma countP_append_singleton (f : π → Bool) :
    (l ++ [pc]).countP f = l.countP f + (f pc).toNat := by
  cases hf : f pc <;> simp [hf]

/-- A thread at certain program points is counted. -/
lemma toNat_le_countP (f : π → Bool) (h : l[i]? = some pc) : (f pc).toNat ≤ l.countP f := by
  cases hf : f pc with
  | false => simp
  | true => exact List.countP_pos_iff.mpr ⟨pc, List.mem_of_getElem? h, hf⟩

/-- A bound on what has happened and on the threads that are about to make it happen: a move
keeps it if whatever is added on the left was either left by the thread or is added to the
bound. -/
lemma bound_set {f : π → Bool} {n n' m m' : ℕ} (h : l[i]? = some pc) (hbound : n + l.countP f ≤ m)
    (hmove : n' + (f pc').toNat + m ≤ n + (f pc).toNat + m') :
    n' + (l.set i pc').countP f ≤ m' := by
  have hset := countP_set_add f pc' h
  have hle := toNat_le_countP f h
  omega

/-- Two different threads at certain program points are both counted. -/
lemma two_le_countP {q : π} (f : π → Bool) (hpc : pc ∈ l) (hq : q ∈ l) (hne : q ≠ pc)
    (hf : f pc = true) (hf' : f q = true) : 2 ≤ l.countP f := by
  obtain ⟨before, after, rfl⟩ := List.append_of_mem hpc
  have hmem : q ∈ before ∨ q ∈ after := by
    rcases List.mem_append.mp hq with h | h
    · exact .inl h
    · exact .inr ((List.mem_cons.mp h).resolve_left hne)
  have hpos : 1 ≤ before.countP f + after.countP f := by
    rcases hmem with h | h
    · have : 0 < before.countP f := List.countP_pos_iff.mpr ⟨q, h, hf'⟩
      omega
    · have : 0 < after.countP f := List.countP_pos_iff.mpr ⟨q, h, hf'⟩
      omega
  rw [List.countP_append, List.countP_cons, if_pos hf]
  omega

/-- After a move a thread is the one that moved, or one of the others. -/
lemma mem_set_cases {q : π} (hq : q ∈ l.set i pc') : q = pc' ∨ q ∈ l.eraseIdx i := by
  obtain ⟨j, hj⟩ := List.getElem?_of_mem hq
  by_cases hij : i = j
  · subst hij
    have hlt : i < l.length := by
      have := (List.getElem?_eq_some_iff.mp hj).1
      rwa [List.length_set] at this
    rw [List.getElem?_set_self hlt] at hj
    exact .inl (Option.some.inj hj).symm
  · rw [List.getElem?_set_ne hij] at hj
    exact .inr (List.mem_eraseIdx_iff_getElem?.mpr ⟨j, Ne.symm hij, hj⟩)

/-- The thread that moves is where it moved to. -/
lemma mem_set_self (h : l[i]? = some pc) : pc' ∈ l.set i pc' :=
  List.mem_set (List.getElem?_eq_some_iff.mp h).1 pc'

/-- Another thread than the one that moves stays where it is. -/
lemma mem_set_of_ne {q : π} (h : l[i]? = some pc) (hq : q ∈ l) (hne : q ≠ pc) :
    q ∈ l.set i pc' := by
  obtain ⟨j, hj⟩ := List.getElem?_of_mem hq
  have hij : i ≠ j := by
    rintro rfl
    rw [h] at hj
    exact hne (Option.some.inj hj).symm
  refine List.mem_of_getElem? (i := j) ?_
  rw [List.getElem?_set_ne hij, hj]

end Count

/-! ## What is still to be done -/

/-- The shared state satisfies `D`, or some thread is at a point from which it will. -/
def Pending (D : σ → Prop) (f : π → Bool) (p : Pool σ π) : Prop :=
  D p.shared ∨ ∃ pc ∈ p.threads, f pc = true

section Pending

variable {D : σ → Prop} {f : π → Bool} {p : Pool σ π} {i : ℕ} {shared : σ} {pc pc' : π}

/-- A move keeps what is pending if the thread that moves does: it does not take it back, and
does not leave it undone. -/
theorem Pending.set (h : p.Pending D f) (hpc : p.threads[i]? = some pc)
    (hmove : D p.shared ∨ f pc = true → D shared ∨ f pc' = true) :
    Pending D f ⟨shared, p.threads.set i pc'⟩ := by
  have hmoved : D shared ∨ f pc' = true → Pending D f ⟨shared, p.threads.set i pc'⟩ :=
    Or.imp_right fun hf => ⟨pc', mem_set_self hpc, hf⟩
  rcases h with hD | ⟨q, hq, hf⟩
  · exact hmoved (hmove (.inl hD))
  · by_cases hmoves : q = pc
    · subst hmoves
      exact hmoved (hmove (.inr hf))
    · exact .inr ⟨q, mem_set_of_ne hpc hq hmoves, hf⟩

/-- A new thread keeps what is pending if it does not take it back without doing it. -/
theorem Pending.spawn (h : p.Pending D f) (hD : D p.shared → D shared ∨ f pc' = true) :
    (p.spawn shared pc').Pending D f := by
  rcases h with h | ⟨q, hq, hf⟩
  · refine (hD h).imp_right fun hf => ⟨pc', ?_, hf⟩
    exact List.mem_append_right _ (List.mem_singleton_self pc')
  · exact .inr ⟨q, List.mem_append_left _ hq, hf⟩

/-- When no thread is at such a point, nothing is pending any more. -/
theorem Pending.settled (h : p.Pending D f) (hf : ∀ q ∈ p.threads, f q = false) : D p.shared := by
  refine h.resolve_right ?_
  rintro ⟨q, hq, hq'⟩
  rw [hf q hq] at hq'
  cases hq'

end Pending

end Pool

end Transition
