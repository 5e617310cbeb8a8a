import Mathlib.Tactic.Common

/-!
# Histories

A history is the list of the events of a run so far, the newest one first.  `Lawful P` says that
every event met the condition `P` when it happened, which may speak about the events before it.
-/

namespace Transition

variable {ε : Type*}

/-- Every event of the history met its condition when it happened. -/
def Lawful (P : ε → List ε → Prop) : List ε → Prop
  | [] => True
  | e :: older => P e older ∧ Lawful P older

@[simp] lemma lawful_nil (P : ε → List ε → Prop) : Lawful P [] := trivial

@[simp] lemma lawful_cons {P : ε → List ε → Prop} {e : ε} {older : List ε} :
    Lawful P (e :: older) ↔ P e older ∧ Lawful P older := Iff.rfl

/-- In a lawful history the condition of an event holds of the events before it. -/
theorem lawful_iff {P : ε → List ε → Prop} {history : List ε} :
    Lawful P history ↔
      ∀ newer e older, history = newer ++ e :: older → P e older := by
  induction history with
  | nil => simp
  | cons a history ih =>
    rw [lawful_cons, ih]
    constructor
    · rintro ⟨ha, hrest⟩ newer e older heq
      cases newer with
      | nil =>
        cases heq
        exact ha
      | cons b newer =>
        rw [List.cons_append, List.cons.injEq] at heq
        exact hrest newer e older heq.2
    · intro h
      refine ⟨h [] a history rfl, fun newer e older heq => ?_⟩
      exact h (a :: newer) e older (by rw [heq, List.cons_append])

/-- A weaker condition is met as well. -/
lemma Lawful.mono {P Q : ε → List ε → Prop} {history : List ε}
    (hPQ : ∀ e older, P e older → Q e older) (h : Lawful P history) : Lawful Q history := by
  induction history with
  | nil => trivial
  | cons e history ih => exact ⟨hPQ e history h.1, ih h.2⟩

end Transition
