import GdsSdk.Transition.Pool
import Mathlib.Algebra.Order.Group.Multiset

/-!
# What comes in is passed on once

Threads take in what comes from outside, carry it for some steps and pass it on.  `Pool.Balanced`
says that what was passed on and what is carried is just what came in, each thing as often as it
came.  A move keeps the balance if its thread neither drops what it carries nor passes it on twice.
-/

namespace Transition

namespace Pool

variable {σ π α : Type*}

/-- A move takes away what its thread carried, and adds what it carries now. -/
lemma coe_filterMap_set {carries : π → Option α} {l : List π} {i : ℕ} {pc : π} (pc' : π)
    (h : l[i]? = some pc) :
    (((l.set i pc').filterMap carries : List α) : Multiset α) + ((carries pc).toList : List α) =
      ((l.filterMap carries : List α) : Multiset α) + ((carries pc').toList : List α) := by
  induction l generalizing i with
  | nil => cases h
  | cons q l ih =>
    have hcons : ∀ (q : π) (l : List π), (((q :: l).filterMap carries : List α) : Multiset α) =
        ((carries q).toList : List α) + ((l.filterMap carries : List α) : Multiset α) := by
      intro q l
      rw [List.filterMap_cons]
      cases carries q <;> simp
    cases i with
    | zero =>
      cases h
      rw [List.set_cons_zero, hcons, hcons, add_comm, add_comm ((carries pc').toList : Multiset α),
        add_assoc]
    | succ i =>
      rw [List.set_cons_succ, hcons, hcons, add_assoc, add_assoc, ih h]

/-- What was passed on and what the threads carry is what came in. -/
def Balanced (passed : σ → List α) (carries : π → Option α) (p : Pool σ π) (came : List α) : Prop :=
  ((passed p.shared : List α) : Multiset α) + (p.threads.filterMap carries : List α) =
    (came : List α)

namespace Balanced

variable {passed : σ → List α} {carries : π → Option α} {p : Pool σ π} {came new : List α} {i : ℕ}
  {shared : σ} {pc pc' : π}

/-- A move keeps the balance if what its thread carried is carried on or passed on. -/
theorem set (h : p.Balanced passed carries came) (hpc : p.threads[i]? = some pc)
    (hmove : ((passed shared : List α) : Multiset α) + ((carries pc').toList : List α) =
      (passed p.shared : List α) + ((carries pc).toList : List α)) :
    Balanced passed carries ⟨shared, p.threads.set i pc'⟩ came := by
  have hset := @coe_filterMap_set _ _ carries _ _ _ pc' hpc
  unfold Balanced at h ⊢
  refine add_right_cancel (b := ((carries pc).toList : Multiset α)) ?_
  calc _ = (passed shared : Multiset α) +
        (((p.threads.set i pc').filterMap carries : List α) + ((carries pc).toList : Multiset α)) :=
        add_assoc _ _ _
    _ = (passed shared : Multiset α) + ((carries pc').toList : Multiset α) +
        (p.threads.filterMap carries : List α) := by
        rw [hset, add_comm ((p.threads.filterMap carries : List α) : Multiset α), add_assoc]
    _ = (passed p.shared : Multiset α) + (p.threads.filterMap carries : List α) +
        ((carries pc).toList : Multiset α) := by rw [hmove, add_right_comm]
    _ = _ := by rw [h]

/-- A new thread keeps the balance if it carries what has just come in. -/
theorem spawn (h : p.Balanced passed carries came) (hpassed : passed shared = passed p.shared)
    (hnew : (carries pc).toList = new) :
    (p.spawn shared pc).Balanced passed carries (new ++ came) := by
  unfold Balanced at h ⊢
  have hsingle : [pc].filterMap carries = new := by
    rw [← hnew]
    cases hcarries : carries pc <;> simp [hcarries]
  rw [Pool.spawn, hpassed, List.filterMap_append, hsingle, ← Multiset.coe_add, ← Multiset.coe_add,
    ← h, ← add_assoc, add_comm (new : Multiset α)]

/-- Nothing is passed on that has not come in, and nothing more often than it came. -/
theorem subperm (h : p.Balanced passed carries came) : (passed p.shared).Subperm came := by
  refine Multiset.coe_le.mp ?_
  rw [← show _ = (came : Multiset α) from h]
  exact Multiset.le_add_right _ _

/-- When nothing is carried, all that came in was passed on. -/
theorem perm (h : p.Balanced passed carries came) (hcarries : ∀ q ∈ p.threads, carries q = none) :
    (passed p.shared).Perm came := by
  have hnone : p.threads.filterMap carries = [] := List.filterMap_eq_nil_iff.mpr hcarries
  unfold Balanced at h
  rw [hnone, Multiset.coe_nil, add_zero] at h
  exact Multiset.coe_eq_coe.mp h

end Balanced

end Pool

end Transition
