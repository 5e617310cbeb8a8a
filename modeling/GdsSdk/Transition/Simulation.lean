import GdsSdk.Transition.System

/-!
# Simulations and observers

A simulation takes the states of one system to the states of another such that every step becomes
a run.  What is known of every run of the second system is then known of the first.

An observer stands beside a system and keeps what it sees of the steps.  It does not get in their
way: every run can be observed.
-/

namespace Transition

namespace System

variable {σ τ ℓ κ α : Type*}

/-- From a state that satisfies `I`, every step of `S` is a run of `T`. -/
structure Simulates (S : System σ ℓ) (ok : Guard σ ℓ) (T : System τ κ) (ok' : Guard τ κ)
    (I : σ → Prop) (f : σ → τ) : Prop where
  init : f S.init = T.init
  step : ∀ s l s', I s → ok s l → S.step s l = some s' → T.Reaches ok' (f s) (f s')

section Simulates

variable {S : System σ ℓ} {ok : Guard σ ℓ} {T : System τ κ} {ok' : Guard τ κ} {I : σ → Prop}
  {f : σ → τ} {s : σ}

/-- A state that is reachable is taken to one that is. -/
theorem Simulates.reachable (h : S.Simulates ok T ok' I f) (hI : ∀ s, S.Reachable ok s → I s)
    (hs : S.Reachable ok s) : T.Reachable ok' (f s) := by
  refine hs.invariant_of (J := I) (I := fun s => T.Reachable ok' (f s)) hI ?_ ?_
  · rw [h.init]
    exact Reaches.refl _
  · intro s l s' hIs hreach hok hstep
    exact hreach.reaches (h.step s l s' hIs hok hstep)

end Simulates

/-! ## Observers -/

/-- The state of a system and what was seen of its steps, newest first. -/
def observe (S : System σ ℓ) (sees : σ → ℓ → Option α) : System (σ × List α) ℓ where
  init := (S.init, [])
  step p l := (S.step p.1 l).map fun s' => (s', (sees p.1 l).toList ++ p.2)

/-- An observed system takes the steps that the system may take. -/
def observed (ok : Guard σ ℓ) : Guard (σ × List α) ℓ := fun p l => ok p.1 l

instance (ok : Guard σ ℓ) [∀ s l, Decidable (ok s l)] (p : σ × List α) (l : ℓ) :
    Decidable (observed ok p l) := inferInstanceAs (Decidable (ok p.1 l))

section Observe

variable {S : System σ ℓ} {ok : Guard σ ℓ} {sees : σ → ℓ → Option α} {s s' : σ} {l : ℓ}

/-- A step is seen. -/
lemma observe_step (seen : List α) (h : S.step s l = some s') :
    (S.observe sees).step (s, seen) l = some (s', (sees s l).toList ++ seen) := by
  simp [observe, h]

/-- Without the observer a step is what it was. -/
lemma step_of_observe {p p' : σ × List α} (h : (S.observe sees).step p l = some p') :
    S.step p.1 l = some p'.1 ∧ p'.2 = (sees p.1 l).toList ++ p.2 := by
  obtain ⟨t, hstep, rfl⟩ := Option.map_eq_some_iff.mp h
  exact ⟨hstep, rfl⟩

/-- An observed run is a run. -/
theorem reachable_of_observe {p : σ × List α} (h : (S.observe sees).Reachable (observed ok) p) :
    S.Reachable ok p.1 := by
  have hsim : (S.observe sees).Simulates (observed ok) S ok (fun _ => True) Prod.fst := by
    refine ⟨rfl, fun p l p' _ hok hstep => ?_⟩
    exact (Reaches.refl p.1).step hok (step_of_observe hstep).1
  exact hsim.reachable (fun _ _ => trivial) h

/-- Every run can be observed. -/
theorem exists_observed (sees : σ → ℓ → Option α) (h : S.Reachable ok s) :
    ∃ seen, (S.observe sees).Reachable (observed ok) (s, seen) := by
  refine h.invariant (I := fun s => ∃ seen, (S.observe sees).Reachable (observed ok) (s, seen))
    ⟨[], Reaches.refl _⟩ ?_
  rintro s l s' ⟨seen, hseen⟩ hok hstep
  exact ⟨_, Reaches.step hseen hok (observe_step seen hstep)⟩

/-- What holds of nothing seen and is kept by every step holds of what is seen of every run. -/
theorem observe_invariant {R : σ → List α → Prop} (hinit : R S.init [])
    (hstep : ∀ s seen l s', S.Reachable ok s → R s seen → ok s l → S.step s l = some s' →
      R s' ((sees s l).toList ++ seen))
    {p : σ × List α} (h : (S.observe sees).Reachable (observed ok) p) : R p.1 p.2 := by
  refine h.invariant_of (J := fun p => S.Reachable ok p.1) (I := fun p => R p.1 p.2)
    (fun p hp => reachable_of_observe hp) hinit ?_
  intro p l p' hreach hR hok hnext
  obtain ⟨hnext', hseen⟩ := step_of_observe hnext
  rw [hseen]
  exact hstep p.1 p.2 l p'.1 hreach hR hok hnext'

end Observe

end System

end Transition
