import Mathlib.Logic.Relation
import Mathlib.Tactic.Common

/-!
# Transition systems

A labelled transition system whose steps are partial functions: the label resolves every choice
that is left open in a state.  Runs are restricted by a *guard*, a condition on the state and the
label of every step of the run.  `Reaches.invariant` is the induction over a run, and a run may
also be executed: `exists_reaches` turns the execution of a list of labels into the existence of
a run.
-/

namespace Transition

/-- A transition system with labelled steps. -/
structure System (σ ℓ : Type*) where
  init : σ
  step : σ → ℓ → Option σ

/-- A condition on the steps of a run. -/
abbrev Guard (σ ℓ : Type*) := σ → ℓ → Prop

namespace System

variable {σ ℓ : Type*} (S : System σ ℓ) (ok : Guard σ ℓ)

/-- A step that satisfies the guard. -/
def Step (s s' : σ) : Prop := ∃ l, ok s l ∧ S.step s l = some s'

/-- Finitely many steps, all of which satisfy the guard. -/
def Reaches : σ → σ → Prop := Relation.ReflTransGen (S.Step ok)

/-- The states that a run from the initial state reaches. -/
def Reachable (s : σ) : Prop := S.Reaches ok S.init s

section Runs

variable {S ok} {s s' s'' : σ}

namespace Reaches

lemma refl (s : σ) : S.Reaches ok s s := Relation.ReflTransGen.refl

lemma trans (h : S.Reaches ok s s') (h' : S.Reaches ok s' s'') : S.Reaches ok s s'' :=
  Relation.ReflTransGen.trans h h'

lemma step {l : ℓ} (h : S.Reaches ok s s') (hok : ok s' l) (hstep : S.step s' l = some s'') :
    S.Reaches ok s s'' :=
  Relation.ReflTransGen.tail h ⟨l, hok, hstep⟩

/-- A run under a guard is a run under every weaker one. -/
lemma mono {ok' : Guard σ ℓ} (hok : ∀ s l, ok s l → ok' s l) (h : S.Reaches ok s s') :
    S.Reaches ok' s s' := by
  have hstep : S.Step ok ≤ S.Step ok' := fun _ _ ⟨l, hl, hnext⟩ => ⟨l, hok _ l hl, hnext⟩
  exact Relation.ReflTransGen.mono hstep s s' h

/-- What every step of a run preserves, the run preserves. -/
theorem invariant {I : σ → Prop}
    (hstep : ∀ s l s', I s → ok s l → S.step s l = some s' → I s')
    (h : S.Reaches ok s s') (hs : I s) : I s' := by
  induction h with
  | refl => exact hs
  | tail _ hlast ih =>
    obtain ⟨l, hl, hnext⟩ := hlast
    exact hstep _ l _ ih hl hnext

end Reaches

namespace Reachable

lemma reaches (h : S.Reachable ok s) (h' : S.Reaches ok s s') : S.Reachable ok s' := h.trans h'

lemma mono {ok' : Guard σ ℓ} (hok : ∀ s l, ok s l → ok' s l) (h : S.Reachable ok s) :
    S.Reachable ok' s := Reaches.mono hok h

/-- A predicate that holds initially and is preserved by every step holds in every reachable
state. -/
theorem invariant {I : σ → Prop} (hinit : I S.init)
    (hstep : ∀ s l s', I s → ok s l → S.step s l = some s' → I s') (h : S.Reachable ok s) :
    I s :=
  Reaches.invariant hstep h hinit

/-- The induction over a run may use what is known of the states on the way. -/
theorem invariant_of {I J : σ → Prop} (hJ : ∀ s, S.Reachable ok s → J s) (hinit : I S.init)
    (hstep : ∀ s l s', J s → I s → ok s l → S.step s l = some s' → I s')
    (h : S.Reachable ok s) : I s := by
  have key : S.Reachable ok s ∧ I s := by
    refine Reaches.invariant (I := fun s => S.Reachable ok s ∧ I s) ?_ h ⟨Reaches.refl _, hinit⟩
    rintro s l s' ⟨hs, hI⟩ hl hnext
    exact ⟨hs.step hl hnext, hstep s l s' (hJ s hs) hI hl hnext⟩
  exact key.2

end Reachable

end Runs

/-! ## Executions -/

section Execution

variable [∀ s l, Decidable (ok s l)]

/-- Take the steps of a list of labels, as long as they satisfy the guard. -/
def exec : List ℓ → σ → Option σ
  | [], s => some s
  | l :: ls, s => if ok s l then (S.step s l).bind (exec ls) else none

variable {S ok} {s s' : σ}

/-- An execution is a run. -/
theorem reaches_of_exec {ls : List ℓ} (h : S.exec ok ls s = some s') : S.Reaches ok s s' := by
  induction ls generalizing s with
  | nil =>
    cases h
    exact Reaches.refl _
  | cons l ls ih =>
    rw [exec] at h
    split_ifs at h with hok
    obtain ⟨t, hstep, hrest⟩ := Option.bind_eq_some_iff.mp h
    exact ((Reaches.refl s).step hok hstep).trans (ih hrest)

/-- An execution that ends in a state with a property shows that there is a run to such a
state. -/
theorem exists_reaches {P : σ → Prop} [DecidablePred P] (ls : List ℓ)
    (h : (S.exec ok ls s).any (fun t => decide (P t)) = true) :
    ∃ s', S.Reaches ok s s' ∧ P s' := by
  obtain ⟨s', hexec, hP⟩ := (Option.any_eq_true _ _).mp h
  exact ⟨s', reaches_of_exec hexec, of_decide_eq_true hP⟩

/-- An execution from the initial state shows that a state with the property is reachable. -/
theorem exists_reachable {P : σ → Prop} [DecidablePred P] (ls : List ℓ)
    (h : (S.exec ok ls S.init).any (fun t => decide (P t)) = true) :
    ∃ s, S.Reachable ok s ∧ P s := exists_reaches ls h

end Execution

end System

end Transition
