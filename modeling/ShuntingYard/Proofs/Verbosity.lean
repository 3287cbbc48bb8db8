import ShuntingYard.Proofs.StrictRuns
import Mathlib.Tactic.SplitIfs

/-!
# Verbosity

The verbosity of a command line decides how much of the log is shown and nothing else. A run does
not see it, so that two of them emit the same records and end alike. Of two runs the one with less
verbosity has the lower threshold and shows those records of the other that pass it.
-/
namespace ShuntingYard

namespace Level

variable {l : Level} {threshold more : Option Level}

end Level

namespace CommandLine

variable {β τ : Type} {a : Arguments}

section Requests

/-- Silence comes before no request at all, and each request is one step further. -/
def Verbosity.rank : Verbosity → Nat
  | quiet => 0
  | verbose times => times + 1

variable {threshold : Verbosity → Option Level}

end Requests

section Entries

variable {clock : Nat → τ} {records : List Record}

end Entries

section Runs

variable {f : Facilities β τ}

end Runs

end CommandLine

end ShuntingYard
