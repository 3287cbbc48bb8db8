import ShuntingYard.Yard

/-!
# Sessions

A session is a sequence of calls on a yard: symbols are fed to it, and between them it may be
drained under any condition. The conditions may look at a state of their own and change it.
-/
namespace ShuntingYard

inductive Call (σ : Type) where
  | feed (symbol : Char)
  | drain (accepts : Char → StateM σ Bool)

namespace Call

variable {σ : Type}

/-- The symbol that a call feeds, if it feeds one. -/
def symbol? : Call σ → Option Char
  | feed symbol => some symbol
  | drain _ => none

end Call

namespace Yard

variable {σ : Type}

def call (y : Yard) : Call σ → StateM σ Yard
  | .feed symbol => return y.step symbol
  | .drain accepts => y.drainM accepts

/-- The yard after a session. -/
def session (y : Yard) (calls : List (Call σ)) : StateM σ Yard := calls.foldlM call y

theorem session_append (y : Yard) (calls calls' : List (Call σ)) :
    y.session (calls ++ calls') = y.session calls >>= fun z => z.session calls' := by
  simp [session, List.foldlM_append]

/-- A session without drains feeds its symbols. -/
theorem session_map_feed (y : Yard) (l : List Char) :
    y.session (l.map (Call.feed (σ := σ))) = pure (y.feed l) := by
  induction l generalizing y with
  | nil => rfl
  | cons c l ih => simpa [session, call] using ih (y.step c)

end Yard

end ShuntingYard
