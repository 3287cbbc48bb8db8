/-!
# Log records

A record has a level, the part of the program that it comes from and a text. A value is logged when
it carries what happened on the way to it.
-/
namespace ShuntingYard

/-- Levels of detail, from the least to the most detailed. -/
inductive Level where
  | error
  | warn
  | info
  | debug
  | trace
  deriving DecidableEq

namespace Level

def rank : Level → Nat
  | error => 0
  | warn => 1
  | info => 2
  | debug => 3
  | trace => 4

def name : Level → String
  | error => "ERROR"
  | warn => "WARN"
  | info => "INFO"
  | debug => "DEBUG"
  | trace => "TRACE"

/-- The name, padded to the width of the longest one. -/
def label (l : Level) : String := String.ofList (l.name.toList.rightpad 5 ' ')

/-- Whether a record of this level is shown under the given threshold; without one none is. -/
def isShown (threshold : Option Level) (l : Level) : Bool :=
  threshold.any fun t => l.rank ≤ t.rank

end Level

structure Record where
  level : Level
  target : String
  text : String
  deriving DecidableEq

/-- A value with what happened on the way to it, in order. -/
structure Logged (ε α : Type) where
  value : α
  log : List ε

namespace Logged

variable {ε α β : Type}

def pure (value : α) : Logged ε α := ⟨value, []⟩

def map (f : α → β) (x : Logged ε α) : Logged ε β := ⟨f x.value, x.log⟩

end Logged

end ShuntingYard
