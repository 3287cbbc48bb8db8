import ShuntingYard.Brackets

/-!
# Segments

A sequence is cut at its unmatched parentheses. The closing ones among them stand before the opening
ones, and what is left are balanced segments: some that end with an unmatched closing parenthesis,
one in the middle, and some that begin with an unmatched opening one.
-/
namespace ShuntingYard

structure Segments where
  /-- The segments that an unmatched closing parenthesis follows. -/
  closed : List (List Char)
  middle : List Char
  /-- The segments that follow an unmatched opening parenthesis. -/
  opened : List (List Char)
  deriving DecidableEq

namespace Segments

/-- The sequence that is cut into the segments. -/
def word (d : Segments) : List Char :=
  (d.closed.flatMap fun v => v ++ [')']) ++ (d.middle ++ d.opened.flatMap fun v => '(' :: v)

/-- All segments are balanced, so that only the parentheses between them are unmatched. -/
def AreBalanced (d : Segments) : Prop :=
  (∀ v ∈ d.closed, Balanced v) ∧ Balanced d.middle ∧ ∀ v ∈ d.opened, Balanced v

instance (d : Segments) : Decidable d.AreBalanced := by
  unfold AreBalanced
  infer_instance

end Segments

end ShuntingYard
