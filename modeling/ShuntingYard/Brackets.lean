/-!
# Matching parentheses

A closing parenthesis matches the nearest opening one to its left that is still open; it is
unmatched if there is none. All other symbols are immaterial.
-/
namespace ShuntingYard

/-- The positions of the parentheses that are open after a sequence, the innermost first, given
those that are open before it and the position of its first symbol. -/
def openPositionsFrom (before : List Nat) (position : Nat) : List Char → List Nat
  | [] => before
  | c :: l =>
    let after :=
      if c = '(' then position :: before
      else if c = ')' then before.tail
      else before
    openPositionsFrom after (position + 1) l

/-- The positions of the parentheses that no later symbol closes, the innermost first. -/
def openPositions (l : List Char) : List Nat := openPositionsFrom [] 0 l

/-- Every parenthesis has its partner: no beginning of the sequence closes more than it opens, and
the whole closes as many. -/
def Balanced (l : List Char) : Prop :=
  (∀ n ≤ l.length, (l.take n).count ')' ≤ (l.take n).count '(') ∧ l.count ')' = l.count '('

instance (l : List Char) : Decidable (Balanced l) := by
  unfold Balanced
  infer_instance

end ShuntingYard
