import ShuntingYard.Alphabet

/-!
# Expression trees and postfix words

The structure of an expression without its parentheses. A tree is listed in postorder; a stack
machine that builds trees reads such a listing back. The height of a postfix word counts the values
that a machine would hold after it, without saying what they are.
-/
namespace ShuntingYard

inductive Tree where
  | leaf (digit : Digit)
  | node (operator : Sign) (left right : Tree)
  deriving DecidableEq

namespace Tree

/-- Both operands come before their operator. -/
def postorder : Tree → List Char
  | leaf digit => [digit.val]
  | node operator left right => left.postorder ++ right.postorder ++ [operator.val]

/-- Reads one symbol of a postfix word with the given trees at hand, the latest first: a digit
becomes a leaf, an operator joins the two latest trees. -/
def readSymbol? (trees : List Tree) (c : Char) : Option (List Tree) :=
  if h : c.isDigit = true then some (leaf ⟨c, h⟩ :: trees)
  else if h : c ∈ ['+', '-', '*', '/'] then
    match trees with
    | right :: left :: rest => some (node ⟨c, h⟩ left right :: rest)
    | _ => none
  else none

/-- Reads a postfix word, starting from the given trees. -/
def read? (trees : List Tree) (word : List Char) : Option (List Tree) :=
  word.foldlM readSymbol? trees

end Tree

/-- The height after one more symbol: a digit adds a value, an operator takes two and leaves one. -/
def heightStep? (height : Nat) (c : Char) : Option Nat :=
  if c.isDigit then some (height + 1)
  else if c ∈ ['+', '-', '*', '/'] ∧ 2 ≤ height then some (height - 1)
  else none

/-- The height of a postfix word, unless an operator in it lacks an operand. -/
def height? (word : List Char) : Option Nat := word.foldlM heightStep? 0

theorem Sign.isDigit_eq_false (s : Sign) : s.val.isDigit = false := by
  obtain ⟨c, hc⟩ := s
  simp only [List.mem_cons, List.not_mem_nil, or_false] at hc
  rcases hc with rfl | rfl | rfl | rfl <;> rfl

namespace Tree

theorem read?_append (trees : List Tree) (v w : List Char) :
    read? trees (v ++ w) = (read? trees v).bind fun trees' => read? trees' w := by
  simp [read?, List.foldlM_append, bind]

/-- A listing is read back as its tree, whatever trees were there before. -/
theorem read?_postorder (t : Tree) (trees : List Tree) :
    read? trees t.postorder = some (t :: trees) := by
  induction t generalizing trees with
  | leaf digit => simp [postorder, read?, readSymbol?, digit.property]
  | node operator left right ihl ihr =>
    have hdigit := operator.isDigit_eq_false
    have hsign := operator.property
    simp only [postorder, read?_append, ihl, ihr, Option.bind_some]
    rw [read?, List.foldlM_cons, readSymbol?, dif_neg (by simp [hdigit]), dif_pos hsign]
    rfl

theorem postorder_injective {t u : Tree} (h : t.postorder = u.postorder) : t = u := by
  have read := read?_postorder t []
  rw [h, read?_postorder u []] at read
  simpa using read.symm

end Tree

end ShuntingYard
