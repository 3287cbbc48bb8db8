/-!
# The alphabet of expressions

The symbols of an expression as they are written: single ASCII digits, four operators and two
parentheses. The operators of products bind more tightly than those of sums.
-/
namespace ShuntingYard

/-- The symbols that stand for operands. -/
abbrev Digit := { c : Char // c.isDigit = true }

/-- The symbols that stand for operators. -/
abbrev Sign := { c : Char // c ∈ ['+', '-', '*', '/'] }

/-- Whether a character is a symbol of an expression at all. -/
def isSymbol (c : Char) : Bool := c.isDigit || c ∈ ['+', '-', '*', '/', '(', ')']

/-- How tightly a symbol binds its operands, if it is an operator. -/
def strength? (c : Char) : Option Nat :=
  if c ∈ ['+', '-'] then some 1
  else if c ∈ ['*', '/'] then some 2
  else none

end ShuntingYard
