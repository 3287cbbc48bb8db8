import ShuntingYard.Alphabet
import ShuntingYard.Fault
import ShuntingYard.Yard

/-!
# Renaming of symbols

A function on symbols renames an expression symbol by symbol, and with it a yard and a fault. It
need not be injective: it may, for instance, turn every digit into the same one. What it has to keep
is the class of each symbol, and for some purposes the precedence of each operator.
-/
namespace ShuntingYard

/-- Every symbol stays in its class, but one operator may become another. -/
structure KeepsClass (f : Char → Char) : Prop where
  isDigit {c : Char} (h : c.isDigit = true) : (f c).isDigit = true
  operator (o : Operator) : ∃ p : Operator, f o.symbol = p.symbol
  openParenthesis : f '(' = '('
  closeParenthesis : f ')' = ')'
  foreign {c : Char} (h : isSymbol c = false) : isSymbol (f c) = false

/-- Every symbol stays in its class and every operator keeps its precedence. -/
structure KeepsPrecedence (f : Char → Char) : Prop extends KeepsClass f where
  precedence {o p : Operator} (h : f o.symbol = p.symbol) : p.precedence = o.precedence

def Yard.map (f : Char → Char) (y : Yard) : Yard := ⟨y.output.map f, y.operators.map f⟩

/-- The same fault at the same place, with its symbol renamed. -/
def Fault.map (f : Char → Char) : Fault → Fault
  | unrecognizedSymbol symbol position => unrecognizedSymbol (f symbol) position
  | unexpectedOperand symbol position => unexpectedOperand (f symbol) position
  | unexpectedOperator symbol position => unexpectedOperator (f symbol) position
  | unexpectedOpenParenthesis position => unexpectedOpenParenthesis position
  | unmatchedCloseParenthesis position => unmatchedCloseParenthesis position
  | unexpectedCloseParenthesis position => unexpectedCloseParenthesis position
  | unclosedParentheses count => unclosedParentheses count
  | missingOperand => missingOperand

namespace Yard

@[simp] theorem map_empty (f : Char → Char) : (∅ : Yard).map f = ∅ := rfl

theorem finish_map (f : Char → Char) (y : Yard) : (y.map f).finish = y.finish.map f := by
  simp [finish_eq, map, Stack.map, Stack.toList]

end Yard

end ShuntingYard
