import ShuntingYard.Text.Quoted

/-!
# Faults of an expression

What can be wrong with a sequence of symbols that is meant to be a well-formed expression. Positions
count symbols from zero.
-/
namespace ShuntingYard

inductive Fault where
  | unrecognizedSymbol (symbol : Char) (position : Nat)
  | unexpectedOperand (symbol : Char) (position : Nat)
  | unexpectedOperator (symbol : Char) (position : Nat)
  | unexpectedOpenParenthesis (position : Nat)
  | unmatchedCloseParenthesis (position : Nat)
  | unexpectedCloseParenthesis (position : Nat)
  | unclosedParentheses (count : Nat)
  | missingOperand
  deriving DecidableEq

namespace Fault

/-- Where the fault lies; one that shows at the end only has no position. -/
def position? : Fault → Option Nat
  | unrecognizedSymbol _ position
  | unexpectedOperand _ position
  | unexpectedOperator _ position
  | unexpectedOpenParenthesis position
  | unmatchedCloseParenthesis position
  | unexpectedCloseParenthesis position => some position
  | unclosedParentheses _
  | missingOperand => none

private def atPosition (what : String) (position : Nat) : String :=
  what ++ " at position " ++ Text.decimal position

def message : Fault → String
  | unrecognizedSymbol symbol position =>
    atPosition ("Unrecognized symbol " ++ Text.quotedChar symbol) position
  | unexpectedOperand symbol position =>
    atPosition ("Unexpected operand " ++ Text.quotedChar symbol) position
  | unexpectedOperator symbol position =>
    atPosition ("Unexpected operator " ++ Text.quotedChar symbol) position
  | unexpectedOpenParenthesis position => atPosition "Unexpected open parenthesis" position
  | unmatchedCloseParenthesis position => atPosition "Mismatched parenthesis" position
  | unexpectedCloseParenthesis position => atPosition "Unexpected close parenthesis" position
  | unclosedParentheses count =>
    "Mismatched parenthesis: " ++ Text.decimal count ++ " unclosed"
  | missingOperand => "Expression ends with an operator"

end Fault

end ShuntingYard
