import ShuntingYard.Fault
import ShuntingYard.SymbolClass

/-!
# Checking an expression

One pass from left to right finds the first fault of a sequence of symbols. Operands and operators
have to alternate, parentheses have to match, and no other symbol may occur. The checker keeps
whether an operand is due and how many parentheses are open; a parenthesis leaves the former as it
is, since a group stands for one operand.
-/
namespace ShuntingYard

structure Checker where
  expectsOperand : Bool
  depth : Nat
  deriving DecidableEq

namespace Checker

/-- Before the first symbol an operand is due and nothing is open. -/
def start : Checker := ⟨true, 0⟩

/-- The checker after the symbol at the given position. -/
def step (s : Checker) (position : Nat) (symbol : Char) : Except Fault Checker :=
  match SymbolClass.of? symbol with
  | none => .error (.unrecognizedSymbol symbol position)
  | some .operand =>
    if s.expectsOperand then .ok { s with expectsOperand := false }
    else .error (.unexpectedOperand symbol position)
  | some (.operator _) =>
    if s.expectsOperand then .error (.unexpectedOperator symbol position)
    else .ok { s with expectsOperand := true }
  | some .openParenthesis =>
    if s.expectsOperand then .ok { s with depth := s.depth + 1 }
    else .error (.unexpectedOpenParenthesis position)
  | some .closeParenthesis =>
    if s.depth = 0 then .error (.unmatchedCloseParenthesis position)
    else if s.expectsOperand then .error (.unexpectedCloseParenthesis position)
    else .ok { s with depth := s.depth - 1 }

/-- The checker after a sequence of symbols, the first of which has the given position. -/
def run (s : Checker) (position : Nat) : List Char → Except Fault Checker
  | [] => .ok s
  | c :: l =>
    match s.step position c with
    | .error fault => .error fault
    | .ok next => next.run (position + 1) l

/-- What is wrong at the end of a sequence that has no fault up to there. The empty sequence is
complete although an operand is still due. -/
def finish (s : Checker) (symbols : List Char) : Except Fault Unit :=
  if 0 < s.depth then .error (.unclosedParentheses s.depth)
  else if s.expectsOperand && !symbols.isEmpty then .error .missingOperand
  else .ok ()

end Checker

/-- Finds the first fault of an expression, if it has one. -/
def validate (symbols : List Char) : Except Fault Unit := do
  let s ← Checker.start.run 0 symbols
  s.finish symbols

end ShuntingYard
