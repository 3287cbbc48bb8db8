import ShuntingYard.Stack
import ShuntingYard.SymbolClass

/-!
# The yard

A conversion in progress: the symbols that have reached the output and the stack of those that wait
for it. Operands go straight to the output. An operator first sends out the waiting operators that
yield to it, and then waits itself. An opening parenthesis waits as a barrier, and a closing one
sends out everything above the barrier and removes it. Malformed sequences are not refused: a
closing parenthesis without a barrier empties the stack, and a barrier that is left at the end is
sent out like an operator.
-/
namespace ShuntingYard

structure Yard where
  output : Stack Char
  operators : Stack Char
  deriving DecidableEq

namespace Yard

instance : EmptyCollection Yard := ⟨⟨∅, ∅⟩⟩

/-- The yard with the given contents; the last waiting symbol is the top of the stack. -/
def ofParts (output operators : List Char) : Yard := ⟨.ofList output, .ofList operators⟩

/-- Sends waiting symbols to the output for as long as the condition accepts the top of the stack.
-/
def drainM {m : Type → Type} [Monad m] (accepts : Char → m Bool) (y : Yard) : m Yard := do
  let (operators, output) ← Stack.drainM accepts y.operators y.output
  return ⟨output, operators⟩

/-- Draining under a condition that depends on the symbol alone. -/
def drain (accepts : Char → Bool) (y : Yard) : Yard :=
  let (operators, output) := Stack.drain accepts y.operators y.output
  ⟨output, operators⟩

/-- Whether a waiting symbol is an operator that yields to the incoming one. -/
def yieldsTo (incoming : Operator) (waiting : Char) : Bool :=
  (Operator.ofSymbol? waiting).any (·.yieldsTo incoming)

/-- The yard after one more symbol of the expression. -/
def step (y : Yard) (symbol : Char) : Yard :=
  match SymbolClass.of? symbol with
  | none => y
  | some .operand => { y with output := y.output.push symbol }
  | some (.operator incoming) =>
    let drained := y.drain (yieldsTo incoming)
    { drained with operators := drained.operators.push symbol }
  | some .openParenthesis => { y with operators := y.operators.push symbol }
  | some .closeParenthesis =>
    let drained := y.drain (· != '(')
    { drained with operators := drained.operators.pop }

/-- The yard after a sequence of symbols. -/
def feed (y : Yard) (symbols : List Char) : Yard := symbols.foldl step y

/-- The output after everything that waits has been sent to it. -/
def finish (y : Yard) : List Char := (y.drain fun _ => true).output.toList

/-- The diagnostic form of a yard. -/
def diagnostic (y : Yard) : String :=
  Text.withFields "PostfixContext" [
    ("output", Text.symbolList y.output.toList),
    ("operator_stack", Text.symbolList y.operators.toList)]

theorem drainM_pure {m : Type → Type} [Monad m] [LawfulMonad m] (accepts : Char → Bool)
    (y : Yard) : drainM (fun c => (pure (accepts c) : m Bool)) y = pure (drain accepts y) := by
  simp [drainM, drain, Stack.drainM_pure]

@[simp] theorem feed_nil (y : Yard) : y.feed [] = y := rfl

@[simp] theorem feed_cons (y : Yard) (c : Char) (l : List Char) :
    y.feed (c :: l) = (y.step c).feed l := rfl

theorem feed_append (y : Yard) (l l' : List Char) : y.feed (l ++ l') = (y.feed l).feed l' := by
  simp [feed]

/-- What waits is sent out from the top of the stack downwards. -/
theorem finish_eq (y : Yard) : y.finish = y.output.toList ++ y.operators.items := by
  have whole (l : List Char) : l.takeWhile (fun _ => true) = l := by
    induction l with
    | nil => rfl
    | cons c l ih => simp [ih]
  simp [finish, drain, Stack.drain, Stack.toList, whole]

end Yard

end ShuntingYard
