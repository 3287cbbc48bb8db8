import ShuntingYard.Fault
import ShuntingYard.SymbolClass

/-!
# Offences

The faults of an expression by local rules. Whether a symbol is out of place shows from the symbol
before it and, for a closing parenthesis, from the number of parentheses before it; the other
symbols do not matter. At the end the counts of the parentheses and the last symbol decide.
-/
namespace ShuntingYard

/-- Whether an operand may end with this symbol. -/
def endsOperand (c : Char) : Bool := c.isDigit || c == ')'

/-- Whether an operand has to follow this symbol. -/
def awaitsOperand (c : Char) : Bool := (Operator.ofSymbol? c).isSome || c == '('

/-- What is wrong with a symbol at the given position after the given ones, if anything is. -/
def offenceAfter? (before : List Char) (symbol : Char) (position : Nat) : Option Fault :=
  match SymbolClass.of? symbol with
  | none => some (.unrecognizedSymbol symbol position)
  | some .operand =>
    if before.getLast?.any endsOperand then some (.unexpectedOperand symbol position) else none
  | some .openParenthesis =>
    if before.getLast?.any endsOperand then some (.unexpectedOpenParenthesis position) else none
  | some (.operator _) =>
    if before.getLast?.all awaitsOperand then some (.unexpectedOperator symbol position) else none
  | some .closeParenthesis =>
    if before.count '(' ≤ before.count ')' then some (.unmatchedCloseParenthesis position)
    else if before.getLast?.any awaitsOperand then some (.unexpectedCloseParenthesis position)
    else none

/-- What is wrong with the symbol at a position, if anything is. -/
def offence? (l : List Char) (position : Nat) : Option Fault :=
  l[position]?.bind fun symbol => offenceAfter? (l.take position) symbol position

/-- The offence at the least position that has one. -/
def firstOffence? (l : List Char) : Option Fault := (List.range l.length).findSome? (offence? l)

/-- What is missing after the last symbol, if anything is. -/
def omission? (l : List Char) : Option Fault :=
  if l.count ')' < l.count '(' then some (.unclosedParentheses (l.count '(' - l.count ')'))
  else if l.getLast?.any fun c => (Operator.ofSymbol? c).isSome then some .missingOperand
  else none

theorem position?_of_offenceAfter? {before : List Char} {symbol : Char} {position : Nat}
    {fault : Fault} (h : offenceAfter? before symbol position = some fault) :
    fault.position? = some position := by
  unfold offenceAfter? at h
  grind [Fault.position?]

/-- An offence lies at the position that it was found at. -/
theorem position?_of_offence? {l : List Char} {position : Nat} {fault : Fault}
    (h : offence? l position = some fault) : fault.position? = some position := by
  obtain ⟨symbol, _, offence⟩ := Option.bind_eq_some_iff.1 h
  exact position?_of_offenceAfter? offence

end ShuntingYard
