import ShuntingYard.Text.Structured

/-!
# Operators

The four binary operators of arithmetic with their symbols, precedences and associativity. An
operator that waits on the stack yields to an incoming one if it binds tighter, or as tightly and
the incoming one groups to the left.
-/
namespace ShuntingYard

inductive Associativity where
  | left
  | right
  deriving DecidableEq

def Associativity.name : Associativity → String
  | .left => "Left"
  | .right => "Right"

inductive Operator where
  | add
  | subtract
  | multiply
  | divide
  deriving DecidableEq

namespace Operator

def symbol : Operator → Char
  | add => '+'
  | subtract => '-'
  | multiply => '*'
  | divide => '/'

def precedence : Operator → Nat
  | add | subtract => 1
  | multiply | divide => 2

def associativity : Operator → Associativity
  | add | subtract | multiply | divide => .left

def name : Operator → String
  | add => "Add"
  | subtract => "Subtract"
  | multiply => "Multiply"
  | divide => "Divide"

/-- Every operator, in the order of the table. -/
def all : List Operator := [add, subtract, multiply, divide]

/-- The operator that is written as the given symbol. -/
def ofSymbol? (c : Char) : Option Operator := all.find? fun o => o.symbol == c

def sharesPrecedence (o p : Operator) : Bool := o.precedence == p.precedence

def bindsTighter (o p : Operator) : Bool := p.precedence < o.precedence

def bindsAtLeastAsTightly (o p : Operator) : Bool := p.precedence ≤ o.precedence

/-- Whether an operator on the stack has to leave it before the incoming one is stacked. -/
def yieldsTo (stacked incoming : Operator) : Bool :=
  stacked.bindsTighter incoming ||
    stacked.sharesPrecedence incoming && incoming.associativity == .left

@[simp] theorem isDigit_symbol (o : Operator) : o.symbol.isDigit = false := by cases o <;> rfl

theorem symbol_inj {o p : Operator} : o.symbol = p.symbol ↔ o = p := by
  cases o <;> cases p <;> decide

theorem ofSymbol?_eq_some_iff {c : Char} {o : Operator} : ofSymbol? c = some o ↔ c = o.symbol := by
  constructor
  · intro h
    have found := List.find?_some h
    exact (beq_iff_eq.1 found).symm
  · rintro rfl
    cases o <;> decide

theorem ofSymbol?_symbol (o : Operator) : ofSymbol? o.symbol = some o :=
  ofSymbol?_eq_some_iff.2 rfl

/-- As every operator groups to the left, the stacked one yields exactly to those that bind no
tighter. -/
theorem yieldsTo_eq_true_iff {stacked incoming : Operator} :
    stacked.yieldsTo incoming = true ↔ incoming.precedence ≤ stacked.precedence := by
  cases stacked <;> cases incoming <;> decide

/-- An operator with all that is known of it, as one line of the table. -/
structure Entry where
  operator : Operator
  symbol : Char
  precedence : Nat
  associativity : Associativity
  deriving DecidableEq

def entry (o : Operator) : Entry := ⟨o, o.symbol, o.precedence, o.associativity⟩

def table : List Entry := all.map entry

/-- The diagnostic form of an entry. -/
def Entry.diagnostic (e : Entry) : String :=
  Text.withFields "OperatorEntry" [
    ("operator", e.operator.name),
    ("symbol", Text.quotedChar e.symbol),
    ("precedence", Text.decimal e.precedence),
    ("associativity", e.associativity.name)]

end Operator

end ShuntingYard
