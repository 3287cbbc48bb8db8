import ShuntingYard.Operator

/-!
# The classes of symbols

A symbol of an expression is an operand, which is a single ASCII digit, an operator or a
parenthesis. No symbol has two classes, and all other characters have none.
-/
namespace ShuntingYard

inductive SymbolClass where
  | operand
  | operator (operator : Operator)
  | openParenthesis
  | closeParenthesis
  deriving DecidableEq

namespace SymbolClass

/-- Whether a character is written for a symbol of this class. -/
def includes : SymbolClass → Char → Bool
  | operand, c => c.isDigit
  | operator o, c => c == o.symbol
  | openParenthesis, c => c == '('
  | closeParenthesis, c => c == ')'

def all : List SymbolClass :=
  operand :: Operator.all.map operator ++ [openParenthesis, closeParenthesis]

/-- The class of a character, if it is a symbol of an expression. -/
def of? (c : Char) : Option SymbolClass := all.find? (·.includes c)

/-- The symbols that open and close a group. -/
def parentheses : List Char := ['(', ')']

def isParenthesis : SymbolClass → Bool
  | openParenthesis | closeParenthesis => true
  | operand | operator _ => false

/-- The operator of an operator's class. -/
def operator? : SymbolClass → Option Operator
  | operator o => some o
  | operand | openParenthesis | closeParenthesis => none

/-- The class in words. -/
def description : SymbolClass → String
  | operand => "operand"
  | operator o => "operator " ++ String.singleton o.symbol
  | openParenthesis => "open parenthesis"
  | closeParenthesis => "close parenthesis"

/-- The diagnostic form of a class. -/
def diagnostic : SymbolClass → String
  | operand => "Operand"
  | operator o => Text.applied "Operator" o.name
  | openParenthesis => "OpenParenthesis"
  | closeParenthesis => "CloseParenthesis"

theorem mem_all (k : SymbolClass) : k ∈ all := by
  cases k with
  | operator o => cases o <;> decide
  | _ => decide

theorem eq_of_includes {k l : SymbolClass} {c : Char} (hk : k.includes c = true)
    (hl : l.includes c = true) : k = l := by
  have opening (o : Operator) : o.symbol ≠ '(' := by cases o <;> decide
  have closing (o : Operator) : o.symbol ≠ ')' := by cases o <;> decide
  have digit {d : Char} (h : d.isDigit = true) : d ≠ '(' ∧ d ≠ ')' := by
    constructor <;> rintro rfl <;> exact absurd h (by decide)
  cases k <;> cases l <;> simp only [includes, beq_iff_eq] at hk hl <;>
    grind [Operator.isDigit_symbol, Operator.symbol_inj]

theorem of?_eq_some_iff {c : Char} {k : SymbolClass} : of? c = some k ↔ k.includes c = true := by
  constructor
  · intro h
    have found := List.find?_some h
    exact found
  · intro h
    cases search : of? c with
    | none => exact absurd h (List.find?_eq_none.1 search k (mem_all k))
    | some l =>
      have found := List.find?_some search
      rw [eq_of_includes found h]

end SymbolClass

end ShuntingYard
