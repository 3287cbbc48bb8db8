import ShuntingYard.Tree

/-!
# Two grammars of expressions

The first one resolves precedence: an expression is a sum of terms, a term a product of factors, and
both group to the left. Its parse trees keep the parentheses, which the tree of a parse tree
forgets. The second one is ambiguous and says only which sequences of symbols are expressions.
-/
namespace ShuntingYard

inductive Category where
  | expression
  | term
  | factor
  deriving DecidableEq

inductive ParseTree : Category → Type where
  | sum (left : ParseTree .expression) (operator : Sign) (additive : operator.val ∈ ['+', '-'])
      (right : ParseTree .term) : ParseTree .expression
  | ofTerm (inner : ParseTree .term) : ParseTree .expression
  | product (left : ParseTree .term) (operator : Sign)
      (multiplicative : operator.val ∈ ['*', '/']) (right : ParseTree .factor) : ParseTree .term
  | ofFactor (inner : ParseTree .factor) : ParseTree .term
  | digit (digit : Digit) : ParseTree .factor
  | group (inner : ParseTree .expression) : ParseTree .factor

namespace ParseTree

/-- The symbols that a parse tree derives. -/
def yield {k : Category} : ParseTree k → List Char
  | sum left operator _ right | product left operator _ right =>
    left.yield ++ operator.val :: right.yield
  | ofTerm inner | ofFactor inner => inner.yield
  | digit d => [d.val]
  | group inner => '(' :: inner.yield ++ [')']

/-- The structure of a parse tree without its parentheses. -/
def tree {k : Category} : ParseTree k → Tree
  | sum left operator _ right | product left operator _ right =>
    .node operator left.tree right.tree
  | ofTerm inner | ofFactor inner | group inner => inner.tree
  | digit d => .leaf d

end ParseTree

/-- The sequences of symbols that are expressions, whatever their structure. -/
inductive Derivable : List Char → Prop
  | digit {c : Char} (h : c.isDigit = true) : Derivable [c]
  | group {l : List Char} (inner : Derivable l) : Derivable ('(' :: l ++ [')'])
  | binary {l r : List Char} {c : Char} (left : Derivable l) (operator : c ∈ ['+', '-', '*', '/'])
      (right : Derivable r) : Derivable (l ++ c :: r)

theorem ParseTree.derivable {k : Category} (t : ParseTree k) : Derivable t.yield := by
  induction t with
  | sum _ operator _ _ ihl ihr => exact .binary ihl operator.property ihr
  | ofTerm _ ih => exact ih
  | product _ operator _ _ ihl ihr => exact .binary ihl operator.property ihr
  | ofFactor _ ih => exact ih
  | digit d => exact .digit d.property
  | group _ ih => exact .group ih

end ShuntingYard
