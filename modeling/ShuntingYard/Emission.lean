import ShuntingYard.Alphabet
import ShuntingYard.Brackets

/-!
# Times of emission

When each symbol of a sequence reaches the output, said of the sequence as a whole and without a
stack. Times are positions in the sequence, and its length is the time after all of them. A digit is
emitted at once, an unmatched opening parenthesis at the end, and an operator at the first later
symbol that releases it. No other symbol is emitted.
-/
namespace ShuntingYard

/-- Whether the symbol at the later position releases an operator of the given strength at the
earlier one: no parenthesis between them is open there, and the symbol is a closing parenthesis or
an operator that binds no tighter. -/
def releases (l : List Char) (earlier strength later : Nat) : Bool :=
  (openPositions (l.take later)).all (· < earlier) &&
    (l[later]?).any fun c => c == ')' || (strength? c).any (· ≤ strength)

/-- The positions after the given one, in increasing order. -/
def positionsAfter (l : List Char) (position : Nat) : List Nat :=
  (List.range l.length).drop (position + 1)

/-- The time at which the symbol at a position is emitted, if it ever is. -/
def emissionTime? (l : List Char) (position : Nat) : Option Nat := do
  let c ← l[position]?
  if c.isDigit then return position
  else if c = '(' then
    guard (position ∈ openPositions l)
    return l.length
  else
    let strength ← strength? c
    return ((positionsAfter l position).find? (releases l position strength)).getD l.length

/-- The positions that are emitted at a time, the latest first. -/
def emittedAt (l : List Char) (time : Nat) : List Nat :=
  (List.range l.length).reverse.filter fun position => emissionTime? l position == some time

/-- The emitted symbols by increasing time, and by decreasing position among equal times. -/
def emissions (l : List Char) : List Char :=
  ((List.range (l.length + 1)).flatMap (emittedAt l)).filterMap (l[·]?)

end ShuntingYard
