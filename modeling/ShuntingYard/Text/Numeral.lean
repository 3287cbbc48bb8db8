/-!
# Numerals

Positions and counts are written in decimal, code points in lower-case hexadecimal, both without
leading zeros; a negative number has a minus sign in front.
-/
namespace ShuntingYard.Text

def decimal (n : Nat) : String := String.ofList (Nat.toDigits 10 n)

def hexadecimal (n : Nat) : String := String.ofList (Nat.toDigits 16 n)

def signedDecimal (i : Int) : String :=
  if i < 0 then "-" ++ decimal i.natAbs else decimal i.natAbs

end ShuntingYard.Text
