import ShuntingYard.Text.Numeral
import ShuntingYard.Text.Printable

/-!
# Quoted text

Characters and strings are shown between quotes, so that a diagnostic holds printable characters
only and its reader can tell where the quoted text begins and ends. A backslash and the quote in use
get a backslash in front; tab, line feed, carriage return and NUL have short forms; every other
unprintable character is written as its code point in hexadecimal.
-/
namespace ShuntingYard.Text

/-- The code point of a character, for one that cannot be shown as itself. -/
def codePoint (c : Char) : List Char :=
  "\\u\x7b".toList ++ (hexadecimal c.toNat).toList ++ ['\x7d']

/-- A character as it is written between two quotes. -/
def escape (quote c : Char) : List Char :=
  if c = '\x00' then ['\\', '0']
  else if c = '\t' then ['\\', 't']
  else if c = '\n' then ['\\', 'n']
  else if c = '\r' then ['\\', 'r']
  else if c = '\\' ∨ c = quote then ['\\', c]
  else if isPrintable c then [c]
  else codePoint c

/-- Characters between two quotes, each escaped where it has to be. -/
def quoted (quote : Char) (l : List Char) : String :=
  String.ofList (quote :: l.flatMap (escape quote) ++ [quote])

/-- One character in single quotes. -/
def quotedChar (c : Char) : String := quoted '\x27' [c]

/-- A text in double quotes. -/
def quotedString (s : String) : String := quoted '\x22' s.toList

end ShuntingYard.Text
