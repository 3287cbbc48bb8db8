import ShuntingYard.Text.Quoted

/-!
# Structured values as text

The diagnostic form of lists, of named values with an argument, and of named values with fields.
-/
namespace ShuntingYard.Text

/-- Items in brackets, separated by commas. -/
def bracketed (items : List String) : String := "[" ++ ", ".intercalate items ++ "]"

/-- Symbols as a list of quoted characters. -/
def symbolList (l : List Char) : String := bracketed (l.map quotedChar)

/-- A name with one argument in parentheses. -/
def applied (name argument : String) : String := name ++ "(" ++ argument ++ ")"

/-- A name with its fields in braces, each written as name and value. -/
def withFields (name : String) (fields : List (String × String)) : String :=
  name ++ " \x7b " ++ ", ".intercalate (fields.map fun f => f.1 ++ ": " ++ f.2) ++ " \x7d"

end ShuntingYard.Text
