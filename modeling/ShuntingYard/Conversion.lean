import ShuntingYard.Event
import ShuntingYard.Text.Joined

/-!
# Conversion to postfix order

Operators follow their operands and parentheses are gone. The conversion takes any sequence of
symbols and never fails.
-/
namespace ShuntingYard

/-- The symbols of an expression in postfix order. -/
def toPostfix (symbols : List Char) : List Char := (Yard.feed ∅ symbols).finish

/-- The conversion with the events that lead to its result. -/
def toPostfixLogged (symbols : List Char) : Logged Event (List Char) :=
  let fed := Yard.feedLogged ∅ symbols
  let finished := fed.value.finishLogged
  ⟨finished.value, fed.log ++ finished.log⟩

/-- The conversion of a text, each character of which is one symbol. -/
def textToPostfixLogged (text : String) : Logged Event String :=
  (toPostfixLogged text.toList).map Text.joined

def textToPostfix (text : String) : String := Text.joined (toPostfix text.toList)

@[simp] theorem toPostfixLogged_value (symbols : List Char) :
    (toPostfixLogged symbols).value = toPostfix symbols := by
  simp [toPostfixLogged, toPostfix, Yard.finishLogged]

theorem toPostfixLogged_log (symbols : List Char) :
    (toPostfixLogged symbols).log =
      (Yard.feedLogged ∅ symbols).log ++ [.finished (toPostfix symbols)] := by
  simp [toPostfixLogged, toPostfix, Yard.finishLogged]

@[simp] theorem textToPostfixLogged_value (text : String) :
    (textToPostfixLogged text).value = textToPostfix text := by
  simp [textToPostfixLogged, textToPostfix, Logged.map]

end ShuntingYard
