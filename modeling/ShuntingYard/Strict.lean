import ShuntingYard.Checker
import ShuntingYard.Conversion
import ShuntingYard.Failure

/-!
# Strict conversion

Only well-formed expressions are converted. A fault is found before the first step of the
conversion, so that a failure leaves nothing in the log.
-/
namespace ShuntingYard

def toPostfixStrictLogged (symbols : List Char) : Logged Event (Except Failure (List Char)) :=
  match validate symbols with
  | .error fault => .pure (.error ((Failure.ofFault fault).within .invalidExpression))
  | .ok () => (toPostfixLogged symbols).map .ok

def toPostfixStrict (symbols : List Char) : Except Failure (List Char) :=
  (toPostfixStrictLogged symbols).value

/-- The strict conversion of the symbols of a text. A failure says which text it was. -/
def symbolsOfTextStrictLogged (text : String) : Logged Event (Except Failure (List Char)) :=
  (toPostfixStrictLogged text.toList).map
    (Except.mapError (Failure.within (.convertingText text)))

def textToPostfixStrictLogged (text : String) : Logged Event (Except Failure String) :=
  (symbolsOfTextStrictLogged text).map (Except.map Text.joined)

def textToPostfixStrict (text : String) : Except Failure String :=
  (textToPostfixStrictLogged text).value

theorem toPostfixStrictLogged_of_ok {symbols : List Char} (h : validate symbols = .ok ()) :
    toPostfixStrictLogged symbols = (toPostfixLogged symbols).map .ok := by
  rw [toPostfixStrictLogged, h]

theorem toPostfixStrictLogged_of_error {symbols : List Char} {fault : Fault}
    (h : validate symbols = .error fault) :
    toPostfixStrictLogged symbols =
      .pure (.error ((Failure.ofFault fault).within .invalidExpression)) := by
  rw [toPostfixStrictLogged, h]

theorem toPostfixStrict_of_ok {symbols : List Char} (h : validate symbols = .ok ()) :
    toPostfixStrict symbols = .ok (toPostfix symbols) := by
  simp [toPostfixStrict, toPostfixStrictLogged, h, Logged.map]

theorem toPostfixStrict_of_error {symbols : List Char} {fault : Fault}
    (h : validate symbols = .error fault) :
    toPostfixStrict symbols = .error ((Failure.ofFault fault).within .invalidExpression) := by
  simp [toPostfixStrict, toPostfixStrictLogged, h, Logged.pure]

theorem textToPostfixStrict_of_ok {text : String} (h : validate text.toList = .ok ()) :
    textToPostfixStrict text = .ok (textToPostfix text) := by
  simp only [textToPostfixStrict, textToPostfixStrictLogged, symbolsOfTextStrictLogged,
    toPostfixStrictLogged, h, Logged.map, toPostfixLogged_value]
  rfl

end ShuntingYard
