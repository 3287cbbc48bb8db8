import ShuntingYard.Log
import ShuntingYard.Yard

/-!
# What happens during a conversion

Each symbol is either ignored or taken into the yard, and at the end there is a result. The log
shows each of these events as one record.
-/
namespace ShuntingYard

inductive Event where
  | ignored (symbol : Char)
  | taken (symbol : Char) (kind : SymbolClass) (after : Yard)
  | finished (result : List Char)
  deriving DecidableEq

namespace Event

/-- The event of a symbol, given the yard after it. -/
def ofSymbol (symbol : Char) (after : Yard) : Event :=
  match SymbolClass.of? symbol with
  | none => ignored symbol
  | some kind => taken symbol kind after

def level : Event → Level
  | ignored _ | taken .. => .trace
  | finished _ => .debug

def target : Event → String
  | ignored _ | taken .. => "postfix_translator::translator::context"
  | finished _ => "postfix_translator::translator"

def text : Event → String
  | ignored symbol => "Ignoring unrecognized symbol " ++ Text.quotedChar symbol
  | taken symbol kind after =>
    Text.quotedChar symbol ++ " as " ++ kind.description ++
      ": output " ++ Text.symbolList after.output.toList ++
      ", operators " ++ Text.symbolList after.operators.toList
  | finished result => "Translated to " ++ Text.symbolList result

def record (e : Event) : Record := ⟨e.level, e.target, e.text⟩

theorem text_ignored (symbol : Char) :
    (ignored symbol).text = "Ignoring unrecognized symbol " ++ Text.quotedChar symbol := rfl

theorem text_taken (symbol : Char) (kind : SymbolClass) (after : Yard) :
    (taken symbol kind after).text = Text.quotedChar symbol ++ " as " ++ kind.description ++
      ": output " ++ Text.symbolList after.output.toList ++
      ", operators " ++ Text.symbolList after.operators.toList := rfl

theorem text_finished (result : List Char) :
    (finished result).text = "Translated to " ++ Text.symbolList result := rfl

end Event

namespace Yard

/-- Feeds a sequence of symbols and logs the event of each. -/
def feedLogged (y : Yard) : List Char → Logged Event Yard
  | [] => .pure y
  | c :: l =>
    let after := y.step c
    let rest := feedLogged after l
    ⟨rest.value, Event.ofSymbol c after :: rest.log⟩

/-- The finished output with the event that announces it. -/
def finishLogged (y : Yard) : Logged Event (List Char) :=
  let result := y.finish
  ⟨result, [.finished result]⟩

@[simp] theorem feedLogged_value (y : Yard) (l : List Char) :
    (y.feedLogged l).value = y.feed l := by
  induction l generalizing y with
  | nil => rfl
  | cons c l ih => exact ih (y.step c)

@[simp] theorem length_feedLogged_log (y : Yard) (l : List Char) :
    (y.feedLogged l).log.length = l.length := by
  induction l generalizing y with
  | nil => rfl
  | cons c l ih => simp [feedLogged, ih]

end Yard

end ShuntingYard
