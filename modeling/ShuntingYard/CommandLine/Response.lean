import ShuntingYard.CommandLine.Facilities
import ShuntingYard.Strict

/-!
# The program

From a command line to the response. A run announces the expression, converts it and joins the
symbols of the result; either of the last two may fail, which ends the run. All records go to the
logger as they come, and only the logger and the choice of the threshold see the verbosity.
-/
namespace ShuntingYard.CommandLine

variable {β τ : Type}

namespace Arguments

/-- The record that opens the log of a run. -/
def openingRecord (a : Arguments) : Record :=
  ⟨.info, "postfix_translator_cli", "Translating " ++ Text.quotedString a.expression⟩

def convert (a : Arguments) : Logged Event (Except Failure (List Char)) :=
  if a.strict then symbolsOfTextStrictLogged a.expression
  else (toPostfixLogged a.expression.toList).map .ok

/-- The text that a run prints, or the messages of its failure, with all records on the way. -/
def run (b : Text.Builder β) (a : Arguments) : Logged Record (Except (List String) String) where
  value := do
    let symbols ← a.convert.value.mapError Failure.chain
    b.join a.separator symbols
  log := a.openingRecord :: a.convert.log.map Event.record

end Arguments

namespace Facilities

variable (f : Facilities β τ) (clock : Nat → τ)

/-- What the logger writes for a row of records. The clock tells the time of each place in it. -/
def logged (threshold : Option Level) (records : List Record) : String :=
  String.join (records.mapIdx fun i r => f.write threshold (clock i) r)

/-- The response to a command line. What went wrong is reported behind the log. -/
def respond (words : List String) : Response :=
  match f.read words with
  | .error response => response
  | .ok a =>
    let run := a.run f.builder
    let log := f.logged clock (f.threshold a.verbosity) run.log
    match run.value with
    | .ok text => ⟨0, text ++ "\n", log⟩
    | .error chain => ⟨1, "", log ++ ("Error: " ++ f.explain chain ++ "\n")⟩

end Facilities

end ShuntingYard.CommandLine
