import ShuntingYard.Fault

/-!
# Failures

A failure is a fault together with the circumstances in which it was met, the outermost first.
-/
namespace ShuntingYard

inductive Circumstance where
  | invalidExpression
  | convertingText (text : String)
  deriving DecidableEq

def Circumstance.message : Circumstance → String
  | invalidExpression => "Invalid infix expression"
  | convertingText text => "Could not translate " ++ Text.quotedString text

structure Failure where
  circumstances : List Circumstance
  cause : Fault
  deriving DecidableEq

namespace Failure

def ofFault (fault : Fault) : Failure := ⟨[], fault⟩

/-- The failure as it is seen from one more circumstance around it. -/
def within (circumstance : Circumstance) (f : Failure) : Failure :=
  { f with circumstances := circumstance :: f.circumstances }

/-- All messages, from the outermost circumstance to the fault. -/
def chain (f : Failure) : List String :=
  f.circumstances.map Circumstance.message ++ [f.cause.message]

end Failure

end ShuntingYard
