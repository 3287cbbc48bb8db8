/-!
# Arguments

What a command line asks for, once it has been read, and what the program answers.
-/
namespace ShuntingYard.CommandLine

/-- What is asked of the log; nobody asks for silence and for detail at once. -/
inductive Verbosity where
  | quiet
  /-- How many times more detail is asked for. -/
  | verbose (times : Nat)
  deriving DecidableEq

structure Arguments where
  expression : String
  strict : Bool
  separator : String
  verbosity : Verbosity
  deriving DecidableEq

/-- An exit code with what was written to the two output streams. -/
structure Response where
  exitCode : Nat
  stdout : String
  stderr : String
  deriving DecidableEq

end ShuntingYard.CommandLine
