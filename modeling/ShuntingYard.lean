import ShuntingYard.Alphabet
import ShuntingYard.Brackets
import ShuntingYard.Calls
import ShuntingYard.Checker
import ShuntingYard.CommandLine.Arguments
import ShuntingYard.CommandLine.Facilities
import ShuntingYard.CommandLine.Response
import ShuntingYard.Conversion
import ShuntingYard.Emission
import ShuntingYard.Event
import ShuntingYard.Failure
import ShuntingYard.Fault
import ShuntingYard.Grammar
import ShuntingYard.Log
import ShuntingYard.Maybe
import ShuntingYard.Maybe.Chain
import ShuntingYard.Maybe.Pipeline
import ShuntingYard.Offence
import ShuntingYard.Operator
import ShuntingYard.Proofs.Acceptance
import ShuntingYard.Proofs.Accounting
import ShuntingYard.Proofs.Balance
import ShuntingYard.Proofs.CleanTexts
import ShuntingYard.Proofs.Completion
import ShuntingYard.Proofs.Decreasing
import ShuntingYard.Proofs.Diagnostics
import ShuntingYard.Proofs.DrainCalls
import ShuntingYard.Proofs.Draining
import ShuntingYard.Proofs.EmissionOrder
import ShuntingYard.Proofs.EmissionTimes
import ShuntingYard.Proofs.FirstOffence
import ShuntingYard.Proofs.Framing
import ShuntingYard.Proofs.Groups
import ShuntingYard.Proofs.Joining
import ShuntingYard.Proofs.Lockstep
import ShuntingYard.Proofs.LogContents
import ShuntingYard.Proofs.LogLines
import ShuntingYard.Proofs.OpenPositions
import ShuntingYard.Proofs.Parsing
import ShuntingYard.Proofs.PipelineCalls
import ShuntingYard.Proofs.Postorder
import ShuntingYard.Proofs.Reconstruction
import ShuntingYard.Proofs.Renaming
import ShuntingYard.Proofs.Spelling
import ShuntingYard.Proofs.StackOrder
import ShuntingYard.Proofs.Steps
import ShuntingYard.Proofs.StrictRuns
import ShuntingYard.Proofs.Unmatched
import ShuntingYard.Proofs.Verbosity
import ShuntingYard.Proofs.Waiting
import ShuntingYard.Renaming
import ShuntingYard.Segments
import ShuntingYard.Session
import ShuntingYard.Stack
import ShuntingYard.Strict
import ShuntingYard.SymbolClass
import ShuntingYard.Text.Builder
import ShuntingYard.Text.Joined
import ShuntingYard.Text.Numeral
import ShuntingYard.Text.Printable
import ShuntingYard.Text.Quoted
import ShuntingYard.Text.Structured
import ShuntingYard.Tree
import ShuntingYard.Yard
