import ShuntingYard.CommandLine.Arguments
import ShuntingYard.Log
import ShuntingYard.Text.Builder
import ShuntingYard.Text.Numeral

/-!
# Facilities

What the program relies on without being part of it: a reader of command lines, a choice of what is
logged, a logger, a form for chains of messages and a buffer for text. The program is given all of
them, and what is known of each is said by laws. Plain facilities that obey the laws come last.
-/
namespace ShuntingYard.CommandLine

variable {β τ : Type}

/-- A logger stamps its records with times of any kind. -/
structure Facilities (β τ : Type) where
  /-- A command line that asks for something else than a conversion has its response at once. -/
  read : List String → Except Response Arguments
  /-- The most detailed level that is logged, if any is. -/
  threshold : Verbosity → Option Level
  /-- What the logger writes for a record. -/
  write : Option Level → τ → Record → String
  /-- The messages of a failure as one text, the outermost first. -/
  explain : List String → String
  builder : Text.Builder β

section Laws

/-- A record that is shown becomes a header and its text as given, which make up one line if the
text does; the others leave no trace. -/
structure WritesLines (write : Option Level → τ → Record → String)
    (header : τ → Level → String → String) : Prop where
  hidden : ∀ threshold time r, r.level.isShown threshold = false → write threshold time r = ""
  shown : ∀ threshold time r, r.level.isShown threshold = true → '\n' ∉ r.text.toList →
    write threshold time r = header time r.level r.target ++ r.text ++ "\n"
  header : ∀ time level target, '\n' ∉ target.toList →
    '\n' ∉ (header time level target).toList

def numberedCause (i : Nat) (cause : String) : String :=
  "\n" ++ String.ofList ((Text.decimal i).toList.leftpad 5 ' ') ++ ": " ++ cause

/-- Two or more causes are listed by number behind the message, each as it is if it is a line. -/
def NumbersCauses (explain : List String → String) : Prop :=
  ∀ message causes, 2 ≤ causes.length → (∀ cause ∈ causes, '\n' ∉ cause.toList) →
    explain (message :: causes) =
      message ++ "\n\nCaused by:" ++ String.join (causes.mapIdx numberedCause)

end Laws

section Plain

/-- A reader that knows some command lines. -/
def plainRead (known : List (List String × Arguments)) (words : List String) :
    Except Response Arguments :=
  match known.lookup words with
  | some arguments => .ok arguments
  | none => .error ⟨2, "", "error: invalid arguments\n"⟩

def plainThreshold : Verbosity → Option Level
  | .quiet => none
  | .verbose 0 => some .error
  | .verbose 1 => some .warn
  | .verbose 2 => some .info
  | .verbose 3 => some .debug
  | .verbose _ => some .trace

abbrev TimeStamp := { s : String // '\n' ∉ s.toList }

/-- A clock that stands still. -/
def plainClock (_ : Nat) : TimeStamp := ⟨"2026-03-01T08:30:00Z", by decide⟩

def plainHeader (time : TimeStamp) (level : Level) (target : String) : String :=
  "[" ++ time.val ++ " " ++ level.label ++ " " ++ target ++ "] "

def plainWrite (threshold : Option Level) (time : TimeStamp) (r : Record) : String :=
  if r.level.isShown threshold then plainHeader time r.level r.target ++ r.text ++ "\n" else ""

/-- A single cause has no number. -/
def plainExplain : List String → String
  | [] => ""
  | [message] => message
  | [message, cause] => message ++ "\n\nCaused by:\n    " ++ cause
  | message :: causes =>
    message ++ "\n\nCaused by:" ++ String.join (causes.mapIdx numberedCause)

def plainFacilities (known : List (List String × Arguments)) : Facilities ByteArray TimeStamp where
  read := plainRead known
  threshold := plainThreshold
  write := plainWrite
  explain := plainExplain
  builder := Text.byteBuilder

theorem plainWrite_writesLines : WritesLines plainWrite plainHeader where
  hidden _ _ _ h := if_neg (by simp [h])
  shown _ _ _ h _ := if_pos h
  header time level target h := by
    have hlabel : '\n' ∉ level.label.toList := by cases level <;> decide
    have htime := time.property
    simp [plainHeader, h, hlabel, htime]

theorem plainExplain_numbersCauses : NumbersCauses plainExplain := by
  intro message causes h _
  match causes with
  | _ :: _ :: _ => rfl

end Plain

end ShuntingYard.CommandLine
