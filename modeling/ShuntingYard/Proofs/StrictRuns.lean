import ShuntingYard.Proofs.Joining
import ShuntingYard.Proofs.LogLines

/-!
# Strict and permissive runs

Strictness decides whether there is a conversion and nothing else. A text that passes the check is
converted by every entry in the same way and with the same log. One that does not is refused before
the first event, and each entry adds its own circumstance to the fault; the program reports all of
them and prints nothing, while the permissive program converts the text as well as it can.
-/
namespace ShuntingYard

section Entries

variable {text : String} {fault : Fault}

theorem symbolsOfTextStrictLogged_of_ok (h : validate text.toList = .ok ()) :
    symbolsOfTextStrictLogged text = (toPostfixLogged text.toList).map .ok := by
  rw [symbolsOfTextStrictLogged, toPostfixStrictLogged_of_ok h]
  rfl

def refusal (text : String) (fault : Fault) : Failure :=
  ⟨[.convertingText text, .invalidExpression], fault⟩

theorem symbolsOfTextStrictLogged_of_error (h : validate text.toList = .error fault) :
    symbolsOfTextStrictLogged text = .pure (.error (refusal text fault)) := by
  rw [symbolsOfTextStrictLogged, toPostfixStrictLogged_of_error h]
  rfl

theorem textToPostfixStrictLogged_of_error (h : validate text.toList = .error fault) :
    textToPostfixStrictLogged text = .pure (.error (refusal text fault)) := by
  rw [textToPostfixStrictLogged, symbolsOfTextStrictLogged_of_error h]
  rfl

theorem chain_refusal (text : String) (fault : Fault) : (refusal text fault).chain =
    ["Could not translate " ++ Text.quotedString text, "Invalid infix expression",
      fault.message] := rfl

end Entries

namespace CommandLine

variable {β τ : Type} {a : Arguments} {fault : Fault}

theorem NumbersCauses.report_refusal {explain : List String → String} (h : NumbersCauses explain)
    (text : String) (fault : Fault) :
    "Error: " ++ explain (refusal text fault).chain ++ "\n" = unlines
      ["Error: Could not translate " ++ Text.quotedString text, "", "Caused by:",
        "    0: Invalid infix expression", "    1: " ++ fault.message] := by
  have hlines : ∀ cause ∈ ["Invalid infix expression", fault.message], '\n' ∉ cause.toList := by
    simp only [List.forall_mem_cons, List.not_mem_nil, false_imp_iff, implies_true, and_true]
    exact ⟨by decide, fault.isClean_message.lineFeed_notMem⟩
  have hfirst : numberedCause 0 "Invalid infix expression" =
      "\n    0: Invalid infix expression" := by decide
  have hsecond : numberedCause 1 fault.message = "\n    1: " ++ fault.message := by
    have hnumber : "\n" ++ String.ofList ((Text.decimal 1).toList.leftpad 5 ' ') ++ ": " =
        "\n    1: " := by decide
    rw [numberedCause, hnumber]
  have hlength : 2 ≤ ["Invalid infix expression", fault.message].length := Nat.le_refl 2
  rw [chain_refusal, h _ _ hlength hlines]
  apply String.toList_inj.mp
  simp [hfirst, hsecond, unlines, String.join]

namespace Arguments

variable {b : Text.Builder β} {bytes : β → ByteArray}

/-- Without strictness, and for a text that passes the check, there is a conversion. -/
theorem convert_of_accepted (h : a.strict = false ∨ validate a.expression.toList = .ok ()) :
    a.convert = (toPostfixLogged a.expression.toList).map .ok := by
  cases hstrict : a.strict with
  | false => rw [convert, hstrict, if_neg Bool.false_ne_true]
  | true =>
    have hvalid : validate a.expression.toList = .ok () := by simpa [hstrict] using h
    rw [convert, hstrict, if_pos rfl, symbolsOfTextStrictLogged_of_ok hvalid]

theorem convert_of_refused (hstrict : a.strict = true)
    (h : validate a.expression.toList = .error fault) :
    a.convert = .pure (.error (refusal a.expression fault)) := by
  rw [convert, hstrict, if_pos rfl, symbolsOfTextStrictLogged_of_error h]

/-- What a run joins is the conversion of the expression, and with a buffer that holds its text the
joining succeeds. -/
theorem run_of_accepted (hutf8 : b.HoldsUTF8 bytes)
    (h : a.strict = false ∨ validate a.expression.toList = .ok ()) : a.run b =
      ⟨.ok (Text.joinedWith a.separator (toPostfix a.expression.toList)),
        a.openingRecord :: (toPostfixLogged a.expression.toList).log.map Event.record⟩ := by
  rw [run, convert_of_accepted h, ← hutf8.join_eq, ← toPostfixLogged_value]
  rfl

/-- A refused text leaves nothing in the log but the opening record. -/
theorem run_of_refused (hstrict : a.strict = true)
    (h : validate a.expression.toList = .error fault) (b : Text.Builder β) :
    a.run b = ⟨.error (refusal a.expression fault).chain, [a.openingRecord]⟩ := by
  rw [run, convert_of_refused hstrict h]
  rfl

end Arguments

namespace Facilities

variable {f : Facilities β τ} {words : List String} {log : List Record}

theorem logged_singleton (f : Facilities β τ) (clock : Nat → τ) (threshold : Option Level)
    (r : Record) : f.logged clock threshold [r] = f.write threshold (clock 0) r := by
  simp [logged, String.join]

theorem respond_of_ok {text : String} (hread : f.read words = .ok a)
    (hrun : a.run f.builder = ⟨.ok text, log⟩) (clock : Nat → τ) : f.respond clock words =
      ⟨0, text ++ "\n", f.logged clock (f.threshold a.verbosity) log⟩ := by
  rw [respond, hread]
  dsimp only
  rw [hrun]

theorem respond_of_error {chain : List String} (hread : f.read words = .ok a)
    (hrun : a.run f.builder = ⟨.error chain, log⟩) (clock : Nat → τ) : f.respond clock words =
      ⟨1, "", f.logged clock (f.threshold a.verbosity) log ++
        ("Error: " ++ f.explain chain ++ "\n")⟩ := by
  rw [respond, hread]
  dsimp only
  rw [hrun]

end Facilities

/-- Of two command lines that differ in strictness only, both have the same response if the text
passes the check, and both entries for texts the same result. For one that does not, each entry
fails with its own circumstances around the fault and logs nothing, and the strict program prints
nothing, exits with 1 and reports all messages in order; the permissive one prints the conversion
nevertheless. -/
theorem strict_and_permissive_responses (f : Facilities β τ) (bytes : β → ByteArray)
    (hutf8 : f.builder.HoldsUTF8 bytes) (hexplain : NumbersCauses f.explain) (clock : Nat → τ)
    (a : Arguments) (strict permissive : List String)
    (hstrict : f.read strict = .ok { a with strict := true })
    (hpermissive : f.read permissive = .ok { a with strict := false }) :
    let symbols := a.expression.toList
    let printed := Text.joinedWith a.separator (toPostfix symbols) ++ "\n"
    let response := f.respond clock permissive
    (response.exitCode = 0 ∧ response.stdout = printed) ∧
    (validate symbols = .ok () → f.respond clock strict = response ∧
      textToPostfixStrict a.expression = .ok (textToPostfix a.expression)) ∧
    ∀ fault, validate symbols = .error fault →
      let whole := "Could not translate " ++ Text.quotedString a.expression
      (∃ failure, toPostfixStrict symbols = .error failure ∧
        failure.chain = ["Invalid infix expression", fault.message]) ∧
      (∃ failure, textToPostfixStrict a.expression = .error failure ∧
        failure.chain = [whole, "Invalid infix expression", fault.message]) ∧
      (toPostfixStrictLogged symbols).log = [] ∧
      (textToPostfixStrictLogged a.expression).log = [] ∧
      ({ a with strict := true }.run f.builder).log = [a.openingRecord] ∧
      f.respond clock strict =
        ⟨1, "", f.write (f.threshold a.verbosity) (clock 0) a.openingRecord ++ unlines
          ["Error: " ++ whole, "", "Caused by:", "    0: Invalid infix expression",
            "    1: " ++ fault.message]⟩ := by
  intro symbols printed response
  have hrun := Arguments.run_of_accepted (a := { a with strict := false }) hutf8 (Or.inl rfl)
  have hresponse := Facilities.respond_of_ok hpermissive hrun clock
  refine ⟨?_, ?_, ?_⟩
  · change (f.respond clock permissive).exitCode = 0 ∧ (f.respond clock permissive).stdout = _
    rw [hresponse]
    exact ⟨rfl, rfl⟩
  · intro hvalid
    have hrun' := Arguments.run_of_accepted (a := { a with strict := true }) hutf8 (Or.inr hvalid)
    have hresponse' := Facilities.respond_of_ok hstrict hrun' clock
    exact ⟨hresponse'.trans hresponse.symm, textToPostfixStrict_of_ok hvalid⟩
  · intro fault hfault whole
    have hrun' := Arguments.run_of_refused (a := { a with strict := true }) rfl hfault f.builder
    refine ⟨⟨_, toPostfixStrict_of_error hfault, rfl⟩, ⟨_, ?_, chain_refusal _ _⟩, ?_, ?_, ?_, ?_⟩
    · rw [textToPostfixStrict, textToPostfixStrictLogged_of_error hfault]
      rfl
    · rw [toPostfixStrictLogged_of_error hfault]
      rfl
    · rw [textToPostfixStrictLogged_of_error hfault]
      rfl
    · rw [hrun']
      rfl
    · rw [Facilities.respond_of_error hstrict hrun' clock, hexplain.report_refusal,
        Facilities.logged_singleton]
      rfl

theorem strict_and_permissive_responses_of_group_and_stray_close :
    let group : Arguments := ⟨"8-(2*3)", true, " ", .verbose 2⟩
    let stray : Arguments := ⟨"1+2)", true, "", .quiet⟩
    let f := plainFacilities [
      (["-vv", "--strict", "--separator", " ", "8-(2*3)"], group),
      (["-vv", "--separator", " ", "8-(2*3)"], { group with strict := false }),
      (["-q", "--strict", "1+2)"], stray), (["-q", "1+2)"], { stray with strict := false })]
    let respond := f.respond plainClock
    (validate "8-(2*3)".toList = .ok () ∧
      respond ["-vv", "--strict", "--separator", " ", "8-(2*3)"] =
        respond ["-vv", "--separator", " ", "8-(2*3)"] ∧
      (respond ["-vv", "--separator", " ", "8-(2*3)"]).stdout = "8 2 3 * -\n") ∧
    (validate "1+2)".toList = .error (.unmatchedCloseParenthesis 3) ∧
      respond ["-q", "--strict", "1+2)"] = ⟨1, "", unlines [
        "Error: Could not translate \"1+2)\"", "", "Caused by:", "    0: Invalid infix expression",
        "    1: Mismatched parenthesis at position 3"]⟩ ∧
      (respond ["-q", "1+2)"]).exitCode = 0 ∧ (respond ["-q", "1+2)"]).stdout = "12+\n") := by
  intro group stray f respond
  have hvalid : validate "8-(2*3)".toList = .ok () := by rfl
  have hgroup : Text.joinedWith " " (toPostfix "8-(2*3)".toList) ++ "\n" = "8 2 3 * -\n" := by rfl
  have hfault : validate "1+2)".toList = .error (.unmatchedCloseParenthesis 3) := by rfl
  have hstray : Text.joinedWith "" (toPostfix "1+2)".toList) ++ "\n" = "12+\n" := by rfl
  have hreport : unlines ["Error: " ++ ("Could not translate " ++ Text.quotedString "1+2)"), "",
      "Caused by:", "    0: Invalid infix expression",
      "    1: " ++ (Fault.unmatchedCloseParenthesis 3).message] = unlines [
        "Error: Could not translate \"1+2)\"", "", "Caused by:", "    0: Invalid infix expression",
        "    1: Mismatched parenthesis at position 3"] := by rfl
  have hsilent :
      f.write (f.threshold stray.verbosity) (plainClock 0) stray.openingRecord = "" := rfl
  obtain ⟨⟨-, hprinted⟩, haccepted, -⟩ := strict_and_permissive_responses f id
    Text.byteBuilder_holdsUTF8 plainExplain_numbersCauses _ group
    ["-vv", "--strict", "--separator", " ", "8-(2*3)"] ["-vv", "--separator", " ", "8-(2*3)"]
    rfl rfl
  obtain ⟨⟨hcode, htext⟩, -, hrefused⟩ := strict_and_permissive_responses f id
    Text.byteBuilder_holdsUTF8 plainExplain_numbersCauses _ stray
    ["-q", "--strict", "1+2)"] ["-q", "1+2)"] rfl rfl
  obtain ⟨-, -, -, -, -, hresponse⟩ := hrefused _ hfault
  refine ⟨⟨hvalid, (haccepted hvalid).1, hprinted.trans hgroup⟩, hfault, hresponse.trans ?_, hcode,
    htext.trans hstray⟩
  rw [hsilent, String.empty_append]
  exact congrArg (Response.mk 1 "") hreport

end CommandLine

end ShuntingYard
