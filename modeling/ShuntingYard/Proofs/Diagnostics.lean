import ShuntingYard.Proofs.StrictRuns

/-!
# Diagnostics keep to their lines

All that the program writes about an expression is clean, so that a record cannot pretend to be
another one. With a logger that writes lines and a form for failures that numbers the causes, the
lines of the error stream are those of the records that are shown and of the report.
-/
namespace ShuntingYard

open Text

namespace CommandLine

variable {β τ : Type} {a : Arguments}

def logLines (f : Facilities β τ) (header : τ → Level → String → String) (clock : Nat → τ)
    (a : Arguments) : List String :=
  (entries clock (f.threshold a.verbosity) (a.run f.builder).log).map (entryLine header)

section Streams

variable {f : Facilities β τ} {header : τ → Level → String → String}

theorem lineFeed_notMem_of_mem_logLines (h : WritesLines f.write header) (clock : Nat → τ)
    {text : String} (hmem : text ∈ logLines f header clock a) : '\n' ∉ text.toList := by
  obtain ⟨entry, hentry, rfl⟩ := List.mem_map.mp hmem
  exact h.lineFeed_notMem_line (Arguments.isClean_of_mem_run (mem_of_mem_entries hentry))

theorem lineFeed_notMem_report (text : String) (fault : Fault) :
    ∀ line ∈ ["Error: Could not translate " ++ quotedString text, "", "Caused by:",
      "    0: Invalid infix expression", "    1: " ++ fault.message], '\n' ∉ line.toList := by
  have hfirst : IsClean ("Error: Could not translate " ++ quotedString text) :=
    isClean_append.mpr ⟨by decide, isClean_quotedString text⟩
  have hlast : IsClean ("    1: " ++ fault.message) :=
    isClean_append.mpr ⟨by decide, fault.isClean_message⟩
  intro line h
  simp only [List.mem_cons, List.not_mem_nil, or_false] at h
  rcases h with rfl | rfl | rfl | rfl | rfl
  · exact hfirst.lineFeed_notMem
  · decide
  · decide
  · decide
  · exact hlast.lineFeed_notMem

theorem stderr_of_accepted {words : List String} {bytes : β → ByteArray}
    (hutf8 : f.builder.HoldsUTF8 bytes) (hwrite : WritesLines f.write header)
    (hread : f.read words = .ok a) (clock : Nat → τ)
    (h : a.strict = false ∨ validate a.expression.toList = .ok ()) :
    (f.respond clock words).exitCode = 0 ∧
      (f.respond clock words).stderr = unlines (logLines f header clock a) := by
  have hrun := Arguments.run_of_accepted hutf8 h
  rw [Facilities.respond_of_ok hread hrun clock, logLines, ← hwrite.logged_run, hrun]
  exact ⟨rfl, rfl⟩

theorem stderr_of_refused {words : List String} {fault : Fault}
    (hwrite : WritesLines f.write header) (hexplain : NumbersCauses f.explain)
    (hread : f.read words = .ok a) (clock : Nat → τ) (hstrict : a.strict = true)
    (h : validate a.expression.toList = .error fault) :
    (f.respond clock words).exitCode = 1 ∧ (f.respond clock words).stderr =
      unlines (logLines f header clock a ++
        ["Error: Could not translate " ++ quotedString a.expression, "", "Caused by:",
          "    0: Invalid infix expression", "    1: " ++ fault.message]) := by
  have hrun := Arguments.run_of_refused hstrict h f.builder
  rw [Facilities.respond_of_error hread hrun clock, unlines_append, logLines,
    ← hwrite.logged_run, hrun, hexplain.report_refusal]
  exact ⟨rfl, rfl⟩

end Streams

/-- Whatever characters the input holds, no control character gets into a record or into the message
of a failure. Each record that is shown is therefore one line on standard error, a report is five,
and there are no other lines. -/
theorem diagnostics_stay_on_their_lines (f : Facilities β τ) (bytes : β → ByteArray)
    (header : τ → Level → String → String) (hutf8 : f.builder.HoldsUTF8 bytes)
    (hwrite : WritesLines f.write header) (hexplain : NumbersCauses f.explain) :
    (∀ symbols : List Char,
      (∀ e ∈ (toPostfixLogged symbols).log ++ (toPostfixStrictLogged symbols).log,
        e.record.IsClean) ∧
      (∀ fault, validate symbols = .error fault → IsClean fault.message) ∧
      ∀ failure, toPostfixStrict symbols = .error failure → ∀ m ∈ failure.chain, IsClean m) ∧
    (∀ text : String,
      (∀ e ∈ (textToPostfixLogged text).log ++ (textToPostfixStrictLogged text).log,
        e.record.IsClean) ∧
      ∀ failure, textToPostfixStrict text = .error failure → ∀ m ∈ failure.chain, IsClean m) ∧
    ∀ words a, f.read words = .ok a → ∀ clock : Nat → τ,
      let records := (a.run f.builder).log
      let lines := (entries clock (f.threshold a.verbosity) records).map (entryLine header)
      let response := f.respond clock words
      let opening : Record :=
        ⟨.info, "postfix_translator_cli", "Translating " ++ quotedString a.expression⟩
      (opening ∈ records ∧ ∀ r ∈ records, r.IsClean) ∧
      (a.strict = false ∨ validate a.expression.toList = .ok () → response.exitCode = 0 ∧
        response.stderr.toList.splitOn '\n' = lines.map String.toList ++ [[]]) ∧
      ∀ fault, a.strict = true → validate a.expression.toList = .error fault →
        response.exitCode = 1 ∧ response.stderr.toList.splitOn '\n' =
          (lines ++ ["Error: Could not translate " ++ quotedString a.expression, "", "Caused by:",
            "    0: Invalid infix expression", "    1: " ++ fault.message]).map String.toList ++
            [[]] := by
  refine ⟨fun symbols => ⟨fun e _ => e.isClean_record, fun fault _ => fault.isClean_message,
    fun failure _ m => Failure.isClean_of_mem_chain⟩, fun text => ⟨fun e _ => e.isClean_record,
    fun failure _ m => Failure.isClean_of_mem_chain⟩, ?_⟩
  intro words a hread clock records lines response opening
  have hlines (text : String) (h : text ∈ lines) := lineFeed_notMem_of_mem_logLines hwrite clock h
  refine ⟨?_, fun haccepted => ?_, fun fault hstrict hfault => ?_⟩
  · exact ⟨List.mem_cons_self, fun r hr => Arguments.isClean_of_mem_run hr⟩
  · obtain ⟨hcode, hstderr⟩ := stderr_of_accepted hutf8 hwrite hread clock haccepted
    refine ⟨hcode, ?_⟩
    change (f.respond clock words).stderr.toList.splitOn '\n' = _
    rw [hstderr]
    exact splitOn_unlines hlines
  · obtain ⟨hcode, hstderr⟩ := stderr_of_refused hwrite hexplain hread clock hstrict hfault
    have hall := List.forall_mem_append.mpr ⟨hlines, lineFeed_notMem_report a.expression fault⟩
    refine ⟨hcode, ?_⟩
    change (f.respond clock words).stderr.toList.splitOn '\n' = _
    rw [hstderr]
    exact splitOn_unlines hall

theorem diagnostics_stay_on_their_lines_of_line_feed :
    let f := plainFacilities [
      (["-vvvv", "2\n"], ⟨"2\n", false, "", .verbose 4⟩),
      (["-vv", "--strict", "2\n"], ⟨"2\n", true, "", .verbose 2⟩)]
    let respond := f.respond plainClock
    (respond ["-vvvv", "2\n"]).stderr.toList.splitOn '\n' =
      ["[2026-03-01T08:30:00Z INFO  postfix_translator_cli] Translating \"2\\n\"",
        "[2026-03-01T08:30:00Z TRACE postfix_translator::translator::context] " ++
          "'2' as operand: output ['2'], operators []",
        "[2026-03-01T08:30:00Z TRACE postfix_translator::translator::context] " ++
          "Ignoring unrecognized symbol '\\n'",
        "[2026-03-01T08:30:00Z DEBUG postfix_translator::translator] " ++
          "Translated to ['2']"].map String.toList ++ [[]] ∧
    validate "2\n".toList = .error (.unrecognizedSymbol '\n' 1) ∧
    (respond ["-vv", "--strict", "2\n"]).stderr.toList.splitOn '\n' =
      ["[2026-03-01T08:30:00Z INFO  postfix_translator_cli] Translating \"2\\n\"",
        "Error: Could not translate \"2\\n\"", "", "Caused by:",
        "    0: Invalid infix expression",
        "    1: Unrecognized symbol '\\n' at position 1"].map String.toList ++ [[]] := by
  intro f respond
  have hfault : validate "2\n".toList = .error (.unrecognizedSymbol '\n' 1) := by rfl
  have hlog :
      logLines (plainFacilities []) plainHeader plainClock ⟨"2\n", false, "", .verbose 4⟩ = [
        "[2026-03-01T08:30:00Z INFO  postfix_translator_cli] Translating \"2\\n\"",
        "[2026-03-01T08:30:00Z TRACE postfix_translator::translator::context] " ++
          "'2' as operand: output ['2'], operators []",
        "[2026-03-01T08:30:00Z TRACE postfix_translator::translator::context] " ++
          "Ignoring unrecognized symbol '\\n'",
        "[2026-03-01T08:30:00Z DEBUG postfix_translator::translator] Translated to ['2']"] := by
    decide
  have hall :
      logLines (plainFacilities []) plainHeader plainClock ⟨"2\n", true, "", .verbose 2⟩ ++ [
        "Error: Could not translate " ++ quotedString "2\n", "", "Caused by:",
        "    0: Invalid infix expression",
        "    1: " ++ (Fault.unrecognizedSymbol '\n' 1).message] = [
        "[2026-03-01T08:30:00Z INFO  postfix_translator_cli] Translating \"2\\n\"",
        "Error: Could not translate \"2\\n\"", "", "Caused by:",
        "    0: Invalid infix expression", "    1: Unrecognized symbol '\\n' at position 1"] := by
    decide
  obtain ⟨-, -, hlines⟩ := diagnostics_stay_on_their_lines f id plainHeader byteBuilder_holdsUTF8
    plainWrite_writesLines plainExplain_numbersCauses
  obtain ⟨-, hshown, -⟩ := hlines ["-vvvv", "2\n"] _ rfl plainClock
  obtain ⟨-, -, hreported⟩ := hlines ["-vv", "--strict", "2\n"] _ rfl plainClock
  have hread (lines lines' : List String) (h : lines = lines') :
      lines.map String.toList ++ [[]] = lines'.map String.toList ++ [[]] := by rw [h]
  exact ⟨(hshown (Or.inl rfl)).2.trans (hread _ _ hlog), hfault,
    (hreported _ rfl hfault).2.trans (hread _ _ hall)⟩

end CommandLine

end ShuntingYard
