import ShuntingYard.Offence
import ShuntingYard.Proofs.Steps
import Mathlib.Order.Bounds.Defs
import Mathlib.Tactic.SplitIfs

/-!
# Completions

What the checker lets pass can be completed to an expression: the operand that is due and the
closing parentheses of the open groups are enough, and nothing shorter is, since each symbol settles
at most one of these debts. What the checker refuses is beyond repair from the refused symbol on,
and that symbol alone decides the fault. Faults are therefore reported at the earliest position, and
those that show at the end leave a sequence that only lacks its completion.
-/
namespace ShuntingYard

namespace Checker

variable {s t : Checker} {position : Nat} {c : Char} {l : List Char} {fault : Fault}

section Debts

/-- How many symbols are missing at least. -/
def debt (s : Checker) : Nat := s.depth + if s.expectsOperand then 1 else 0

def completion (s : Checker) : List Char :=
  (if s.expectsOperand then ['0'] else []) ++ List.replicate s.depth ')'

theorem length_completion (s : Checker) : s.completion.length = s.debt := by
  unfold completion debt
  split <;> simp

theorem run_replicate_close (depth position : Nat) :
    (Checker.mk false depth).run position (List.replicate depth ')') = .ok ⟨false, 0⟩ := by
  induction depth generalizing position with
  | zero => rfl
  | succ depth ih =>
    rw [List.replicate_succ, run_cons_eq_ok_iff]
    refine ⟨⟨false, depth⟩, ?_, ih (position + 1)⟩
    simp [step_close]

theorem run_completion (s : Checker) (position : Nat) :
    s.run position s.completion = .ok ⟨false, 0⟩ := by
  obtain ⟨expects, depth⟩ := s
  cases expects with
  | false => exact run_replicate_close depth position
  | true =>
    refine (run_cons_eq_ok_iff _ _).mpr ⟨⟨false, depth⟩, ?_, run_replicate_close depth _⟩
    rw [step_digit _ _ rfl, if_pos rfl]

/-- One symbol settles at most one debt. -/
theorem debt_le_of_step (h : s.step position c = .ok t) : s.debt ≤ t.debt + 1 := by
  cases step_eq_ok_iff.mp h with
  | digit _ depth | closing depth => exact Nat.le_refl _
  | operator _ depth | opening depth =>
    simp only [debt, Bool.false_eq_true, if_false, if_true]
    omega

theorem debt_le_of_run (h : s.run position l = .ok t) : s.debt ≤ t.debt + l.length := by
  induction l generalizing s position with
  | nil =>
    obtain rfl := Except.ok.inj h
    exact Nat.le_refl _
  | cons c l ih =>
    obtain ⟨r, hstep, hrun⟩ := (run_cons_eq_ok_iff _ _).mp h
    have hfirst := debt_le_of_step hstep
    have hrest := ih hrun
    rw [List.length_cons]
    omega

end Debts

section States

theorem expectsOperand_of_step (h : s.step position c = .ok t) :
    t.expectsOperand = awaitsOperand c := by
  cases step_eq_ok_iff.mp h with
  | digit hc =>
    simp [awaitsOperand, ofSymbol?_eq_none_of_isDigit hc, ne_open_of_isDigit hc]
  | operator o => simp [awaitsOperand, Operator.ofSymbol?_symbol]
  | opening | closing => simp [awaitsOperand]

theorem eq_nil_or_exists_step (h : start.run 0 l = .ok s) : (l = [] ∧ s = start) ∨
    ∃ before c r, l = before ++ [c] ∧ start.run 0 before = .ok r ∧
      r.step before.length c = .ok s := by
  rcases l.eq_nil_or_concat with rfl | ⟨before, c, rfl⟩
  · exact Or.inl ⟨rfl, (Except.ok.inj h).symm⟩
  · rw [List.concat_eq_append] at h ⊢
    obtain ⟨r, hrun, hlast⟩ := (run_append_eq_ok_iff _ _).mp h
    obtain ⟨t, hstep, hnil⟩ := (run_cons_eq_ok_iff _ _).mp hlast
    obtain rfl := Except.ok.inj hnil
    rw [Nat.zero_add] at hstep
    exact Or.inr ⟨before, c, r, rfl, hrun, hstep⟩

theorem expectsOperand_of_run (h : start.run 0 l = .ok s) :
    s.expectsOperand = l.getLast?.all awaitsOperand := by
  obtain ⟨rfl, rfl⟩ | ⟨before, c, r, rfl, -, hstep⟩ := eq_nil_or_exists_step h
  · rfl
  · rw [List.getLast?_concat, Option.all_some]
    exact expectsOperand_of_step hstep

theorem depth_of_step (h : s.step position c = .ok t) :
    s.depth + [c].count '(' = t.depth + [c].count ')' := by
  cases step_eq_ok_iff.mp h with
  | digit hc => simp [ne_open_of_isDigit hc, ne_close_of_isDigit hc]
  | operator o => simp [symbol_ne_open, symbol_ne_close]
  | opening | closing => simp

theorem depth_of_run (h : s.run position l = .ok t) :
    s.depth + l.count '(' = t.depth + l.count ')' := by
  induction l generalizing s position with
  | nil =>
    obtain rfl := Except.ok.inj h
    rfl
  | cons c l ih =>
    obtain ⟨r, hstep, hrun⟩ := (run_cons_eq_ok_iff _ _).mp h
    have hfirst := depth_of_step hstep
    have hrest := ih hrun
    rw [← List.singleton_append, List.count_append, List.count_append]
    omega

theorem count_open_of_run (h : start.run 0 l = .ok s) :
    l.count '(' = s.depth + l.count ')' := by
  have hdepth := depth_of_run h
  rwa [start, Nat.zero_add] at hdepth

end States

section Faults

theorem position?_of_step (h : s.step position c = .error fault) :
    fault.position? = some position := by
  unfold step at h
  grind [Fault.position?]

/-- The first refused symbol decides the fault, whatever comes after it. -/
theorem run_eq_error_iff : s.run position l = .error fault ↔
    ∃ before c after r, l = before ++ c :: after ∧ s.run position before = .ok r ∧
      r.step (position + before.length) c = .error fault := by
  constructor
  · intro h
    induction l generalizing s position with
    | nil => cases h
    | cons c l ih =>
      rw [run_cons] at h
      cases hstep : s.step position c with
      | error first =>
        rw [hstep] at h
        obtain rfl := Except.error.inj h
        exact ⟨[], c, l, s, rfl, rfl, hstep⟩
      | ok r =>
        rw [hstep] at h
        obtain ⟨before, d, after, q, rfl, hrun, hfault⟩ := ih h
        refine ⟨c :: before, d, after, q, rfl, ?_, ?_⟩
        · exact (run_cons_eq_ok_iff _ _).mpr ⟨r, hstep, hrun⟩
        · rwa [List.length_cons, Nat.add_comm before.length, ← Nat.add_assoc]
  · intro h
    obtain ⟨before, c, after, r, rfl, hrun, hfault⟩ := h
    rw [run_append, hrun]
    simp [bind, Except.bind, run_cons, hfault]

theorem position?_of_finish (h : s.finish l = .error fault) : fault.position? = none := by
  unfold finish at h
  split_ifs at h
  · obtain rfl := Except.error.inj h
    rfl
  · obtain rfl := Except.error.inj h
    rfl

end Faults

end Checker

section Validation

variable {symbols : List Char} {fault : Fault}

theorem validate_eq_error_iff : validate symbols = .error fault ↔
    Checker.start.run 0 symbols = .error fault ∨
      ∃ s, Checker.start.run 0 symbols = .ok s ∧ s.finish symbols = .error fault := by
  unfold validate
  cases Checker.start.run 0 symbols <;> simp [bind, Except.bind]

theorem exists_refused_of_validate (h : validate symbols = .error fault) {i : Nat}
    (hi : fault.position? = some i) :
    ∃ before c after s, symbols = before ++ c :: after ∧ before.length = i ∧
      Checker.start.run 0 before = .ok s ∧ s.step i c = .error fault := by
  rcases validate_eq_error_iff.mp h with hrun | ⟨s, -, hfinish⟩
  · obtain ⟨before, c, after, s, hsymbols, hbefore, hstep⟩ := Checker.run_eq_error_iff.mp hrun
    rw [Nat.zero_add] at hstep
    have hposition := Checker.position?_of_step hstep
    rw [hi, Option.some.injEq] at hposition
    rw [← hposition] at hstep
    exact ⟨before, c, after, s, hsymbols, hposition.symm, hbefore, hstep⟩
  · rw [Checker.position?_of_finish hfinish] at hi
    cases hi

theorem exists_finished_of_validate (h : validate symbols = .error fault)
    (hnone : fault.position? = none) :
    ∃ s, Checker.start.run 0 symbols = .ok s ∧ s.finish symbols = .error fault := by
  rcases validate_eq_error_iff.mp h with hrun | hfinish
  · obtain ⟨before, c, after, s, -, -, hstep⟩ := Checker.run_eq_error_iff.mp hrun
    rw [Checker.position?_of_step hstep] at hnone
    cases hnone
  · exact hfinish

/-- What passes is accepted with its completion. -/
theorem validate_append_completion {s : Checker} (h : Checker.start.run 0 symbols = .ok s) :
    validate (symbols ++ s.completion) = .ok () := by
  refine validate_eq_ok_iff.mpr ⟨⟨false, 0⟩, ?_, rfl⟩
  exact (Checker.run_append_eq_ok_iff _ _).mpr ⟨s, h, s.run_completion _⟩

theorem debt_le_of_validate {s : Checker} (h : Checker.start.run 0 symbols = .ok s)
    (hne : symbols ≠ []) {rest : List Char} (hrest : validate (symbols ++ rest) = .ok ()) :
    s.debt ≤ rest.length := by
  obtain ⟨t, hrun, hfinish⟩ := validate_eq_ok_iff.mp hrest
  obtain ⟨hdepth, hexpects⟩ := t.finish_eq_ok_iff.mp hfinish
  obtain ⟨r, hr, hrun⟩ := (Checker.run_append_eq_ok_iff _ _).mp hrun
  rw [h] at hr
  obtain rfl := Except.ok.inj hr
  have ht : t.expectsOperand = false := by simpa [hne] using hexpects
  have hdebt := Checker.debt_le_of_run hrun
  have hzero : t.debt = 0 := by simp [Checker.debt, hdepth, ht]
  omega

theorem validate_eq_error_of_take (h : validate symbols = .error fault) {i : Nat}
    (hi : fault.position? = some i) {other : List Char}
    (hother : symbols.take (i + 1) <+: other) : validate other = .error fault := by
  obtain ⟨before, c, after, s, rfl, rfl, hrun, hstep⟩ := exists_refused_of_validate h hi
  obtain ⟨rest, rfl⟩ := hother
  have htake : (before ++ c :: after).take (before.length + 1) = before ++ [c] := by
    rw [List.take_length_add_append, List.take_succ_cons, List.take_zero]
  rw [htake]
  refine validate_eq_error_iff.mpr (Or.inl (Checker.run_eq_error_iff.mpr ?_))
  exact ⟨before, c, rest, s, by simp, hrun, by rwa [Nat.zero_add]⟩

theorem ne_nil_of_finish {s : Checker} (hrun : Checker.start.run 0 symbols = .ok s)
    (hfinish : s.finish symbols = .error fault) : symbols ≠ [] := by
  rintro rfl
  obtain rfl := Except.ok.inj hrun
  cases hfinish

/-- The number of symbols that are missing shows from the parentheses and the last symbol. -/
theorem debt_eq {s : Checker} (h : Checker.start.run 0 symbols = .ok s) (hne : symbols ≠ []) :
    s.debt = if symbols.getLast?.any awaitsOperand then s.depth + 1 else s.depth := by
  have hexpects := Checker.expectsOperand_of_run h
  rw [List.getLast?_eq_some_getLast hne] at hexpects ⊢
  rw [Option.all_some] at hexpects
  rw [Option.any_some, ← hexpects, Checker.debt]
  split <;> rfl

theorem isLeast_debt {s : Checker} (h : Checker.start.run 0 symbols = .ok s)
    (hne : symbols ≠ []) (hdebt : s.debt ≠ 0) : IsLeast
      {n | ∃ rest, rest ≠ [] ∧ validate (symbols ++ rest) = .ok () ∧ rest.length = n} s.debt := by
  constructor
  · refine ⟨s.completion, ?_, validate_append_completion h, s.length_completion⟩
    rw [← List.length_pos_iff, s.length_completion]
    exact Nat.pos_of_ne_zero hdebt
  · intro n hn
    obtain ⟨rest, -, hrest, rfl⟩ := hn
    exact debt_le_of_validate h hne hrest

/-- A fault that shows at the end says how many parentheses are open. -/
theorem fault_of_finish {s : Checker} (hfinish : s.finish symbols = .error fault) :
    (fault = .unclosedParentheses s.depth ∧ 0 < s.depth ∨ fault = .missingOperand ∧ s.depth = 0) ∧
      s.debt ≠ 0 := by
  unfold Checker.finish at hfinish
  split_ifs at hfinish with hdepth hexpects
  · obtain rfl := Except.error.inj hfinish
    refine ⟨Or.inl ⟨rfl, hdepth⟩, ?_⟩
    rw [Checker.debt]
    omega
  · obtain rfl := Except.error.inj hfinish
    have hs : s.expectsOperand = true := (Bool.and_eq_true_iff.mp hexpects).1
    refine ⟨Or.inr ⟨rfl, Nat.eq_zero_of_not_pos hdepth⟩, ?_⟩
    rw [Checker.debt, hs, if_pos rfl]
    exact Nat.succ_ne_zero _

end Validation

/-- A fault with a position is reported as early as possible: up to there the sequence can become an
expression, and from there on it cannot, nor can the fault change. A fault without one leaves a
sequence that some further symbols complete, and says how many parentheses they have to close. -/
theorem validate_error_earliest (symbols : List Char) (fault : Fault)
    (h : validate symbols = .error fault) :
    (∀ i, fault.position? = some i → i < symbols.length ∧
      (∃ rest, validate (symbols.take i ++ rest) = .ok ()) ∧
      (∀ rest, validate (symbols.take (i + 1) ++ rest) ≠ .ok ()) ∧
      ∀ other, symbols.take (i + 1) <+: other → validate other = .error fault) ∧
    (fault.position? = none → ∃ d, symbols.count '(' = symbols.count ')' + d ∧
      (fault = .unclosedParentheses d ∧ 0 < d ∨ fault = .missingOperand ∧ d = 0) ∧
      IsLeast {n | ∃ rest, rest ≠ [] ∧ validate (symbols ++ rest) = .ok () ∧ rest.length = n}
        (if symbols.getLast?.any awaitsOperand then d + 1 else d)) := by
  constructor
  · intro i hi
    refine ⟨?_, ?_, ?_, ?_⟩
    · obtain ⟨before, c, after, s, rfl, rfl, -, -⟩ := exists_refused_of_validate h hi
      simp
    · obtain ⟨before, c, after, s, rfl, rfl, hrun, -⟩ := exists_refused_of_validate h hi
      rw [List.take_left]
      exact ⟨s.completion, validate_append_completion hrun⟩
    · intro rest hrest
      rw [validate_eq_error_of_take h hi (List.prefix_append _ rest)] at hrest
      cases hrest
    · intro other hother
      exact validate_eq_error_of_take h hi hother
  · intro hnone
    obtain ⟨s, hrun, hfinish⟩ := exists_finished_of_validate h hnone
    have hne := ne_nil_of_finish hrun hfinish
    obtain ⟨hfault, hdebt⟩ := fault_of_finish hfinish
    have hcount := Checker.depth_of_run hrun
    have hleast := isLeast_debt hrun hne hdebt
    rw [debt_eq hrun hne] at hleast
    refine ⟨s.depth, ?_, hfault, hleast⟩
    rwa [Checker.start, Nat.zero_add, Nat.add_comm] at hcount

theorem validate_error_earliest_of_bare_operator_and_open_groups :
    (validate ['(', '1', '+', ')', '2'] = .error (.unexpectedCloseParenthesis 3) ∧
      (∃ rest, validate (['(', '1', '+'] ++ rest) = .ok ()) ∧
      ∀ rest, validate (['(', '1', '+', ')'] ++ rest) = .error (.unexpectedCloseParenthesis 3)) ∧
    validate ['1', '*', '(', '2', '-', '('] = .error (.unclosedParentheses 2) ∧
      IsLeast {n | ∃ rest, rest ≠ [] ∧
        validate (['1', '*', '(', '2', '-', '('] ++ rest) = .ok () ∧ rest.length = n} 3 := by
  obtain ⟨hposition, -⟩ :=
    validate_error_earliest ['(', '1', '+', ')', '2'] (.unexpectedCloseParenthesis 3) rfl
  obtain ⟨-, hrest, -, hother⟩ := hposition 3 rfl
  obtain ⟨-, hend⟩ :=
    validate_error_earliest ['1', '*', '(', '2', '-', '('] (.unclosedParentheses 2) rfl
  obtain ⟨d, hd, -, hleast⟩ := hend rfl
  obtain rfl : d = 2 := by simpa using hd.symm
  exact ⟨⟨rfl, hrest, fun rest => hother _ (List.prefix_append _ rest)⟩, rfl, hleast⟩

end ShuntingYard
