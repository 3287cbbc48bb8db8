import ShuntingYard.Proofs.Parsing
import ShuntingYard.Proofs.Steps

/-!
# What the checker accepts

The checker keeps in step with the parser: it takes the same symbols and knows whether an operand is
due and how many groups are open. It therefore accepts the expressions and nothing else. That an
expression is accepted at any depth is an induction over its derivation; that an accepted sequence
is an expression follows from the tree that the parser holds in the end.
-/
namespace ShuntingYard

section Results

variable {ε α β : Type}

theorem toOption_bind_except (x : Except ε α) (f : α → Except ε β) :
    (x >>= f).toOption = x.toOption.bind fun a => (f a).toOption := by
  cases x <;> rfl

theorem toOption_eq_some_iff {x : Except ε α} {a : α} : x.toOption = some a ↔ x = .ok a := by
  cases x <;> simp [Except.toOption]

end Results

namespace Parse

/-- What the checker knows of a parse. -/
def checker : Parse → Checker
  | awaiting outer _ => ⟨true, outer.length⟩
  | holding outer _ => ⟨false, outer.length⟩

theorem toOption_step_checker (p : Parse) (position : Nat) (c : Char) :
    (p.checker.step position c).toOption = (p.step? c).map checker := by
  induction c using symbol_cases with
  | foreign c h =>
    obtain ⟨hdigit, hoperator, hopen, hclose⟩ := not_symbol h
    cases p with
    | awaiting => simp [Checker.step_foreign _ _ h, step?, hdigit, hopen, Except.toOption]
    | holding outer e =>
      have hstep := step?_eq_none outer e (Operator.notMem_signs hoperator) hclose
      simp [Checker.step_foreign _ _ h, hstep, Except.toOption]
  | digit c h =>
    cases p with
    | awaiting => simp [Checker.step_digit _ _ h, checker, step?, h, Except.toOption]
    | holding outer e =>
      have hsign := Operator.notMem_signs (ofSymbol?_eq_none_of_isDigit h)
      have hstep := step?_eq_none outer e hsign (ne_close_of_isDigit h)
      simp [Checker.step_digit _ _ h, checker, hstep, Except.toOption]
  | operator o =>
    cases p with
    | awaiting => simp [Checker.step_operator, checker, step?, symbol_ne_open, Except.toOption]
    | holding outer e =>
      have hstep := step?_sign outer e ⟨o.symbol, o.symbol_mem⟩
      simp [Checker.step_operator, checker, hstep, Except.toOption]
  | opening => cases p <;> simp [Checker.step_open, checker, step?, Except.toOption]
  | closing =>
    cases p with
    | awaiting outer before =>
      rw [Checker.step_close]
      split <;> simp [checker, step?, Except.toOption]
    | holding outer e =>
      cases outer <;> simp [Checker.step_close, checker, step?, close?, Except.toOption]

theorem toOption_run_checker (p : Parse) (position : Nat) (l : List Char) :
    (p.checker.run position l).toOption = (p.run? l).map checker := by
  induction l generalizing p position with
  | nil => rfl
  | cons c l ih =>
    rw [Checker.run_cons, toOption_bind_except, toOption_step_checker, run?_cons]
    cases p.step? c with
    | none => rfl
    | some q => exact ih q (position + 1)

theorem run_checker_eq_ok_iff {p : Parse} {position : Nat} {l : List Char} {s : Checker} :
    p.checker.run position l = .ok s ↔ ∃ q, p.run? l = some q ∧ q.checker = s := by
  rw [← toOption_eq_some_iff, toOption_run_checker, Option.map_eq_some_iff]

theorem isSome_result?_iff (p : Parse) :
    p.result?.isSome ↔ p.checker.depth = 0 ∧ p.checker.expectsOperand = false := by
  match p with
  | awaiting outer before => simp [result?, checker]
  | holding [] e => simp [result?, checker]
  | holding (before :: outer) e => simp [result?, checker]

end Parse

theorem validate_eq_ok_iff_run? {l : List Char} : validate l = .ok () ↔
    ∃ p, Parse.start.run? l = some p ∧ p.checker.finish l = .ok () := by
  have hstart : Checker.start = Parse.start.checker := rfl
  rw [validate_eq_ok_iff, hstart]
  simp only [Parse.run_checker_eq_ok_iff]
  constructor
  · intro h
    obtain ⟨s, ⟨p, hrun, rfl⟩, hfinish⟩ := h
    exact ⟨p, hrun, hfinish⟩
  · intro h
    obtain ⟨p, hrun, hfinish⟩ := h
    exact ⟨p.checker, ⟨p, hrun, rfl⟩, hfinish⟩

theorem validate_nil : validate [] = .ok () := rfl

theorem isSome_parse?_iff {l : List Char} : (parse? l).isSome ↔
    ∃ p, Parse.start.run? l = some p ∧ p.result?.isSome := by
  unfold parse?
  rw [Option.isSome_bind, Option.any_eq_true]

theorem validate_eq_ok_iff_parse? {l : List Char} :
    validate l = .ok () ↔ l = [] ∨ (parse? l).isSome := by
  by_cases hl : l = []
  · rw [hl]
    exact iff_of_true validate_nil (Or.inl rfl)
  · simp only [validate_eq_ok_iff_run?, isSome_parse?_iff, Checker.finish_eq_ok_iff,
      Parse.isSome_result?_iff, hl, imp_false, Bool.not_eq_true, false_or]

/-- An expression is one operand for the checker, whatever is open around it. -/
theorem Derivable.run_checker {l : List Char} (h : Derivable l) (depth position : Nat) :
    (Checker.mk true depth).run position l = .ok ⟨false, depth⟩ := by
  induction h generalizing depth position with
  | digit h => simp [Checker.run, Checker.step_digit _ _ h]
  | group inner ih =>
    rw [Checker.run_append, Checker.run_cons, Checker.step_open]
    simp [bind, Except.bind, ih, Checker.run, Checker.step_close]
  | binary left operator right ihl ihr =>
    obtain ⟨o, rfl⟩ := Operator.mem_signs_iff.mp operator
    rw [Checker.run_append, ihl]
    simp [bind, Except.bind, Checker.run_cons, Checker.step_operator, ihr]

theorem Derivable.validate_eq_ok {l : List Char} (h : Derivable l) : validate l = .ok () :=
  validate_eq_ok_iff.mpr ⟨⟨false, 0⟩, h.run_checker 0 0, by simp [Checker.finish]⟩

theorem validate_eq_ok_iff_derivable {l : List Char} :
    validate l = .ok () ↔ l = [] ∨ Derivable l := by
  constructor
  · intro h
    rcases validate_eq_ok_iff_parse?.mp h with hnil | hparse
    · exact Or.inl hnil
    · obtain ⟨e, he⟩ := Option.isSome_iff_exists.mp hparse
      have hyield : e.yield = l := parse?_eq_some_iff.mp he
      rw [← hyield]
      exact Or.inr e.derivable
  · intro h
    rcases h with rfl | hderivable
    · exact validate_nil
    · exact hderivable.validate_eq_ok

theorem validate_eq_ok_iff_derivable_of_every_operator :
    (validate "(1+2)*3-8/4".toList = .ok () ∧ Derivable "(1+2)*3-8/4".toList) ∧
      validate "1)+(2".toList = .error (.unmatchedCloseParenthesis 1) ∧
      ¬ Derivable "1)+(2".toList := by
  have haccepted : validate "(1+2)*3-8/4".toList = .ok () := rfl
  have hrefused : validate "1)+(2".toList = .error (.unmatchedCloseParenthesis 1) := rfl
  refine ⟨⟨haccepted, ?_⟩, hrefused, ?_⟩
  · exact (validate_eq_ok_iff_derivable.mp haccepted).resolve_left (by decide)
  · intro h
    rw [validate_eq_ok_iff_derivable.mpr (Or.inr h)] at hrefused
    cases hrefused

end ShuntingYard
