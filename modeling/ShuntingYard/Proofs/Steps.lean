import ShuntingYard.Checker
import ShuntingYard.Proofs.Spelling
import ShuntingYard.Yard

/-!
# Single symbols

What one symbol does to a yard and to a checker, with one equation for each class. Later proofs
split on the class of a symbol and cite these equations; they do not open the machines again. A
yard's items are listed from the top of the stack, so that its output reads backwards.
-/
namespace ShuntingYard

namespace SymbolClass

variable {c : Char}

theorem of?_eq_operand_iff : of? c = some .operand ↔ c.isDigit = true := of?_eq_some_iff

theorem of?_eq_operator_iff {o : Operator} : of? c = some (.operator o) ↔ c = o.symbol := by
  rw [of?_eq_some_iff, includes, beq_iff_eq]

@[simp] theorem of?_symbol (o : Operator) : of? o.symbol = some (.operator o) :=
  of?_eq_operator_iff.mpr rfl

@[simp] theorem of?_open : of? '(' = some .openParenthesis := by decide

@[simp] theorem of?_close : of? ')' = some .closeParenthesis := by decide

theorem of?_eq_none_iff : of? c = none ↔ isSymbol c = false := by simp [← isSome_of?]

end SymbolClass

section Classes

variable {c : Char}

/-- Every character is foreign or belongs to exactly one class; the cases are those of a step. -/
@[elab_as_elim]
theorem symbol_cases {motive : Char → Prop} (c : Char)
    (foreign : ∀ c, isSymbol c = false → motive c)
    (digit : ∀ c, c.isDigit = true → motive c)
    (operator : ∀ o : Operator, motive o.symbol)
    (opening : motive '(')
    (closing : motive ')') : motive c := by
  cases h : SymbolClass.of? c with
  | none => exact foreign c (SymbolClass.of?_eq_none_iff.mp h)
  | some k =>
    have hk := SymbolClass.of?_eq_some_iff.mp h
    cases k with
    | operand => exact digit c hk
    | operator o => exact (beq_iff_eq.mp hk) ▸ operator o
    | openParenthesis => exact (beq_iff_eq.mp hk) ▸ opening
    | closeParenthesis => exact (beq_iff_eq.mp hk) ▸ closing

theorem symbol_ne_open (o : Operator) : o.symbol ≠ '(' := by cases o <;> decide

theorem symbol_ne_close (o : Operator) : o.symbol ≠ ')' := by cases o <;> decide

theorem ne_open_of_isDigit (h : c.isDigit = true) : c ≠ '(' := by
  rintro rfl
  exact absurd h (by decide)

theorem ne_close_of_isDigit (h : c.isDigit = true) : c ≠ ')' := by
  rintro rfl
  exact absurd h (by decide)

theorem ofSymbol?_eq_none_of_isDigit (h : c.isDigit = true) : Operator.ofSymbol? c = none := by
  cases ho : Operator.ofSymbol? c with
  | none => rfl
  | some o =>
    obtain rfl := Operator.ofSymbol?_eq_some_iff.mp ho
    simp at h

theorem not_symbol (h : isSymbol c = false) :
    c.isDigit = false ∧ Operator.ofSymbol? c = none ∧ c ≠ '(' ∧ c ≠ ')' := by
  have hnone := SymbolClass.of?_eq_none_iff.mpr h
  refine ⟨?_, ?_, ?_, ?_⟩
  · cases hd : c.isDigit with
    | false => rfl
    | true => simp [SymbolClass.of?_eq_operand_iff.mpr hd] at hnone
  · cases ho : Operator.ofSymbol? c with
    | none => rfl
    | some o =>
      obtain rfl := Operator.ofSymbol?_eq_some_iff.mp ho
      simp at hnone
  · rintro rfl
    simp at hnone
  · rintro rfl
    simp at hnone

theorem ne_symbol (h : Operator.ofSymbol? c = none) (o : Operator) : c ≠ o.symbol := by
  intro hc
  rw [hc, Operator.ofSymbol?_symbol] at h
  cases h

@[simp] theorem ofSymbol?_open : Operator.ofSymbol? '(' = none := by decide

@[simp] theorem ofSymbol?_close : Operator.ofSymbol? ')' = none := by decide

end Classes

namespace Yard

variable (y : Yard)

@[simp] theorem items_output_empty : (∅ : Yard).output.items = [] := rfl

@[simp] theorem items_operators_empty : (∅ : Yard).operators.items = [] := rfl

theorem step_foreign {c : Char} (h : isSymbol c = false) : y.step c = y := by
  simp [step, SymbolClass.of?_eq_none_iff.mpr h]

theorem step_digit {c : Char} (h : c.isDigit = true) :
    y.step c = ⟨y.output.push c, y.operators⟩ := by
  simp [step, SymbolClass.of?_eq_operand_iff.mpr h]

theorem step_operator (o : Operator) :
    y.step o.symbol = ⟨⟨(y.operators.items.takeWhile (yieldsTo o)).reverse ++ y.output.items⟩,
      ⟨o.symbol :: y.operators.items.dropWhile (yieldsTo o)⟩⟩ := by
  simp [step, drain, Stack.drain, Stack.push]

theorem step_open : y.step '(' = ⟨y.output, y.operators.push '('⟩ := by simp [step]

theorem step_close :
    y.step ')' = ⟨⟨(y.operators.items.takeWhile (· != '(')).reverse ++ y.output.items⟩,
      ⟨(y.operators.items.dropWhile (· != '(')).tail⟩⟩ := by
  simp [step, drain, Stack.drain, Stack.pop]

theorem yieldsTo_symbol (incoming stacked : Operator) :
    yieldsTo incoming stacked.symbol = decide (incoming.precedence ≤ stacked.precedence) := by
  rw [yieldsTo, Operator.ofSymbol?_symbol, Option.any_some, Bool.eq_iff_iff, decide_eq_true_iff]
  exact Operator.yieldsTo_eq_true_iff

@[simp] theorem yieldsTo_open (incoming : Operator) : yieldsTo incoming '(' = false := by
  cases incoming <;> decide

/-- Foreign symbols may be left out beforehand. -/
theorem feed_filter_isSymbol (l : List Char) : y.feed (l.filter isSymbol) = y.feed l := by
  induction l generalizing y with
  | nil => rfl
  | cons c l ih =>
    cases h : isSymbol c with
    | false => rw [List.filter_cons_of_neg (by simp [h]), feed_cons, y.step_foreign h, ih]
    | true => rw [List.filter_cons_of_pos h, feed_cons, feed_cons, ih]

end Yard

namespace Checker

variable (s : Checker) (position : Nat)

theorem step_foreign {c : Char} (h : isSymbol c = false) :
    s.step position c = .error (.unrecognizedSymbol c position) := by
  simp [step, SymbolClass.of?_eq_none_iff.mpr h]

theorem step_digit {c : Char} (h : c.isDigit = true) :
    s.step position c = if s.expectsOperand then .ok ⟨false, s.depth⟩
      else .error (.unexpectedOperand c position) := by
  simp [step, SymbolClass.of?_eq_operand_iff.mpr h]

theorem step_operator (o : Operator) :
    s.step position o.symbol =
      if s.expectsOperand then .error (.unexpectedOperator o.symbol position)
      else .ok ⟨true, s.depth⟩ := by
  simp [step]

theorem step_open :
    s.step position '(' = if s.expectsOperand then .ok ⟨s.expectsOperand, s.depth + 1⟩
      else .error (.unexpectedOpenParenthesis position) := by
  simp [step]

theorem step_close :
    s.step position ')' = if s.depth = 0 then .error (.unmatchedCloseParenthesis position)
      else if s.expectsOperand then .error (.unexpectedCloseParenthesis position)
      else .ok ⟨s.expectsOperand, s.depth - 1⟩ := by
  simp [step]

/-- The symbols that a checker lets pass, with the checkers before and after them. -/
inductive Passes : Checker → Char → Checker → Prop
  | digit {c : Char} (h : c.isDigit = true) (depth : Nat) : Passes ⟨true, depth⟩ c ⟨false, depth⟩
  | operator (o : Operator) (depth : Nat) : Passes ⟨false, depth⟩ o.symbol ⟨true, depth⟩
  | opening (depth : Nat) : Passes ⟨true, depth⟩ '(' ⟨true, depth + 1⟩
  | closing (depth : Nat) : Passes ⟨false, depth + 1⟩ ')' ⟨false, depth⟩

variable {s position} in
theorem step_eq_ok_iff {c : Char} {t : Checker} : s.step position c = .ok t ↔ Passes s c t := by
  constructor
  · intro h
    obtain ⟨expects, depth⟩ := s
    induction c using symbol_cases with
    | foreign c hc =>
      rw [step_foreign _ _ hc] at h
      cases h
    | digit c hc =>
      cases expects with
      | false => simp [step_digit _ _ hc] at h
      | true =>
        obtain rfl : ⟨false, depth⟩ = t := by simpa [step_digit _ _ hc] using h
        exact .digit hc depth
    | operator o =>
      cases expects with
      | true => simp [step_operator] at h
      | false =>
        obtain rfl : ⟨true, depth⟩ = t := by simpa [step_operator] using h
        exact .operator o depth
    | opening =>
      cases expects with
      | false => simp [step_open] at h
      | true =>
        obtain rfl : ⟨true, depth + 1⟩ = t := by simpa [step_open] using h
        exact .opening depth
    | closing =>
      cases depth with
      | zero => simp [step_close] at h
      | succ depth =>
        cases expects with
        | true => simp [step_close] at h
        | false =>
          obtain rfl : ⟨false, depth⟩ = t := by simpa [step_close] using h
          exact .closing depth
  · intro h
    cases h with
    | digit hc depth => simp [step_digit _ _ hc]
    | operator o depth => simp [step_operator]
    | opening depth => simp [step_open]
    | closing depth => simp [step_close]

theorem run_cons (c : Char) (l : List Char) :
    s.run position (c :: l) = s.step position c >>= fun t => t.run (position + 1) l := by
  rw [run]
  cases s.step position c <;> rfl

theorem run_append (l l' : List Char) :
    s.run position (l ++ l') =
      s.run position l >>= fun t => t.run (position + l.length) l' := by
  induction l generalizing s position with
  | nil => rfl
  | cons c l ih =>
    rw [List.cons_append, run_cons, run_cons, bind_assoc]
    congr 1
    funext t
    rw [ih, List.length_cons, Nat.add_assoc, Nat.add_comm 1]

theorem run_cons_eq_ok_iff {c : Char} {l : List Char} {t : Checker} :
    s.run position (c :: l) = .ok t ↔
      ∃ r, s.step position c = .ok r ∧ r.run (position + 1) l = .ok t := by
  rw [run_cons]
  cases s.step position c <;> simp [bind, Except.bind]

theorem run_append_eq_ok_iff {l l' : List Char} {t : Checker} :
    s.run position (l ++ l') = .ok t ↔
      ∃ r, s.run position l = .ok r ∧ r.run (position + l.length) l' = .ok t := by
  rw [run_append]
  cases s.run position l <;> simp [bind, Except.bind]

theorem finish_eq_ok_iff {l : List Char} :
    s.finish l = .ok () ↔ s.depth = 0 ∧ (s.expectsOperand = true → l = []) := by
  unfold finish
  split
  · simp
    omega
  · split <;> simp_all

end Checker

theorem validate_eq_ok_iff {l : List Char} :
    validate l = .ok () ↔ ∃ s, Checker.start.run 0 l = .ok s ∧ s.finish l = .ok () := by
  unfold validate
  cases Checker.start.run 0 l with
  | error fault => simp [bind, Except.bind]
  | ok s => simp [bind, Except.bind]

end ShuntingYard
