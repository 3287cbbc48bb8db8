import ShuntingYard.Conversion
import ShuntingYard.Renaming
import ShuntingYard.Proofs.Steps
import Mathlib.Data.List.TakeWhile

/-!
# Renamed runs

Neither machine looks at a symbol beyond its class and, for an operator, its precedence. A renaming
that keeps these may therefore be done before a run or after it: the renamed run goes through the
renamed states, whatever waits at first, and ends with the renamed result. The checker does not look
at precedence either, and where it finds a fault, the renamed sequence has the renamed fault.
-/
namespace ShuntingYard

variable {f : Char → Char}

namespace KeepsClass

theorem eq_open_iff (h : KeepsClass f) (c : Char) : f c = '(' ↔ c = '(' := by
  constructor
  · intro hopen
    induction c using symbol_cases with
    | foreign c hc => exact absurd hopen (not_symbol (h.foreign hc)).2.2.1
    | digit c hc => exact absurd hopen (ne_open_of_isDigit (h.isDigit hc))
    | operator o =>
      obtain ⟨p, hp⟩ := h.operator o
      rw [hp] at hopen
      exact absurd hopen (symbol_ne_open p)
    | opening => rfl
    | closing =>
      rw [h.closeParenthesis] at hopen
      exact absurd hopen (by decide)
  · rintro rfl
    exact h.openParenthesis

end KeepsClass

section Operators

theorem KeepsPrecedence.exists_symbol (h : KeepsPrecedence f) (o : Operator) :
    ∃ p : Operator, f o.symbol = p.symbol ∧ p.precedence = o.precedence := by
  obtain ⟨p, hp⟩ := h.operator o
  exact ⟨p, hp, h.precedence hp⟩

/-- A renaming keeps precedence if it keeps each of the classes and both levels of operators. -/
theorem keepsPrecedence_iff : KeepsPrecedence f ↔
    (∀ c, c.isDigit = true → (f c).isDigit = true) ∧ (∀ c ∈ ['+', '-'], f c ∈ ['+', '-']) ∧
      (∀ c ∈ ['*', '/'], f c ∈ ['*', '/']) ∧ f '(' = '(' ∧ f ')' = ')' ∧
      ∀ c, isSymbol c = false → isSymbol (f c) = false := by
  constructor
  · intro h
    refine ⟨fun c => h.isDigit, ?_, ?_, h.openParenthesis, h.closeParenthesis, fun c => h.foreign⟩
    · intro c hc
      obtain ⟨o, rfl, hone⟩ := Operator.mem_additive_iff.mp hc
      obtain ⟨p, hp, hprecedence⟩ := h.exists_symbol o
      exact Operator.mem_additive_iff.mpr ⟨p, hp, hprecedence.trans hone⟩
    · intro c hc
      obtain ⟨o, rfl, htwo⟩ := Operator.mem_multiplicative_iff.mp hc
      obtain ⟨p, hp, hprecedence⟩ := h.exists_symbol o
      exact Operator.mem_multiplicative_iff.mpr ⟨p, hp, hprecedence.trans htwo⟩
  · rintro ⟨hdigit, hadditive, hmultiplicative, hopen, hclose, hforeign⟩
    have hoperator (o : Operator) :
        ∃ p : Operator, f o.symbol = p.symbol ∧ p.precedence = o.precedence := by
      cases o with
      | add => exact Operator.mem_additive_iff.mp (hadditive '+' (by simp))
      | subtract => exact Operator.mem_additive_iff.mp (hadditive '-' (by simp))
      | multiply => exact Operator.mem_multiplicative_iff.mp (hmultiplicative '*' (by simp))
      | divide => exact Operator.mem_multiplicative_iff.mp (hmultiplicative '/' (by simp))
    refine ⟨⟨fun {c} => hdigit c, fun o => ?_, hopen, hclose, fun {c} => hforeign c⟩, ?_⟩
    · obtain ⟨p, hp, -⟩ := hoperator o
      exact ⟨p, hp⟩
    · intro o p hop
      obtain ⟨q, hq, hprecedence⟩ := hoperator o
      rwa [← Operator.symbol_inj.mp (hq.symm.trans hop)]

end Operators

namespace Yard

variable {c : Char}

theorem yieldsTo_map (h : KeepsPrecedence f) {o p : Operator} (hop : f o.symbol = p.symbol)
    (c : Char) : yieldsTo p (f c) = yieldsTo o c := by
  have hnone {d : Char} (hd : Operator.ofSymbol? d = none) (q : Operator) :
      yieldsTo q d = false := by
    rw [yieldsTo, hd, Option.any_none]
  induction c using symbol_cases with
  | foreign c hc =>
    rw [hnone (not_symbol hc).2.1, hnone (not_symbol (h.foreign hc)).2.1]
  | digit c hc =>
    rw [hnone (ofSymbol?_eq_none_of_isDigit hc),
      hnone (ofSymbol?_eq_none_of_isDigit (h.isDigit hc))]
  | operator q =>
    obtain ⟨r, hqr⟩ := h.operator q
    rw [hqr, yieldsTo_symbol, yieldsTo_symbol, h.precedence hop, h.precedence hqr]
  | opening => rw [h.openParenthesis, yieldsTo_open, yieldsTo_open]
  | closing => rw [h.closeParenthesis, hnone ofSymbol?_close, hnone ofSymbol?_close]

theorem step_map (h : KeepsPrecedence f) (y : Yard) (c : Char) :
    (y.map f).step (f c) = (y.step c).map f := by
  induction c using symbol_cases with
  | foreign c hc => rw [step_foreign _ hc, step_foreign _ (h.foreign hc)]
  | digit c hc =>
    rw [step_digit _ hc, step_digit _ (h.isDigit hc)]
    simp [map, Stack.map, Stack.push]
  | operator o =>
    obtain ⟨p, hop⟩ := h.operator o
    have hyields : yieldsTo p ∘ f = yieldsTo o := funext fun c => yieldsTo_map h hop c
    rw [hop, step_operator, step_operator]
    simp [map, Stack.map, List.takeWhile_map, List.dropWhile_map, hyields, hop]
  | opening =>
    rw [h.openParenthesis, step_open, step_open]
    simp [map, Stack.map, Stack.push, h.openParenthesis]
  | closing =>
    have hopen : (· != '(') ∘ f = (· != '(') := by
      funext c
      rw [Bool.eq_iff_iff, Function.comp_apply, bne_iff_ne, bne_iff_ne, ne_eq, ne_eq,
        h.eq_open_iff]
    rw [h.closeParenthesis, step_close, step_close]
    simp only [map, Stack.map, List.takeWhile_map, List.dropWhile_map, hopen, List.map_append,
      List.map_reverse, List.map_tail]

theorem feed_map (h : KeepsPrecedence f) (y : Yard) (l : List Char) :
    (y.map f).feed (l.map f) = (y.feed l).map f := by
  induction l generalizing y with
  | nil => rfl
  | cons c l ih => rw [List.map_cons, feed_cons, feed_cons, step_map h, ih]

end Yard

theorem toPostfix_map (h : KeepsPrecedence f) (l : List Char) :
    toPostfix (l.map f) = (toPostfix l).map f := by
  rw [toPostfix, toPostfix, ← Yard.finish_map, ← Yard.feed_map h, Yard.map_empty]

namespace Checker

variable {s t : Checker} {position : Nat} {fault : Fault}

theorem step_map (h : KeepsClass f) (s : Checker) (position : Nat) (c : Char) :
    s.step position (f c) = (s.step position c).mapError (Fault.map f) := by
  obtain ⟨expects, depth⟩ := s
  induction c using symbol_cases with
  | foreign c hc =>
    rw [step_foreign _ _ hc, step_foreign _ _ (h.foreign hc)]
    rfl
  | digit c hc =>
    rw [step_digit _ _ hc, step_digit _ _ (h.isDigit hc)]
    cases expects <;> rfl
  | operator o =>
    obtain ⟨p, hop⟩ := h.operator o
    rw [hop, step_operator, step_operator, ← hop]
    cases expects <;> rfl
  | opening =>
    rw [h.openParenthesis, step_open]
    cases expects <;> rfl
  | closing =>
    rw [h.closeParenthesis, step_close]
    cases depth <;> cases expects <;> rfl

theorem run_map (h : KeepsClass f) (s : Checker) (position : Nat) (l : List Char) :
    s.run position (l.map f) = (s.run position l).mapError (Fault.map f) := by
  induction l generalizing s position with
  | nil => rfl
  | cons c l ih =>
    rw [List.map_cons, run_cons, run_cons, step_map h]
    cases s.step position c with
    | error fault => rfl
    | ok t => exact ih t (position + 1)

theorem finish_map (f : Char → Char) (s : Checker) (l : List Char) :
    s.finish (l.map f) = (s.finish l).mapError (Fault.map f) := by
  unfold finish
  rw [List.isEmpty_map]
  split
  · rfl
  · split <;> rfl

end Checker

theorem validate_map (h : KeepsClass f) (l : List Char) :
    validate (l.map f) = (validate l).mapError (Fault.map f) := by
  unfold validate
  rw [Checker.run_map h]
  cases Checker.start.run 0 l with
  | error fault => rfl
  | ok s => exact s.finish_map f l

/-- A renaming that keeps precedence may be done before a run from any yard or after it, and so
before a conversion or after it. One that keeps the classes changes neither whether a sequence is
accepted nor, apart from the symbol that is shown, which fault it has. -/
theorem runs_respect_renaming :
    (∀ f, KeepsPrecedence f →
      (∀ (y : Yard) (l : List Char), (y.map f).feed (l.map f) = (y.feed l).map f) ∧
        ∀ l, toPostfix (l.map f) = (toPostfix l).map f) ∧
    ∀ f, KeepsClass f → ∀ l : List Char,
      (validate (l.map f) = .ok () ↔ validate l = .ok ()) ∧
        ∀ fault, validate l = .error fault → validate (l.map f) = .error (fault.map f) := by
  refine ⟨fun f h => ⟨Yard.feed_map h, toPostfix_map h⟩, fun f h l => ?_⟩
  rw [validate_map h]
  constructor
  · cases validate l with
    | ok _ => exact Iff.rfl
    | error fault => constructor <;> intro hok <;> cases hok
  · intro fault hfault
    rw [hfault]
    rfl

/-- Both renamings merge all digits; one merges the two operators of the lower level as well, the
other raises an operator to the higher level. -/
theorem runs_respect_renaming_of_merges :
    let onto (o p : Operator) : Char → Char := fun c =>
      if c.isDigit then '7' else if c = o.symbol then p.symbol else c
    let symbols := ['1', '+', '2', '*', '(', '3', '-', 'x']
    (KeepsPrecedence (onto .add .subtract) ∧ toPostfix (symbols.map (onto .add .subtract)) =
        (toPostfix symbols).map (onto .add .subtract)) ∧
    (KeepsClass (onto .subtract .multiply) ∧
      validate ['1', '-', '2', '3'] = .error (.unexpectedOperand '3' 3) ∧
      validate (['1', '-', '2', '3'].map (onto .subtract .multiply)) =
        .error (.unexpectedOperand '7' 3)) := by
  intro onto symbols
  have hdigit (o p : Operator) (c : Char) (hc : c.isDigit = true) :
      (onto o p c).isDigit = true := by
    have hseven : onto o p c = '7' := if_pos hc
    rw [hseven]
    decide
  have hforeign (o p : Operator) (c : Char) (hc : isSymbol c = false) :
      isSymbol (onto o p c) = false := by
    have hsame : onto o p c = c := by simp [onto, (not_symbol hc).1, ne_symbol (not_symbol hc).2.1]
    rwa [hsame]
  have hmerge : KeepsPrecedence (onto .add .subtract) := by
    rw [keepsPrecedence_iff]
    refine ⟨hdigit _ _, ?_, ?_, by decide, by decide, hforeign _ _⟩
    · rw [List.forall_mem_cons, List.forall_mem_singleton]
      decide
    · rw [List.forall_mem_cons, List.forall_mem_singleton]
      decide
  have hraise : KeepsClass (onto .subtract .multiply) := by
    refine ⟨fun {c} => hdigit _ _ c, fun o => ?_, by decide, by decide, fun {c} => hforeign _ _ c⟩
    cases o with
    | add => exact ⟨.add, by decide⟩
    | subtract => exact ⟨.multiply, by decide⟩
    | multiply => exact ⟨.multiply, by decide⟩
    | divide => exact ⟨.divide, by decide⟩
  have hfault : validate ['1', '-', '2', '3'] = .error (.unexpectedOperand '3' 3) := by rfl
  obtain ⟨hruns, hfaults⟩ := runs_respect_renaming
  exact ⟨⟨hmerge, (hruns _ hmerge).2 symbols⟩, hraise, hfault, (hfaults _ hraise _).2 _ hfault⟩

end ShuntingYard
