import ShuntingYard.Proofs.Completion
import Mathlib.Data.List.Basic
import Mathlib.Data.List.Induction

/-!
# The first offence

The checker carries a flag and a counter from symbol to symbol. Both show from the symbols before:
the flag from the last one alone, since what passes either ends an operand or awaits one, and the
counter from the parentheses. The first symbol that is refused is therefore the first one that
offends against its neighbourhood, and if there is none, the counts and the last symbol tell what is
missing. An opening parenthesis at the end is missing its partner, so that the fault of a missing
operand is only met behind an operator.
-/
namespace ShuntingYard

/-- The rules that the symbol at a position can offend against, each with what is said of the
symbol. A closing parenthesis without a partner is not looked at further. -/
inductive Offends (l : List Char) (i : Nat) : String → Prop
  | foreign {c : Char} (h : l[i]? = some c) (hc : isSymbol c = false) :
      Offends l i ("Unrecognized symbol " ++ Text.quotedChar c)
  | operand {c d : Char} (h : l[i]? = some c) (hc : c.isDigit = true)
      (hi : 0 < i) (hd : l[i - 1]? = some d) (hends : d.isDigit = true ∨ d = ')') :
      Offends l i ("Unexpected operand " ++ Text.quotedChar c)
  | opening {d : Char} (h : l[i]? = some '(')
      (hi : 0 < i) (hd : l[i - 1]? = some d) (hends : d.isDigit = true ∨ d = ')') :
      Offends l i "Unexpected open parenthesis"
  | operator (o : Operator) (h : l[i]? = some o.symbol)
      (hbefore : i = 0 ∨ ∃ d, l[i - 1]? = some d ∧ ((∃ p : Operator, d = p.symbol) ∨ d = '(')) :
      Offends l i ("Unexpected operator " ++ Text.quotedChar o.symbol)
  | unmatched (h : l[i]? = some ')') (hcount : (l.take i).count '(' ≤ (l.take i).count ')') :
      Offends l i "Mismatched parenthesis"
  | closing {d : Char} (h : l[i]? = some ')') (hcount : (l.take i).count ')' < (l.take i).count '(')
      (hi : 0 < i) (hd : l[i - 1]? = some d) (hawaits : (∃ p : Operator, d = p.symbol) ∨ d = '(') :
      Offends l i "Unexpected close parenthesis"

section Neighbours

variable {c : Char} {l : List Char} {i : Nat}

theorem endsOperand_iff : endsOperand c = true ↔ c.isDigit = true ∨ c = ')' := by
  simp [endsOperand]

theorem awaitsOperand_iff : awaitsOperand c = true ↔ (∃ o : Operator, c = o.symbol) ∨ c = '(' := by
  simp [awaitsOperand, Option.isSome_iff_exists, Operator.ofSymbol?_eq_some_iff]

theorem getLast?_take_eq (hi : i < l.length) :
    (l.take i).getLast? = if i = 0 then none else l[i - 1]? := by
  have hbefore : i - 1 < l.length := by omega
  rw [List.getLast?_take, List.getElem?_eq_getElem hbefore, Option.some_or]

theorem any_getLast?_take {test : Char → Bool} (hi : i < l.length) :
    (l.take i).getLast?.any test = true ↔ 0 < i ∧ ∃ d, l[i - 1]? = some d ∧ test d = true := by
  rw [getLast?_take_eq hi]
  split
  · next h => simp [h]
  · next h => simp [Option.any_eq_true, Nat.pos_of_ne_zero h]

theorem all_getLast?_take {test : Char → Bool} (hi : i < l.length) :
    (l.take i).getLast?.all test = true ↔ i = 0 ∨ ∃ d, l[i - 1]? = some d ∧ test d = true := by
  have hbefore : i - 1 < l.length := by omega
  rw [getLast?_take_eq hi]
  split
  · next h => simp [h]
  · next h => simp [h, List.getElem?_eq_getElem hbefore]

end Neighbours

section Rules

variable (before : List Char) (position : Nat)

theorem offenceAfter?_foreign {c : Char} (h : isSymbol c = false) :
    offenceAfter? before c position = some (.unrecognizedSymbol c position) := by
  simp [offenceAfter?, SymbolClass.of?_eq_none_iff.mpr h]

theorem offenceAfter?_digit {c : Char} (h : c.isDigit = true) :
    offenceAfter? before c position =
      if before.getLast?.any endsOperand then some (.unexpectedOperand c position) else none := by
  simp [offenceAfter?, SymbolClass.of?_eq_operand_iff.mpr h]

theorem offenceAfter?_operator (o : Operator) :
    offenceAfter? before o.symbol position =
      if before.getLast?.all awaitsOperand then some (.unexpectedOperator o.symbol position)
      else none := by
  simp [offenceAfter?]

theorem offenceAfter?_open :
    offenceAfter? before '(' position =
      if before.getLast?.any endsOperand then some (.unexpectedOpenParenthesis position)
      else none := by
  simp [offenceAfter?]

theorem offenceAfter?_close :
    offenceAfter? before ')' position =
      if before.count '(' ≤ before.count ')' then some (.unmatchedCloseParenthesis position)
      else if before.getLast?.any awaitsOperand then some (.unexpectedCloseParenthesis position)
      else none := by
  simp [offenceAfter?]

end Rules

section Offences

variable {l : List Char} {i : Nat} {fault : Fault} {what : String}

theorem offence?_of_getElem? {c : Char} (h : l[i]? = some c) :
    offence? l i = offenceAfter? (l.take i) c i := by
  rw [offence?, h, Option.bind_some]

/-- Each rule is found to be broken, and the fault says so in the rule's words. -/
theorem Offends.exists_offence? (h : Offends l i what) : ∃ fault, offence? l i = some fault ∧
    fault.message = what ++ " at position " ++ Text.decimal i := by
  have hlength {c : Char} (hget : l[i]? = some c) : i < l.length :=
    (List.getElem?_eq_some_iff.mp hget).1
  cases h with
  | foreign h hc =>
    rw [offence?_of_getElem? h, offenceAfter?_foreign _ _ hc]
    exact ⟨_, rfl, rfl⟩
  | operand h hc hi hd hends =>
    have hany := (any_getLast?_take (hlength h)).mpr ⟨hi, _, hd, endsOperand_iff.mpr hends⟩
    rw [offence?_of_getElem? h, offenceAfter?_digit _ _ hc, if_pos hany]
    exact ⟨_, rfl, rfl⟩
  | opening h hi hd hends =>
    have hany := (any_getLast?_take (hlength h)).mpr ⟨hi, _, hd, endsOperand_iff.mpr hends⟩
    rw [offence?_of_getElem? h, offenceAfter?_open, if_pos hany]
    exact ⟨_, rfl, rfl⟩
  | operator o h hbefore =>
    simp only [← awaitsOperand_iff] at hbefore
    rw [offence?_of_getElem? h, offenceAfter?_operator,
      if_pos ((all_getLast?_take (hlength h)).mpr hbefore)]
    exact ⟨_, rfl, rfl⟩
  | unmatched h hcount =>
    rw [offence?_of_getElem? h, offenceAfter?_close, if_pos hcount]
    exact ⟨_, rfl, rfl⟩
  | closing h hcount hi hd hawaits =>
    have hany := (any_getLast?_take (hlength h)).mpr ⟨hi, _, hd, awaitsOperand_iff.mpr hawaits⟩
    rw [offence?_of_getElem? h, offenceAfter?_close, if_neg (Nat.not_le.mpr hcount), if_pos hany]
    exact ⟨_, rfl, rfl⟩

theorem exists_offends (h : offence? l i = some fault) : ∃ what, Offends l i what := by
  obtain ⟨c, hget, hoffence⟩ := Option.bind_eq_some_iff.mp h
  have hi : i < l.length := (List.getElem?_eq_some_iff.mp hget).1
  induction c using symbol_cases with
  | foreign c hc => exact ⟨_, .foreign hget hc⟩
  | digit c hc =>
    rw [offenceAfter?_digit _ _ hc, Option.ite_none_right_eq_some, any_getLast?_take hi] at hoffence
    obtain ⟨⟨hpos, d, hd, hends⟩, -⟩ := hoffence
    exact ⟨_, .operand hget hc hpos hd (endsOperand_iff.mp hends)⟩
  | operator o =>
    rw [offenceAfter?_operator, Option.ite_none_right_eq_some, all_getLast?_take hi] at hoffence
    obtain ⟨hbefore, -⟩ := hoffence
    simp only [awaitsOperand_iff] at hbefore
    exact ⟨_, .operator o hget hbefore⟩
  | opening =>
    rw [offenceAfter?_open, Option.ite_none_right_eq_some, any_getLast?_take hi] at hoffence
    obtain ⟨⟨hpos, d, hd, hends⟩, -⟩ := hoffence
    exact ⟨_, .opening hget hpos hd (endsOperand_iff.mp hends)⟩
  | closing =>
    rw [offenceAfter?_close] at hoffence
    by_cases hcount : (l.take i).count '(' ≤ (l.take i).count ')'
    · exact ⟨_, .unmatched hget hcount⟩
    · rw [if_neg hcount, Option.ite_none_right_eq_some, any_getLast?_take hi] at hoffence
      obtain ⟨⟨hpos, d, hd, hawaits⟩, -⟩ := hoffence
      exact ⟨_, .closing hget (Nat.not_le.mp hcount) hpos hd (awaitsOperand_iff.mp hawaits)⟩

theorem offence?_eq_none_iff : offence? l i = none ↔ ∀ what, ¬ Offends l i what := by
  constructor
  · intro h what hoffends
    obtain ⟨fault, hfault, -⟩ := hoffends.exists_offence?
    rw [h] at hfault
    cases hfault
  · intro h
    cases hoffence : offence? l i with
    | none => rfl
    | some fault =>
      obtain ⟨what, hoffends⟩ := exists_offends hoffence
      exact absurd hoffends (h what)

theorem offence?_append (l' : List Char) (hi : i < l.length) :
    offence? (l ++ l') i = offence? l i := by
  rw [offence?, offence?, List.getElem?_append_left hi,
    List.take_append_of_le_length (Nat.le_of_lt hi)]

theorem firstOffence?_concat (l : List Char) (c : Char) :
    firstOffence? (l ++ [c]) = (firstOffence? l).or (offenceAfter? l c l.length) := by
  have hlast : offence? (l ++ [c]) l.length = offenceAfter? l c l.length := by
    rw [offence?_of_getElem? List.getElem?_concat_length, List.take_left]
  have hbefore : (List.range l.length).findSome? (offence? (l ++ [c])) = firstOffence? l := by
    rw [firstOffence?, ← List.head?_filterMap, ← List.head?_filterMap]
    congr 1
    apply List.filterMap_congr
    intro i hi
    exact offence?_append [c] (List.mem_range.mp hi)
  rw [firstOffence?, List.length_append, List.length_singleton, List.range_succ,
    List.findSome?_append, hbefore, List.findSome?_singleton, hlast]

theorem firstOffence?_eq_some (h : offence? l i = some fault)
    (hbefore : ∀ j < i, offence? l j = none) : firstOffence? l = some fault := by
  obtain ⟨c, hget, -⟩ := Option.bind_eq_some_iff.mp h
  have hi : i < l.length := (List.getElem?_eq_some_iff.mp hget).1
  obtain ⟨k, hk⟩ := Nat.exists_eq_add_of_lt hi
  refine List.findSome?_eq_some_iff.mpr ⟨List.range i, i, (List.range k).map (i + 1 + ·), ?_, h, ?_⟩
  · rw [hk, Nat.add_right_comm, List.range_add, List.range_succ, List.append_assoc]
    rfl
  · intro j hj
    exact hbefore j (List.mem_range.mp hj)

theorem firstOffence?_eq_none_iff : firstOffence? l = none ↔ ∀ i what, ¬ Offends l i what := by
  rw [firstOffence?, List.findSome?_eq_none_iff]
  constructor
  · intro h i what hoffends
    obtain ⟨fault, hfault, -⟩ := hoffends.exists_offence?
    obtain ⟨c, hget, -⟩ := Option.bind_eq_some_iff.mp hfault
    have hi : i < l.length := (List.getElem?_eq_some_iff.mp hget).1
    rw [h i (List.mem_range.mpr hi)] at hfault
    cases hfault
  · intro h i _
    exact offence?_eq_none_iff.mpr (h i)

theorem eq_none_of_ok {ε α : Type} {x : Except ε α} {a : α} {o : Option ε}
    (h : ∀ {e}, x = .error e ↔ o = some e) (hx : x = .ok a) : o = none := by
  cases o with
  | none => rfl
  | some e =>
    rw [h.mpr rfl] at hx
    cases hx

end Offences

namespace Checker

variable {s t : Checker} {position : Nat} {c : Char} {l : List Char} {fault : Fault}

theorem endsOperand_of_step (h : s.step position c = .ok t) :
    endsOperand c = !t.expectsOperand := by
  cases step_eq_ok_iff.mp h with
  | digit hc => simp [endsOperand, hc]
  | operator o => simp [endsOperand, symbol_ne_close]
  | opening | closing => rfl

theorem any_endsOperand_of_run (h : start.run 0 l = .ok s) :
    l.getLast?.any endsOperand = !s.expectsOperand := by
  obtain ⟨rfl, rfl⟩ | ⟨before, c, r, rfl, -, hstep⟩ := eq_nil_or_exists_step h
  · rfl
  · rw [List.getLast?_concat, Option.any_some]
    exact endsOperand_of_step hstep

theorem any_awaitsOperand_of_run (h : start.run 0 l = .ok s) (hne : l ≠ []) :
    l.getLast?.any awaitsOperand = s.expectsOperand := by
  rw [expectsOperand_of_run h, List.getLast?_eq_some_getLast hne, Option.any_some, Option.all_some]

/-- The checker refuses a symbol exactly if it offends after the symbols before it. -/
theorem step_eq_error_iff (h : start.run 0 l = .ok s) :
    s.step position c = .error fault ↔ offenceAfter? l c position = some fault := by
  have hexpects := expectsOperand_of_run h
  have hends := any_endsOperand_of_run h
  have hdepth := count_open_of_run h
  induction c using symbol_cases with
  | foreign c hc => rw [step_foreign _ _ hc, offenceAfter?_foreign _ _ hc]; simp
  | digit c hc =>
    rw [step_digit _ _ hc, offenceAfter?_digit _ _ hc, hends]
    cases s.expectsOperand <;> simp
  | operator o =>
    rw [step_operator, offenceAfter?_operator, ← hexpects]
    cases s.expectsOperand <;> simp
  | opening =>
    rw [step_open, offenceAfter?_open, hends]
    cases s.expectsOperand <;> simp
  | closing =>
    rw [step_close, offenceAfter?_close]
    by_cases hzero : s.depth = 0
    · have hcount : l.count '(' ≤ l.count ')' := by omega
      rw [if_pos hzero, if_pos hcount]
      simp
    · have hcount : ¬ l.count '(' ≤ l.count ')' := by omega
      have hne : l ≠ [] := by
        rintro rfl
        exact hcount (Nat.le_refl 0)
      rw [if_neg hzero, if_neg hcount, any_awaitsOperand_of_run h hne]
      cases s.expectsOperand <;> simp

/-- The fault that is met on the way is the first offence. -/
theorem run_eq_error_iff_firstOffence? :
    start.run 0 l = .error fault ↔ firstOffence? l = some fault := by
  -- Symbols are added at the end, where the counts and the last symbol of the rest are at hand.
  induction l using List.reverseRecOn generalizing fault with
  | nil => exact iff_of_false (by rintro ⟨⟩) (by rintro ⟨⟩)
  | append_singleton l c ih =>
    rw [run_append, firstOffence?_concat, Nat.zero_add]
    cases hrun : start.run 0 l with
    | error first =>
      rw [ih.mp hrun, Option.some_or, Option.some.injEq]
      exact Except.error.injEq first fault ▸ Iff.rfl
    | ok s =>
      rw [eq_none_of_ok ih hrun, Option.none_or, ← step_eq_error_iff hrun]
      cases hstep : s.step l.length c <;> simp [bind, Except.bind, run, hstep]

theorem any_symbol_of_run (h : start.run 0 l = .ok s) (hzero : s.depth = 0) :
    (l.getLast?.any fun c => (Operator.ofSymbol? c).isSome) = l.getLast?.any awaitsOperand := by
  obtain ⟨rfl, rfl⟩ | ⟨before, c, r, rfl, -, hstep⟩ := eq_nil_or_exists_step h
  · rfl
  · have hopen : c ≠ '(' := by
      rintro rfl
      have hdepth := depth_of_step hstep
      simp at hdepth
      omega
    rw [List.getLast?_concat, Option.any_some, Option.any_some, awaitsOperand,
      beq_false_of_ne hopen, Bool.or_false]

theorem finish_eq_omission? (h : start.run 0 l = .ok s) :
    s.finish l = (omission? l).elim (.ok ()) .error := by
  have hdepth := count_open_of_run h
  unfold finish omission?
  by_cases hopen : 0 < s.depth
  · have hcount : l.count ')' < l.count '(' := by omega
    have hdifference : l.count '(' - l.count ')' = s.depth := by omega
    rw [if_pos hopen, if_pos hcount, hdifference]
    rfl
  · have hcount : ¬ l.count ')' < l.count '(' := by omega
    rw [if_neg hopen, if_neg hcount, any_symbol_of_run h (Nat.eq_zero_of_not_pos hopen)]
    by_cases hnil : l = []
    · simp [hnil]
    · rw [any_awaitsOperand_of_run h hnil]
      cases s.expectsOperand <;> simp [hnil]

end Checker

/-- The checker reports the first offence, or else what is missing at the end. -/
theorem validate_eq (l : List Char) :
    validate l = ((firstOffence? l).or (omission? l)).elim (.ok ()) .error := by
  cases hrun : Checker.start.run 0 l with
  | error fault =>
    rw [Checker.run_eq_error_iff_firstOffence?.mp hrun]
    exact validate_eq_error_iff.mpr (Or.inl hrun)
  | ok s =>
    have hnone := eq_none_of_ok Checker.run_eq_error_iff_firstOffence? hrun
    rw [hnone, Option.none_or, ← Checker.finish_eq_omission? hrun, validate, hrun]
    rfl

theorem omission?_of_count_lt {l : List Char} (h : l.count ')' < l.count '(') :
    omission? l = some (.unclosedParentheses (l.count '(' - l.count ')')) := if_pos h

theorem omission?_of_count_le {l : List Char} (h : l.count '(' ≤ l.count ')') :
    omission? l = if l.getLast?.any fun c => (Operator.ofSymbol? c).isSome then some .missingOperand
      else none := if_neg (Nat.not_lt.mpr h)

theorem any_isSome_ofSymbol?_iff {x : Option Char} :
    (x.any fun c => (Operator.ofSymbol? c).isSome) = true ↔ ∃ o : Operator, x = some o.symbol := by
  simp only [Option.any_eq_true, Option.isSome_iff_exists, Operator.ofSymbol?_eq_some_iff]
  constructor
  · rintro ⟨c, rfl, o, rfl⟩
    exact ⟨o, rfl⟩
  · rintro ⟨o, rfl⟩
    exact ⟨o.symbol, rfl, o, rfl⟩

/-- If a symbol offends against its neighbourhood, the first one that does is reported, in the words
of the rule and with its position. If none does, more open than closed parentheses are reported
first, with their number, and then a last symbol that is an operator; otherwise the sequence is
valid. -/
theorem validate_reports_first_offence (l : List Char) :
    (∀ i what, Offends l i what → (∀ j < i, ∀ other, ¬ Offends l j other) →
      ∃ fault, validate l = .error fault ∧ fault.position? = some i ∧
        fault.message = what ++ " at position " ++ Text.decimal i) ∧
    ((∀ i what, ¬ Offends l i what) →
      (l.count ')' < l.count '(' → ∃ fault, validate l = .error fault ∧ fault.message =
        "Mismatched parenthesis: " ++ Text.decimal (l.count '(' - l.count ')') ++ " unclosed") ∧
      (l.count '(' ≤ l.count ')' →
        ((∃ o : Operator, l.getLast? = some o.symbol) → ∃ fault, validate l = .error fault ∧
          fault.message = "Expression ends with an operator") ∧
        ((∀ o : Operator, l.getLast? ≠ some o.symbol) → validate l = .ok ()))) := by
  constructor
  · intro i what hoffends hbefore
    obtain ⟨fault, hfault, hmessage⟩ := hoffends.exists_offence?
    have hfirst := firstOffence?_eq_some hfault fun j hj => offence?_eq_none_iff.mpr (hbefore j hj)
    refine ⟨fault, ?_, position?_of_offence? hfault, hmessage⟩
    rw [validate_eq, hfirst]
    rfl
  · intro hnone
    have hvalidate := validate_eq l
    rw [firstOffence?_eq_none_iff.mpr hnone, Option.none_or] at hvalidate
    refine ⟨fun hopen => ?_, fun hclosed => ⟨fun hlast => ?_, fun hlast => ?_⟩⟩
    · rw [omission?_of_count_lt hopen] at hvalidate
      exact ⟨_, hvalidate, rfl⟩
    · rw [omission?_of_count_le hclosed, if_pos (any_isSome_ofSymbol?_iff.mpr hlast)] at hvalidate
      exact ⟨_, hvalidate, rfl⟩
    · have hother : ¬ ∃ o : Operator, l.getLast? = some o.symbol := fun ⟨o, ho⟩ => hlast o ho
      rwa [omission?_of_count_le hclosed, if_neg (mt any_isSome_ofSymbol?_iff.mp hother)]
        at hvalidate

theorem validate_reports_first_offence_of_broken_groups :
    (Offends ['(', '1', '+', ')', ')'] 3 "Unexpected close parenthesis" ∧
      (∀ j < 3, ∀ other, ¬ Offends ['(', '1', '+', ')', ')'] j other) ∧
      ∃ fault, validate ['(', '1', '+', ')', ')'] = .error fault ∧
        fault.message = "Unexpected close parenthesis at position 3") ∧
    ((∀ i what, ¬ Offends ['(', '2', '*', '('] i what) ∧
      ∃ fault, validate ['(', '2', '*', '('] = .error fault ∧
        fault.message = "Mismatched parenthesis: 2 unclosed") ∧
    ((∀ i what, ¬ Offends ['(', '2', ')', '*'] i what) ∧
      ∃ fault, validate ['(', '2', ')', '*'] = .error fault ∧
        fault.message = "Expression ends with an operator") ∧
    (∀ i what, ¬ Offends ['(', '2', ')'] i what) ∧ validate ['(', '2', ')'] = .ok () := by
  have hfirst : Offends ['(', '1', '+', ')', ')'] 3 "Unexpected close parenthesis" :=
    .closing rfl (by decide) (by decide) rfl (Or.inl ⟨.add, rfl⟩)
  have hbefore : ∀ j < 3, offence? ['(', '1', '+', ')', ')'] j = none := by decide
  have hopen : ∀ i what, ¬ Offends ['(', '2', '*', '('] i what :=
    firstOffence?_eq_none_iff.mp (by decide)
  have hlast : ∀ i what, ¬ Offends ['(', '2', ')', '*'] i what :=
    firstOffence?_eq_none_iff.mp (by decide)
  have hvalid : ∀ i what, ¬ Offends ['(', '2', ')'] i what :=
    firstOffence?_eq_none_iff.mp (by decide)
  obtain ⟨hreported, -⟩ := validate_reports_first_offence ['(', '1', '+', ')', ')']
  obtain ⟨-, hunclosed⟩ := validate_reports_first_offence ['(', '2', '*', '(']
  obtain ⟨-, hmissing⟩ := validate_reports_first_offence ['(', '2', ')', '*']
  obtain ⟨-, haccepted⟩ := validate_reports_first_offence ['(', '2', ')']
  have hnone := fun j hj => offence?_eq_none_iff.mp (hbefore j hj)
  obtain ⟨fault, hfault, -, hmessage⟩ := hreported 3 _ hfirst hnone
  refine ⟨⟨hfirst, hnone, fault, hfault, hmessage⟩, ⟨hopen, (hunclosed hopen).1 (by decide)⟩,
    ⟨hlast, ((hmissing hlast).2 (by decide)).1 ⟨.multiply, rfl⟩⟩, hvalid,
    ((haccepted hvalid).2 (by decide)).2 ?_⟩
  intro o ho
  exact symbol_ne_close o (Option.some.inj ho).symm

end ShuntingYard
