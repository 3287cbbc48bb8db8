import ShuntingYard.Strict
import ShuntingYard.Tree
import ShuntingYard.Proofs.StackOrder

/-!
# Checker and yard in lockstep

The checker and the yard are written apart and read a sequence one after the other, but after every
beginning that the checker lets pass they agree. As many parentheses wait in the yard as the checker
counts open ones. Read as a postfix word, the output has an operand for each waiting operator and
one more, unless the checker still expects it: an operator that is sent out takes two operands and
leaves one, so that both sides lose one. At the end of an accepted sequence no parenthesis waits and
a single operand is left.
-/
namespace ShuntingYard

section Heights

theorem heightStep?_digit {c : Char} (h : c.isDigit = true) (height : Nat) :
    heightStep? height c = some (height + 1) := by
  simp [heightStep?, h]

theorem heightStep?_symbol (o : Operator) (height : Nat) :
    heightStep? (height + 2) o.symbol = some (height + 1) := by
  rw [heightStep?, o.isDigit_symbol, if_neg Bool.false_ne_true,
    if_pos ⟨o.symbol_mem, Nat.le_add_left 2 height⟩]
  rfl

theorem height?_append (v w : List Char) :
    height? (v ++ w) = (height? v).bind fun height => w.foldlM heightStep? height := by
  simp [height?, List.foldlM_append, bind]

theorem height?_concat_digit {w : List Char} {height : Nat} {c : Char}
    (h : height? w = some height) (hc : c.isDigit = true) :
    height? (w ++ [c]) = some (height + 1) := by
  simp [height?_append, h, heightStep?_digit hc]

theorem height?_concat_symbol {w : List Char} {height : Nat} (o : Operator)
    (h : height? w = some (height + 2)) : height? (w ++ [o.symbol]) = some (height + 1) := by
  simp [height?_append, h, heightStep?_symbol]

theorem height?_append_symbols {w : List Char} {height : Nat} (run : List Operator)
    (h : height? w = some (run.length + (height + 1))) :
    height? (w ++ run.map Operator.symbol) = some (height + 1) := by
  induction run generalizing w with
  | nil => simpa using h
  | cons o run ih =>
    have hheight : (o :: run).length + (height + 1) = run.length + height + 2 := by
      rw [List.length_cons]
      omega
    have hconcat := height?_concat_symbol o (h.trans (congrArg some hheight))
    simpa using ih hconcat

theorem isSome_height?_of_isPrefix {v w : List Char} (hvw : v <+: w) (h : (height? w).isSome) :
    (height? v).isSome := by
  obtain ⟨rest, rfl⟩ := hvw
  rw [height?_append] at h
  exact Option.isSome_of_isSome_bind h

end Heights

section Counts

def operatorCount (l : List Char) : Nat := l.countP fun c => (Operator.ofSymbol? c).isSome

theorem operatorCount_append (l l' : List Char) :
    operatorCount (l ++ l') = operatorCount l + operatorCount l' := List.countP_append

theorem operatorCount_reverse (l : List Char) : operatorCount l.reverse = operatorCount l :=
  List.countP_reverse

theorem operatorCount_symbols (run : List Operator) :
    operatorCount (run.map Operator.symbol) = run.length := by
  unfold operatorCount
  rw [List.countP_map]
  simp [Function.comp_def, Operator.ofSymbol?_symbol]

theorem operatorCount_cons_symbol (o : Operator) (l : List Char) :
    operatorCount (o.symbol :: l) = operatorCount l + 1 := by
  simp [operatorCount, Operator.ofSymbol?_symbol]

theorem operatorCount_cons_open (l : List Char) : operatorCount ('(' :: l) = operatorCount l := by
  simp [operatorCount]

end Counts

/-- What the checker and the yard have in common after the same symbols. -/
structure Agrees (s : Checker) (y : Yard) : Prop where
  ordered : y.IsOrdered
  depth : y.operators.items.count '(' = s.depth
  height : height? y.output.toList =
    some (operatorCount y.operators.items + if s.expectsOperand then 0 else 1)

theorem agrees_start : Agrees .start ∅ where
  ordered := Yard.isOrdered_empty
  depth := rfl
  height := rfl

namespace Agrees

variable {s t : Checker} {y : Yard} {position : Nat}

/-- When operators are sent out after an operand, one operand is left beyond those that wait. -/
theorem height?_sent (h : Agrees s y) (hs : s.expectsOperand = false) {run : List Operator}
    {kept : List Char} (hsplit : y.operators.items = run.map Operator.symbol ++ kept) :
    height? (y.output.toList ++ run.map Operator.symbol) = some (operatorCount kept + 1) := by
  apply height?_append_symbols
  rw [h.height, hsplit, operatorCount_append, operatorCount_symbols, hs, Nat.add_assoc]
  rfl

theorem step_digit {c : Char} (h : Agrees s y) (hc : c.isDigit = true)
    (hs : s.expectsOperand = true) : Agrees ⟨false, s.depth⟩ (y.step c) where
  ordered := h.ordered.step c
  depth := by rw [Yard.step_digit _ hc, h.depth]
  height := by
    have hheight := height?_concat_digit h.height hc
    rw [hs] at hheight
    simpa [Yard.step_digit _ hc] using hheight

theorem step_operator (h : Agrees s y) (hs : s.expectsOperand = false) (o : Operator) :
    Agrees ⟨true, s.depth⟩ (y.step o.symbol) where
  ordered := h.ordered.step o.symbol
  depth := by
    rw [Yard.count_open_step, if_neg (symbol_ne_open o), if_neg (symbol_ne_close o), h.depth]
  height := by
    have hsplit := List.takeWhile_append_dropWhile (p := Yard.yieldsTo o) (l := y.operators.items)
    obtain ⟨run, hrun⟩ := exists_map_symbol fun c hc =>
      Yard.exists_symbol_of_yieldsTo (List.mem_takeWhile_imp (l := y.operators.items) hc)
    rw [← hrun] at hsplit
    have hheight := h.height?_sent hs hsplit.symm
    rw [Yard.step_operator, ← hrun, operatorCount_cons_symbol]
    simpa [Stack.toList] using hheight

theorem step_open (h : Agrees s y) : Agrees ⟨s.expectsOperand, s.depth + 1⟩ (y.step '(') where
  ordered := h.ordered.step '('
  depth := by rw [Yard.count_open_step, if_pos rfl, h.depth]
  height := by
    rw [Yard.step_open]
    exact h.height.trans (by rw [← operatorCount_cons_open]; rfl)

/-- Behind the operators of the topmost group is the parenthesis that a closing one removes. -/
theorem exists_items_eq (h : Agrees s y) (hdepth : s.depth ≠ 0) :
    ∃ (run : List Operator) (below : List Char),
      y.operators.items = run.map Operator.symbol ++ '(' :: below ∧
        y.step ')' = ⟨⟨(run.map Operator.symbol).reverse ++ y.output.items⟩, ⟨below⟩⟩ := by
  obtain ⟨run, hrun⟩ := exists_map_symbol fun c hc =>
    Yard.exists_symbol_of_mem_group h.ordered.canWait hc
  have hsplit := List.takeWhile_append_dropWhile (p := (· != '(')) (l := y.operators.items)
  rcases Yard.dropWhile_ne_open y.operators.items with hnil | ⟨below, hbelow⟩
  · have hcount := Yard.count_open_dropWhile_ne y.operators.items
    rw [hnil, h.depth] at hcount
    exact absurd hcount.symm hdepth
  · refine ⟨run, below, ?_, ?_⟩
    · rw [hrun, ← hbelow]
      exact hsplit.symm
    · rw [Yard.step_close, hbelow, hrun]
      rfl

theorem step_close (h : Agrees s y) (hdepth : s.depth ≠ 0) (hs : s.expectsOperand = false) :
    Agrees ⟨s.expectsOperand, s.depth - 1⟩ (y.step ')') where
  ordered := h.ordered.step ')'
  depth := by rw [Yard.count_open_step, if_neg (by decide), if_pos rfl, h.depth]
  height := by
    obtain ⟨run, below, hsplit, hstep⟩ := h.exists_items_eq hdepth
    have hheight := h.height?_sent hs hsplit
    rw [operatorCount_cons_open] at hheight
    rw [hstep, hs]
    simpa [Stack.toList] using hheight

/-- One symbol that the checker lets pass keeps the two in agreement. -/
theorem step {c : Char} (h : Agrees s y) (hstep : s.step position c = .ok t) :
    Agrees t (y.step c) := by
  cases Checker.step_eq_ok_iff.mp hstep with
  | digit hc => exact h.step_digit hc rfl
  | operator o => exact h.step_operator rfl o
  | opening => exact h.step_open
  | closing => exact h.step_close (Nat.succ_ne_zero _) rfl

theorem run {l : List Char} (h : Agrees s y) (hrun : s.run position l = .ok t) :
    Agrees t (y.feed l) := by
  induction l generalizing s y position with
  | nil =>
    obtain rfl := Except.ok.inj hrun
    exact h
  | cons c l ih =>
    obtain ⟨r, hstep, hrest⟩ := (s.run_cons_eq_ok_iff position).mp hrun
    exact ih (h.step hstep) hrest

end Agrees

theorem agrees_of_run {l : List Char} {s : Checker} (h : Checker.start.run 0 l = .ok s) :
    Agrees s (Yard.feed ∅ l) :=
  agrees_start.run h

section Accepted

variable {symbols : List Char}

theorem exists_run_of_validate (h : validate symbols = .ok ()) :
    ∃ s, Checker.start.run 0 symbols = .ok s ∧ s.depth = 0 ∧
      (s.expectsOperand = true → symbols = []) := by
  obtain ⟨s, hrun, hfinish⟩ := validate_eq_ok_iff.mp h
  exact ⟨s, hrun, s.finish_eq_ok_iff.mp hfinish⟩

/-- Each closing parenthesis of an accepted sequence sends out operators only and removes the
parenthesis below them. -/
theorem exists_group_of_validate (h : validate symbols = .ok ()) {before after : List Char}
    (hsymbols : symbols = before ++ ')' :: after) :
    ∃ (output below : List Char) (group : List Operator),
      Yard.feed ∅ before = .ofParts output (below ++ '(' :: group.map Operator.symbol) ∧
        Yard.feed ∅ (before ++ [')']) =
          .ofParts (output ++ group.reverse.map Operator.symbol) below := by
  obtain ⟨s, hrun, -⟩ := exists_run_of_validate h
  rw [hsymbols, Checker.run_append_eq_ok_iff] at hrun
  obtain ⟨r, hbefore, hafter⟩ := hrun
  obtain ⟨t, hstep, -⟩ := (r.run_cons_eq_ok_iff _).mp hafter
  have hdepth : r.depth ≠ 0 := by
    rw [Checker.step_close] at hstep
    split_ifs at hstep with hdepth
    exact hdepth
  obtain ⟨run, below, hitems, hclosed⟩ := (agrees_of_run hbefore).exists_items_eq hdepth
  refine ⟨(Yard.feed ∅ before).output.toList, below.reverse, run.reverse, ?_, ?_⟩
  · cases hy : Yard.feed ∅ before with
    | mk output operators =>
      rw [hy] at hitems
      simp [Yard.ofParts, Stack.ofList, Stack.toList, ← hitems]
  · rw [Yard.feed_append, Yard.feed_cons, Yard.feed_nil, hclosed]
    simp [Yard.ofParts, Stack.ofList, Stack.toList]

theorem exists_symbol_of_mem_of_validate (h : validate symbols = .ok ()) {c : Char}
    (hc : c ∈ (Yard.feed ∅ symbols).operators.items) : ∃ o : Operator, c = o.symbol := by
  obtain ⟨s, hrun, hdepth, -⟩ := exists_run_of_validate h
  have hagrees := agrees_of_run hrun
  have hnone : '(' ∉ (Yard.feed ∅ symbols).operators.items := by
    rw [← List.count_eq_zero, hagrees.depth, hdepth]
  rcases hagrees.ordered.canWait c hc with rfl | hoperator
  · exact absurd hc hnone
  · exact hoperator

theorem height?_toPostfix (h : validate symbols = .ok ()) (hne : symbols ≠ []) :
    height? (toPostfix symbols) = some 1 := by
  obtain ⟨s, hrun, -, hexpects⟩ := exists_run_of_validate h
  have hs : s.expectsOperand = false := by simpa [hne] using hexpects
  obtain ⟨run, hitems⟩ := exists_map_symbol fun c hc => exists_symbol_of_mem_of_validate h hc
  have hsplit : (Yard.feed ∅ symbols).operators.items = run.map Operator.symbol ++ [] := by
    rw [hitems, List.append_nil]
  rw [toPostfix, Yard.finish_eq, ← hitems]
  exact (agrees_of_run hrun).height?_sent hs hsplit

end Accepted

/-- As long as the checker lets a sequence pass, its state says how many parentheses wait and how
the height of the output and the number of waiting operators are related. In an accepted sequence
every closing parenthesis therefore meets its partner, none waits at the end, and the result leaves
one operand. -/
theorem checker_yard_lockstep :
    (∀ (symbols : List Char) (n : Nat) (s : Checker),
      Checker.start.run 0 (symbols.take n) = .ok s →
        let y := Yard.feed ∅ (symbols.take n)
        y.operators.toList.count '(' = s.depth ∧
          (∀ word, word <+: y.output.toList → (height? word).isSome) ∧
          height? y.output.toList =
            some (operatorCount y.operators.toList + if s.expectsOperand then 0 else 1)) ∧
    ∀ symbols : List Char, validate symbols = .ok () →
      (∀ before after, symbols = before ++ ')' :: after →
        ∃ (output below : List Char) (group : List Operator),
          Yard.feed ∅ before = .ofParts output (below ++ '(' :: group.map Operator.symbol) ∧
            Yard.feed ∅ (before ++ [')']) =
              .ofParts (output ++ group.reverse.map Operator.symbol) below) ∧
        (∀ c ∈ (Yard.feed ∅ symbols).operators.toList, ∃ o : Operator, c = o.symbol) ∧
        ∃ result, toPostfixStrict symbols = .ok result ∧ (result = [] ↔ symbols = []) ∧
          (result ≠ [] → height? result = some 1) := by
  constructor
  · intro symbols n s hrun y
    have hagrees := agrees_of_run hrun
    refine ⟨?_, ?_, ?_⟩
    · rw [Stack.toList, List.count_reverse]
      exact hagrees.depth
    · intro word hword
      exact isSome_height?_of_isPrefix hword (by rw [hagrees.height, Option.isSome_some])
    · have hcount : operatorCount y.operators.toList = operatorCount y.operators.items :=
        operatorCount_reverse y.operators.items
      rw [hcount]
      exact hagrees.height
  · intro symbols hvalid
    refine ⟨fun before after => exists_group_of_validate hvalid, ?_, toPostfix symbols,
      toPostfixStrict_of_ok hvalid, ?_⟩
    · intro c hc
      exact exists_symbol_of_mem_of_validate hvalid (List.mem_reverse.mp hc)
    · by_cases hne : symbols = []
      · subst hne
        exact ⟨iff_of_true rfl rfl, fun h => absurd rfl h⟩
      · have hheight := height?_toPostfix hvalid hne
        refine ⟨iff_of_false ?_ hne, fun _ => hheight⟩
        intro hempty
        rw [hempty] at hheight
        cases hheight

theorem checker_yard_lockstep_of_nested_groups :
    let symbols := ['8', '-', '(', '2', '*', '(', '3', '-', '1', ')', ')']
    Checker.start.run 0 (symbols.take 7) = .ok ⟨false, 2⟩ ∧
      height? (Yard.feed ∅ (symbols.take 7)).output.toList = some 3 ∧
      validate symbols = .ok () ∧
      (∃ (output below : List Char) (group : List Operator),
        Yard.feed ∅ (symbols.take 9) = .ofParts output (below ++ '(' :: group.map Operator.symbol) ∧
          Yard.feed ∅ (symbols.take 9 ++ [')']) =
            .ofParts (output ++ group.reverse.map Operator.symbol) below) ∧
      ∃ result, toPostfixStrict symbols = .ok result ∧ height? result = some 1 := by
  intro symbols
  obtain ⟨hpassed, haccepted⟩ := checker_yard_lockstep
  obtain ⟨-, -, hheight⟩ := hpassed symbols 7 ⟨false, 2⟩ rfl
  obtain ⟨hclose, -, result, hresult, hempty, hone⟩ := haccepted symbols rfl
  have hne : result ≠ [] := fun h => absurd (hempty.mp h) (by decide)
  exact ⟨rfl, hheight, rfl, hclose (symbols.take 9) [')'] rfl, result, hresult, hone hne⟩

end ShuntingYard
