import ShuntingYard.Proofs.Framing

/-!
# Accounting for symbols

Whatever a yard holds at first, and however it is drained between symbols, nothing is lost and
nothing is made up. The symbols that a session leaves in the output and on the stack are those that
were there before and those that it fed, but for the closing parentheses and the opening ones that
these remove. The output only grows, in a way that does not depend on what it held, and digits reach
it in the order in which they are fed.
-/
namespace ShuntingYard

/-- Whether a symbol stays with the yard that it is fed to. -/
def isCarried (c : Char) : Bool := c.isDigit || (Operator.ofSymbol? c).isSome || c == '('

section Carried

variable {c : Char}

theorem isCarried_of_isDigit (h : c.isDigit = true) : isCarried c = true := by simp [isCarried, h]

theorem isCarried_symbol (o : Operator) : isCarried o.symbol = true := by
  simp [isCarried, Operator.ofSymbol?_symbol]

theorem isCarried_open : isCarried '(' = true := by decide

theorem isCarried_close : isCarried ')' = false := by decide

theorem isCarried_foreign (h : isSymbol c = false) : isCarried c = false := by
  obtain ⟨hdigit, hoperator, hopen, -⟩ := not_symbol h
  simp [isCarried, hdigit, hoperator, hopen]

end Carried

namespace Yard

variable {y z w : Yard} {c : Char} {σ : Type}

def count (y : Yard) (c : Char) : Nat := y.output.items.count c + y.operators.items.count c

/-- Whether feeding the symbol removes a parenthesis from the stack. -/
def Removes (y : Yard) (c : Char) : Prop := c = ')' ∧ '(' ∈ y.operators.items

instance (y : Yard) (c : Char) : Decidable (y.Removes c) := by
  unfold Removes
  infer_instance

/-- How the second yard comes from the first when symbols are fed and some parentheses removed. -/
structure Accounts (y : Yard) (symbols : List Char) (removed : Nat) (z : Yard) : Prop where
  balance : ∀ c, z.count c + (List.replicate removed '(').count c =
    y.count c + (symbols.filter isCarried).count c
  waiting : (∀ c ∈ y.operators.items, c.isDigit = false) →
    ∀ c ∈ z.operators.items, c.isDigit = false
  digits : (∀ c ∈ y.operators.items, c.isDigit = false) →
    z.output.toList.filter Char.isDigit =
      y.output.toList.filter Char.isDigit ++ symbols.filter Char.isDigit

theorem accounts_refl (y : Yard) : Accounts y [] 0 y where
  balance := fun _ => rfl
  waiting := id
  digits := fun _ => by rw [List.filter_nil, List.append_nil]

theorem Accounts.trans {symbols symbols' : List Char} {removed removed' : Nat}
    (h : Accounts y symbols removed z) (h' : Accounts z symbols' removed' w) :
    Accounts y (symbols ++ symbols') (removed + removed') w where
  balance := by
    intro c
    have hfirst := h.balance c
    have hsecond := h'.balance c
    rw [List.replicate_add, List.filter_append, List.count_append, List.count_append]
    omega
  waiting := fun hy => h'.waiting (h.waiting hy)
  digits := by
    intro hy
    rw [h'.digits (h.waiting hy), h.digits hy, List.filter_append, List.append_assoc]

theorem DrainsTo.accounts (h : y.DrainsTo z) : Accounts y [] 0 z := by
  obtain ⟨sent, hsplit, houtput⟩ := h
  refine ⟨fun c => ?_, fun hy c hc => ?_, fun hy => ?_⟩
  · rw [count, count, hsplit, houtput, List.count_append, List.count_append, List.count_reverse,
      List.filter_nil, List.replicate_zero, List.count_nil]
    omega
  · exact hy c (hsplit ▸ List.mem_append_right sent hc)
  · have hsent : sent.filter Char.isDigit = [] := by
      rw [List.filter_eq_nil_iff]
      intro c hc
      simp [hy c (hsplit ▸ List.mem_append_left z.operators.items hc)]
    rw [Stack.toList, houtput, List.reverse_append, List.reverse_reverse, List.filter_append, hsent]
    rfl

theorem accounts_uncarried (y : Yard) (h : isCarried c = false) : Accounts y [c] 0 y := by
  have hdigit : c.isDigit = false := by
    cases hc : c.isDigit with
    | false => rfl
    | true =>
      rw [isCarried_of_isDigit hc] at h
      cases h
  exact ⟨fun a => by simp [h], id, fun _ => by simp [hdigit]⟩

theorem accounts_push_output (y : Yard) (h : c.isDigit = true) :
    Accounts y [c] 0 ⟨y.output.push c, y.operators⟩ where
  balance := by
    intro a
    simp only [count, Stack.push, isCarried_of_isDigit h, List.filter_cons_of_pos, List.filter_nil,
      List.count_cons, List.replicate_zero, List.count_nil]
    omega
  waiting := id
  digits := fun _ => by simp [h]

theorem accounts_push_operators (y : Yard) (h : isCarried c = true) (hdigit : c.isDigit = false) :
    Accounts y [c] 0 ⟨y.output, y.operators.push c⟩ where
  balance := by
    intro a
    simp only [count, Stack.push, h, List.filter_cons_of_pos, List.filter_nil, List.count_cons,
      List.replicate_zero, List.count_nil]
    omega
  waiting := fun hy => List.forall_mem_cons.mpr ⟨hdigit, hy⟩
  digits := fun _ => by simp [hdigit]

/-- The closing parenthesis does not stay, and its partner goes with it. -/
theorem accounts_pop {below : List Char} (h : y.operators.items = '(' :: below) :
    Accounts y [')'] 1 ⟨y.output, y.operators.pop⟩ where
  balance := by
    intro a
    simp only [count, Stack.pop, h, List.tail_cons, List.count_cons, List.replicate_one,
      List.filter_cons_of_neg, isCarried_close, List.filter_nil, List.count_nil, Bool.false_eq_true,
      not_false_eq_true]
    omega
  waiting := fun hy c hc => hy c (List.mem_of_mem_tail hc)
  digits := fun _ => by simp [show (')' : Char).isDigit = false by decide]

theorem accounts_pop_nil (h : y.operators.items = []) :
    Accounts y [')'] 0 ⟨y.output, y.operators.pop⟩ := by
  have hpop : y.operators.pop = y.operators := by
    rw [← Stack.toList_inj, Stack.toList_pop, Stack.toList, h]
    rfl
  rw [hpop]
  exact accounts_uncarried y isCarried_close

theorem accounts_step (y : Yard) (c : Char) :
    Accounts y [c] (if y.Removes c then 1 else 0) (y.step c) := by
  induction c using symbol_cases with
  | foreign c h =>
    rw [if_neg (fun hr : y.Removes c => (not_symbol h).2.2.2 hr.1), step_foreign _ h]
    exact accounts_uncarried y (isCarried_foreign h)
  | digit c h =>
    rw [if_neg (fun hr : y.Removes c => ne_close_of_isDigit h hr.1), step_digit _ h]
    exact accounts_push_output y h
  | operator o =>
    have hdrained := (y.drainsTo_drain (yieldsTo o)).accounts
    rw [if_neg (fun hr : y.Removes o.symbol => symbol_ne_close o hr.1), step_operator]
    exact hdrained.trans
      (accounts_push_operators _ (isCarried_symbol o) (Operator.isDigit_symbol o))
  | opening =>
    rw [if_neg (fun hr : y.Removes '(' => absurd hr.1 (by decide)), step_open]
    exact accounts_push_operators y isCarried_open (by decide)
  | closing =>
    have hdrained := (y.drainsTo_drain (· != '(')).accounts
    rw [step_close]
    rcases dropWhile_ne_open y.operators.items with hnil | ⟨below, hbelow⟩
    · have hnone : ¬ y.Removes ')' := by
        rintro ⟨-, hopen⟩
        rw [← List.count_pos_iff, ← count_open_dropWhile_ne, hnil] at hopen
        cases hopen
      rw [if_neg hnone]
      exact hdrained.trans (accounts_pop_nil hnil)
    · have hopen : '(' ∈ y.operators.items.dropWhile (· != '(') := by
        rw [hbelow]
        exact List.mem_cons_self
      rw [if_pos ⟨rfl, (List.dropWhile_sublist _).subset hopen⟩]
      exact hdrained.trans (accounts_pop hbelow)

section Sessions

variable (calls : List (Call σ)) (state : σ)

theorem run_session_concat (y : Yard) (call : Call σ) :
    (y.session (calls ++ [call])).run state =
      (((y.session calls).run state).1.call call).run ((y.session calls).run state).2 := by
  rw [session_append]
  rfl

/-- The number of parentheses that a session removes: of the closing ones that it feeds, those that
find an opening one on the stack. -/
def removals (y : Yard) (calls : List (Call σ)) (state : σ) : Nat :=
  (List.range calls.length).countP fun i =>
    (calls[i]?.bind Call.symbol?).any fun c =>
      ((y.session (calls.take i)).run state).1.Removes c

theorem removals_concat (y : Yard) (call : Call σ) :
    y.removals (calls ++ [call]) state = y.removals calls state +
      if call.symbol?.any (((y.session calls).run state).1.Removes ·) then 1 else 0 := by
  have hbefore (i : Nat) (hi : i ∈ List.range calls.length) :
      (calls ++ [call])[i]? = calls[i]? ∧ (calls ++ [call]).take i = calls.take i := by
    rw [List.mem_range] at hi
    exact ⟨List.getElem?_append_left hi, List.take_append_of_le_length hi.le⟩
  rw [removals, List.length_append, List.length_singleton, List.range_succ, List.countP_append,
    List.countP_singleton, List.getElem?_concat_length, List.take_left, Option.bind_some, removals]
  congr 1
  apply List.countP_congr
  intro i hi
  rw [(hbefore i hi).1, (hbefore i hi).2]

theorem accounts_call (y : Yard) (call : Call σ) (state : σ) :
    Accounts y call.symbol?.toList (if call.symbol?.any (y.Removes ·) then 1 else 0)
      ((y.call call).run state).1 := by
  cases call with
  | feed c =>
    have hremoves : (Call.feed c : Call σ).symbol?.any (y.Removes ·) = decide (y.Removes c) := rfl
    simp only [hremoves, decide_eq_true_iff]
    exact y.accounts_step c
  | drain accepts => exact (y.drainsTo_drainM accepts state).accounts

theorem accounts_session (y : Yard) : Accounts y (calls.filterMap Call.symbol?)
    (y.removals calls state) ((y.session calls).run state).1 := by
  induction calls using List.reverseRecOn with
  | nil => exact y.accounts_refl
  | append_singleton calls call ih =>
    have hcall := accounts_call ((y.session calls).run state).1 call ((y.session calls).run state).2
    rw [run_session_concat, removals_concat, List.filterMap_append]
    exact ih.trans hcall

end Sessions

section Output

theorem ofParts_append (output sent operators : List Char) :
    ofParts (output ++ sent) operators = (ofParts sent operators).atop (ofParts output []) := by
  simp [ofParts, Stack.ofList, atop]

theorem run_call_atop (z : Yard) {y : Yard} (hy : y.operators.items = []) (call : Call σ)
    (state : σ) : ((z.atop y).call call).run state =
      (((z.call call).run state).1.atop y, ((z.call call).run state).2) := by
  cases call with
  | feed c =>
    have hstep : (z.atop y).step c = (z.step c).atop y :=
      step_atop (isOpenTo_of_items_eq_nil hy) fun _ => Or.inr hy
    exact congrArg (·, state) hstep
  | drain accepts =>
    obtain ⟨sent, kept, state', -, hrun⟩ := exists_run_drainM z.operators.items accepts state
    have hatop : z.atop y = ⟨⟨z.output.items ++ y.output.items⟩, ⟨z.operators.items⟩⟩ := by
      rw [atop, hy, List.append_nil]
    have habove := hrun (z.output.items ++ y.output.items)
    have halone := hrun z.output.items
    unfold call
    rw [hatop, habove, halone, ← List.append_assoc]
    simp only [atop, hy, List.append_nil]

/-- What a session adds to the output and leaves on the stack does not depend on the output before
it. -/
theorem run_session_atop (z : Yard) {y : Yard} (hy : y.operators.items = [])
    (calls : List (Call σ)) (state : σ) : ((z.atop y).session calls).run state =
      (((z.session calls).run state).1.atop y, ((z.session calls).run state).2) := by
  induction calls using List.reverseRecOn with
  | nil => rfl
  | append_singleton calls call ih =>
    rw [run_session_concat, run_session_concat, ih, run_call_atop _ hy]

end Output

section Contents

variable {output operators : List Char}

theorem count_ofParts (output operators : List Char) (c : Char) :
    (ofParts output operators).count c = output.count c + operators.count c := by
  simp [count, ofParts, Stack.ofList]

theorem finish_ofParts (output operators : List Char) :
    (ofParts output operators).finish = output ++ operators.reverse := by
  rw [finish_eq, ofParts, Stack.toList_ofList]
  rfl

/-- The counts of all symbols together say that the contents agree up to order. -/
theorem Accounts.perm {output' operators' symbols : List Char} {removed : Nat}
    (h : Accounts (ofParts output operators) symbols removed (ofParts output' operators')) :
    (output' ++ operators' ++ List.replicate removed '(').Perm
      (output ++ operators ++ symbols.filter isCarried) := by
  rw [List.perm_iff_count]
  intro c
  have hbalance := h.balance c
  rw [count_ofParts, count_ofParts] at hbalance
  simp only [List.count_append]
  exact hbalance

theorem mem_operators_ofParts {c : Char} :
    c ∈ (ofParts output operators).operators.items ↔ c ∈ operators := List.mem_reverse

theorem Accounts.filter_isDigit {output' operators' symbols : List Char} {removed : Nat}
    (h : Accounts (ofParts output operators) symbols removed (ofParts output' operators'))
    (hoperators : ∀ c ∈ operators, c.isDigit = false) :
    output'.filter Char.isDigit = output.filter Char.isDigit ++ symbols.filter Char.isDigit ∧
      operators'.filter Char.isDigit = [] := by
  have hwaiting : ∀ c ∈ (ofParts output operators).operators.items, c.isDigit = false :=
    fun c hc => hoperators c (mem_operators_ofParts.mp hc)
  constructor
  · have hdigits := h.digits hwaiting
    rwa [ofParts, ofParts, Stack.toList_ofList, Stack.toList_ofList] at hdigits
  · rw [List.filter_eq_nil_iff]
    intro c hc
    simp [h.waiting hwaiting c (mem_operators_ofParts.mpr hc)]

end Contents

/-- From any contents and through any session, the output grows by symbols that do not depend on it,
and up to order the yard then holds what it held, the digits, operators and opening parentheses that
were fed, and one opening parenthesis less for each closing one that found one waiting. If no digit
waits at first, digits keep their order. The same holds of the finished output. -/
theorem session_accounting {σ : Type} (operators : List Char) (calls : List (Call σ)) (state : σ) :
    ∃ (sent operators' : List Char) (state' : σ), ∀ output : List Char,
      let y := ofParts output operators
      let z := ofParts (output ++ sent) operators'
      let symbols := calls.filterMap Call.symbol?
      let removed := List.replicate (y.removals calls state) '('
      let carried := output ++ operators ++ symbols.filter isCarried
      let digits := output.filter Char.isDigit ++ symbols.filter Char.isDigit
      (y.session calls).run state = (z, state') ∧
      z.finish = output ++ sent ++ operators'.reverse ∧
      (output ++ sent ++ operators' ++ removed).Perm carried ∧
      (z.finish ++ removed).Perm carried ∧
      ((∀ c ∈ operators, c.isDigit = false) →
        (output ++ sent).filter Char.isDigit = digits ∧ z.finish.filter Char.isDigit = digits) := by
  let alone := ((ofParts [] operators).session calls).run state
  have hparts : alone.1 = ofParts alone.1.output.toList alone.1.operators.toList := by
    rw [ofParts, Stack.ofList_toList, Stack.ofList_toList]
  refine ⟨alone.1.output.toList, alone.1.operators.toList, alone.2, fun output => ?_⟩
  intro y z symbols removed carried digits
  have hrun : (y.session calls).run state = (z, alone.2) := by
    have hempty : (ofParts output []).operators.items = [] := rfl
    have hatop := run_session_atop (ofParts [] operators) hempty calls state
    rwa [← ofParts_append, List.append_nil, hparts, ← ofParts_append] at hatop
  have haccounts := accounts_session calls state y
  rw [hrun] at haccounts
  have hperm := haccounts.perm
  have hfinish := finish_ofParts (output ++ alone.1.output.toList) alone.1.operators.toList
  refine ⟨hrun, hfinish, hperm, ?_, ?_⟩
  · rw [hfinish]
    have hreverse := (List.reverse_perm alone.1.operators.toList).append_left
      (output ++ alone.1.output.toList)
    exact (hreverse.append_right removed).trans hperm
  · intro hoperators
    obtain ⟨hdigits, hnone⟩ := haccounts.filter_isDigit hoperators
    refine ⟨hdigits, ?_⟩
    rw [hfinish, List.filter_append, List.filter_reverse, hnone, List.reverse_nil, List.append_nil]
    exact hdigits

/-- The draining takes out `*` alone; the first closing parenthesis removes the one that waits and
the second finds none. -/
theorem session_accounting_of_counted_drain :
    let once : Call Nat := .drain fun _ taken => (taken == 0, taken + 1)
    let calls := ['1', '*', '2'].map .feed ++ once :: [')', 'x', ')'].map .feed
    let result := (((ofParts ['3'] ['-', '(', '+']).session calls).run 0).1.finish
    (∀ c ∈ ['-', '(', '+'], c.isDigit = false) ∧
      (ofParts ['3'] ['-', '(', '+']).removals calls 0 = 1 ∧
      (result ++ ['(']).Perm ['3', '-', '(', '+', '1', '*', '2'] ∧
      result.filter Char.isDigit = ['3', '1', '2'] := by
  intro once calls result
  have hoperators : ∀ c ∈ ['-', '(', '+'], c.isDigit = false := by simp
  have hremovals : (ofParts ['3'] ['-', '(', '+']).removals calls 0 = 1 := by rfl
  obtain ⟨sent, operators', state', haccount⟩ :=
    session_accounting ['-', '(', '+'] calls 0
  obtain ⟨hrun, -, -, hperm, hdigits⟩ := haccount ['3']
  have hresult : result = (ofParts (['3'] ++ sent) operators').finish := by
    change (((ofParts ['3'] ['-', '(', '+']).session calls).run 0).1.finish = _
    rw [hrun]
  rw [hresult]
  rw [hremovals] at hperm
  exact ⟨hoperators, hremovals, hperm, (hdigits hoperators).2⟩

end Yard

end ShuntingYard
