import ShuntingYard.Proofs.Decreasing
import ShuntingYard.Proofs.Draining
import ShuntingYard.Proofs.OpenPositions
import ShuntingYard.Proofs.Postorder
import Mathlib.Data.List.Chain
import Mathlib.Data.Set.List
import Mathlib.Data.List.TakeWhile

/-!
# The order of the stack

Only operators and opening parentheses wait, and an operator that waits right above another one
binds more tightly. This is kept by every symbol, whatever its class, and by draining under any
condition, since what is left of an ordered stack is ordered. An incoming operator looks at the top
only; as the stack is ordered, it nevertheless sends out every operator of the topmost group that
binds at least as tightly.
-/
namespace ShuntingYard

def CanWait (c : Char) : Prop := c = '(' ∨ ∃ o : Operator, c = o.symbol

def Tightens (above below : Char) : Prop :=
  ∀ o p : Operator, above = o.symbol → below = p.symbol → p.precedence < o.precedence

theorem CanWait.ne_close {c : Char} (h : CanWait c) : c ≠ ')' := by
  rcases h with rfl | ⟨o, rfl⟩
  · decide
  · exact symbol_ne_close o

theorem tightens_open (below : Char) : Tightens '(' below := by
  intro o p ho
  exact absurd ho.symm (symbol_ne_open o)

theorem tightens_symbol_iff {o p : Operator} :
    Tightens o.symbol p.symbol ↔ p.precedence < o.precedence := by
  constructor
  · intro h
    exact h o p rfl rfl
  · intro h o' p' ho hp
    rwa [← Operator.symbol_inj.mp ho, ← Operator.symbol_inj.mp hp]

theorem exists_map_symbol {l : List Char} (h : ∀ c ∈ l, ∃ o : Operator, c = o.symbol) :
    ∃ run : List Operator, run.map Operator.symbol = l := by
  have hrange : l ∈ Set.range (List.map Operator.symbol) := by
    rw [Set.range_list_map]
    intro c hc
    obtain ⟨o, ho⟩ := h c hc
    exact ⟨o, ho.symm⟩
  exact hrange

section Order

variable {items : List Char}

theorem pairwise_precedence (h : items.IsChain Tightens) {run : List Operator}
    (hrun : run.map Operator.symbol <:+: items) :
    (run.map Operator.precedence).Pairwise (· > ·) := by
  have hsymbols : (run.map Operator.symbol).IsChain Tightens := h.infix hrun
  rw [List.isChain_map] at hsymbols
  have hprecedences : (run.map Operator.precedence).IsChain (· > ·) :=
    (List.isChain_map _).mpr (hsymbols.imp fun _ _ => tightens_symbol_iff.mp)
  exact List.isChain_iff_pairwise.mp hprecedences

def topPrecedence (items : List Char) : Nat :=
  (items.head?.bind Operator.ofSymbol?).elim 0 Operator.precedence

theorem precedence_bounds (o : Operator) : 0 < o.precedence ∧ o.precedence ≤ 2 := by
  cases o <;> decide

theorem topPrecedence_symbol (o : Operator) (items : List Char) :
    topPrecedence (o.symbol :: items) = o.precedence := by
  simp [topPrecedence, Operator.ofSymbol?_symbol]

theorem topPrecedence_le (items : List Char) : topPrecedence items ≤ 2 := by
  unfold topPrecedence
  cases items.head?.bind Operator.ofSymbol? with
  | none => exact Nat.zero_le 2
  | some o => exact (precedence_bounds o).2

theorem topPrecedence_lt {o : Operator} (h : (o.symbol :: items).IsChain Tightens) :
    topPrecedence items < o.precedence := by
  cases items with
  | nil => exact (precedence_bounds o).1
  | cons c rest =>
    cases hc : Operator.ofSymbol? c with
    | none =>
      have hzero : topPrecedence (c :: rest) = 0 := by simp [topPrecedence, hc]
      rw [hzero]
      exact (precedence_bounds o).1
    | some p =>
      obtain rfl := Operator.ofSymbol?_eq_some_iff.mp hc
      rw [topPrecedence_symbol]
      exact (List.isChain_cons.mp h).1 p.symbol rfl o p rfl rfl

/-- Each parenthesis brings at most two operators with it, as there are two precedences. -/
theorem length_le_of_isChain (hcan : ∀ c ∈ items, CanWait c) (h : items.IsChain Tightens) :
    items.length ≤ 3 * items.count '(' + topPrecedence items := by
  induction items with
  | nil => exact Nat.zero_le _
  | cons c items ih =>
    obtain ⟨hc, hrest⟩ := List.forall_mem_cons.mp hcan
    have hlength := ih hrest h.tail
    rcases hc with rfl | ⟨o, rfl⟩
    · have htop := topPrecedence_le items
      rw [List.length_cons, List.count_cons_self]
      omega
    · have htop := topPrecedence_lt h
      rw [List.length_cons, List.count_cons_of_ne (symbol_ne_open o), topPrecedence_symbol]
      omega

end Order

namespace Yard

variable {y z : Yard}

/-- Only operators and opening parentheses wait, the operators of a group in order, and no closing
parenthesis has been sent out. -/
structure IsOrdered (y : Yard) : Prop where
  canWait : ∀ c ∈ y.operators.items, CanWait c
  tightens : y.operators.items.IsChain Tightens
  close_notMem : ')' ∉ y.output.items

theorem isOrdered_empty : (∅ : Yard).IsOrdered where
  canWait := by simp
  tightens := List.isChain_nil
  close_notMem := by simp

theorem IsOrdered.drainsTo (h : y.IsOrdered) (hz : y.DrainsTo z) : z.IsOrdered := by
  obtain ⟨sent, hsplit, houtput⟩ := hz
  have hcan := h.canWait
  have hchain := h.tightens
  rw [hsplit] at hcan hchain
  refine ⟨fun c hc => hcan c (List.mem_append_right sent hc), hchain.right_of_append, ?_⟩
  rw [houtput, List.mem_append, List.mem_reverse]
  intro hclose
  rcases hclose with hclose | hclose
  · exact (hcan ')' (List.mem_append_left _ hclose)).ne_close rfl
  · exact h.close_notMem hclose

theorem IsOrdered.push_open (h : y.IsOrdered) : IsOrdered ⟨y.output, y.operators.push '('⟩ where
  canWait := List.forall_mem_cons.mpr ⟨Or.inl rfl, h.canWait⟩
  tightens := List.isChain_cons.mpr ⟨fun c _ => tightens_open c, h.tightens⟩
  close_notMem := h.close_notMem

theorem IsOrdered.push_symbol {o : Operator} (h : y.IsOrdered) (hopen : y.IsOpenTo o.precedence) :
    IsOrdered ⟨y.output, y.operators.push o.symbol⟩ where
  canWait := List.forall_mem_cons.mpr ⟨Or.inr ⟨o, rfl⟩, h.canWait⟩
  tightens := by
    refine List.isChain_cons.mpr ⟨?_, h.tightens⟩
    intro c hc o' p ho hp
    rw [← Operator.symbol_inj.mp ho]
    rw [hp] at hc
    exact hopen p hc
  close_notMem := h.close_notMem

theorem IsOrdered.pop (h : y.IsOrdered) : IsOrdered ⟨y.output, y.operators.pop⟩ where
  canWait := fun c hc => h.canWait c (List.mem_of_mem_tail hc)
  tightens := h.tightens.tail
  close_notMem := h.close_notMem

theorem isOpenTo_drain (y : Yard) (o : Operator) :
    (y.drain (yieldsTo o)).IsOpenTo o.precedence := by
  intro p hp
  have hnot := List.head?_dropWhile_not (yieldsTo o) y.operators.items
  have htop : (y.operators.items.dropWhile (yieldsTo o)).head? = some p.symbol := hp
  rw [htop] at hnot
  simpa [yieldsTo_symbol] using hnot

theorem IsOrdered.step (h : y.IsOrdered) (c : Char) : (y.step c).IsOrdered := by
  induction c using symbol_cases with
  | foreign c hc => rwa [step_foreign _ hc]
  | digit c hc =>
    rw [step_digit _ hc]
    refine ⟨h.canWait, h.tightens, ?_⟩
    intro hclose
    rcases List.mem_cons.mp hclose with rfl | hclose
    · exact ne_close_of_isDigit hc rfl
    · exact h.close_notMem hclose
  | operator o =>
    have hdrained := h.drainsTo (y.drainsTo_drain (yieldsTo o))
    rw [step_operator]
    exact hdrained.push_symbol (y.isOpenTo_drain o)
  | opening =>
    rw [step_open]
    exact h.push_open
  | closing =>
    have hdrained := h.drainsTo (y.drainsTo_drain (· != '('))
    rw [step_close]
    exact hdrained.pop

theorem isOrdered_session {σ : Type} (calls : List (Call σ)) (state : σ) :
    ((session ∅ calls).run state).1.IsOrdered :=
  session_induction (fun _ c h => h.step c) (fun _ _ hz h => h.drainsTo hz) calls state
    isOrdered_empty

theorem isOrdered_feed (l : List Char) : (feed ∅ l).IsOrdered :=
  feed_induction (fun _ c h => h.step c) l isOrdered_empty

theorem IsOrdered.length_le (h : y.IsOrdered) :
    y.operators.items.length ≤ 3 * y.operators.items.count '(' + 2 := by
  have hlength := length_le_of_isChain h.canWait h.tightens
  have htop := topPrecedence_le y.operators.items
  omega

section Groups

def group (y : Yard) : List Char := y.operators.items.takeWhile (· != '(')

theorem exists_symbol_of_yieldsTo {o : Operator} {c : Char} (h : yieldsTo o c = true) :
    ∃ p : Operator, c = p.symbol := by
  obtain ⟨p, hp, -⟩ := Option.any_eq_true _ _ |>.mp h
  exact ⟨p, Operator.ofSymbol?_eq_some_iff.mp hp⟩

theorem exists_symbol_of_mem_group (hcan : ∀ c ∈ y.operators.items, CanWait c) {c : Char}
    (h : c ∈ y.group) : ∃ p : Operator, c = p.symbol := by
  have hopen : (c != '(') = true := List.mem_takeWhile_imp (p := (· != '(')) h
  exact (hcan c ((List.takeWhile_sublist _).subset h)).resolve_left (by simpa using hopen)

/-- Within a group, whatever waits above an operator that yields does so as well. -/
theorem IsOrdered.pairwise_group (h : y.IsOrdered) (o : Operator) :
    y.group.Pairwise fun above below => yieldsTo o below = true → yieldsTo o above = true := by
  obtain ⟨run, hrun⟩ := exists_map_symbol fun c hc => exists_symbol_of_mem_group h.canWait hc
  have hinfix : y.group <:+: y.operators.items := (List.takeWhile_prefix _).isInfix
  rw [← hrun] at hinfix ⊢
  have hfalls := pairwise_precedence h.tightens hinfix
  rw [List.pairwise_map] at hfalls ⊢
  refine hfalls.imp ?_
  intro p q hqp hyields
  rw [yieldsTo_symbol, decide_eq_true_iff] at hyields ⊢
  exact hyields.trans hqp.le

/-- The draining for an operator stays in the topmost group. -/
theorem takeWhile_yieldsTo (y : Yard) (o : Operator) :
    y.operators.items.takeWhile (yieldsTo o) = y.group.takeWhile (yieldsTo o) := by
  have hagree (c : Char) : (decide (yieldsTo o c = true ∧ (c != '(') = true)) = yieldsTo o c := by
    by_cases hc : c = '('
    · simp [hc]
    · simp [hc]
  rw [group, List.takeWhile_takeWhile]
  simp only [hagree]

theorem IsOrdered.takeWhile_eq (h : y.IsOrdered) (o : Operator) :
    y.operators.items.takeWhile (yieldsTo o) = y.group.filter (yieldsTo o) := by
  rw [takeWhile_yieldsTo, takeWhile_eq_filter (h.pairwise_group o)]

theorem IsOrdered.dropWhile_eq (h : y.IsOrdered) (o : Operator) :
    y.operators.items.dropWhile (yieldsTo o) =
      y.group.filter (fun c => !yieldsTo o c) ++ y.operators.items.dropWhile (· != '(') := by
  have hwhole := List.takeWhile_append_dropWhile (p := yieldsTo o) (l := y.operators.items)
  have hgroup := List.takeWhile_append_dropWhile (p := yieldsTo o) (l := y.group)
  have hparts := List.takeWhile_append_dropWhile (p := (· != '(')) (l := y.operators.items)
  rw [← group, ← hgroup, List.append_assoc, ← takeWhile_yieldsTo,
    dropWhile_eq_filter (h.pairwise_group o)] at hparts
  exact List.append_cancel_left (hwhole.trans hparts.symm)

/-- An incoming operator sends out the operators of the topmost group that yield to it, in the order
in which they wait, and waits itself above those that do not. -/
theorem IsOrdered.step_symbol (h : y.IsOrdered) (o : Operator) :
    (y.step o.symbol).output.toList = y.output.toList ++ y.group.filter (yieldsTo o) ∧
      (y.step o.symbol).operators.items = o.symbol :: (y.group.filter (fun c => !yieldsTo o c) ++
        y.operators.items.dropWhile (· != '(')) := by
  rw [step_operator, h.takeWhile_eq, h.dropWhile_eq]
  exact ⟨by simp [Stack.toList], rfl⟩

end Groups

section Parentheses

theorem count_open_eq_zero {accepts : Char → Bool} (hopen : accepts '(' = false) (l : List Char) :
    (l.takeWhile accepts).count '(' = 0 := by
  rw [List.count_eq_zero]
  intro h
  rw [List.mem_takeWhile_imp h] at hopen
  cases hopen

theorem count_open_dropWhile {accepts : Char → Bool} (hopen : accepts '(' = false)
    (l : List Char) : (l.dropWhile accepts).count '(' = l.count '(' := by
  have hsplit := List.takeWhile_append_dropWhile (p := accepts) (l := l)
  conv_rhs => rw [← hsplit, List.count_append, count_open_eq_zero hopen, Nat.zero_add]

theorem count_open_dropWhile_ne (l : List Char) :
    (l.dropWhile (· != '(')).count '(' = l.count '(' := count_open_dropWhile rfl l

theorem dropWhile_ne_open (l : List Char) :
    l.dropWhile (· != '(') = [] ∨ ∃ below, l.dropWhile (· != '(') = '(' :: below := by
  cases hdrop : l.dropWhile (· != '(') with
  | nil => exact Or.inl rfl
  | cons c below =>
    have hnot := List.head?_dropWhile_not (· != '(') l
    rw [hdrop] at hnot
    obtain rfl : c = '(' := by simpa using hnot
    exact Or.inr ⟨below, rfl⟩

theorem count_open_step (y : Yard) (c : Char) : (y.step c).operators.items.count '(' =
    if c = '(' then y.operators.items.count '(' + 1
    else if c = ')' then y.operators.items.count '(' - 1
    else y.operators.items.count '(' := by
  induction c using symbol_cases with
  | foreign c h =>
    obtain ⟨-, -, hopen, hclose⟩ := not_symbol h
    rw [step_foreign _ h, if_neg hopen, if_neg hclose]
  | digit c h =>
    rw [step_digit _ h, if_neg (ne_open_of_isDigit h), if_neg (ne_close_of_isDigit h)]
  | operator o =>
    rw [step_operator, if_neg (symbol_ne_open o), if_neg (symbol_ne_close o),
      List.count_cons_of_ne (symbol_ne_open o), count_open_dropWhile (yieldsTo_open o)]
  | opening =>
    rw [step_open, if_pos rfl]
    exact List.count_cons_self
  | closing =>
    rw [step_close, if_neg (by decide), if_pos rfl, ← count_open_dropWhile_ne y.operators.items]
    rcases dropWhile_ne_open y.operators.items with hnil | ⟨below, hbelow⟩
    · simp [hnil]
    · simp [hbelow]

theorem count_open_feed (l : List Char) :
    (feed ∅ l).operators.items.count '(' = (openPositions l).length := by
  induction l using List.reverseRecOn with
  | nil => rfl
  | append_singleton l c ih =>
    rw [openPositions] at ih
    rw [feed_append, feed_cons, feed_nil, count_open_step, ih, openPositions,
      openPositionsFrom_concat]
    split_ifs <;> simp

end Parentheses

section Plain

/-- An ordered yard that has sent out digits and operators only. Draining under a condition that
accepts a parenthesis does not keep this. -/
structure IsPlain (y : Yard) : Prop where
  ordered : y.IsOrdered
  sent : ∀ c ∈ y.output.items, c.isDigit = true ∨ ∃ o : Operator, c = o.symbol

theorem isPlain_empty : (∅ : Yard).IsPlain := ⟨isOrdered_empty, by simp⟩

theorem IsPlain.step (h : y.IsPlain) (c : Char) : (y.step c).IsPlain := by
  refine ⟨h.ordered.step c, ?_⟩
  induction c using symbol_cases with
  | foreign c hc =>
    rw [step_foreign _ hc]
    exact h.sent
  | digit c hc =>
    rw [step_digit _ hc]
    exact List.forall_mem_cons.mpr ⟨Or.inl hc, h.sent⟩
  | operator o =>
    rw [step_operator, List.forall_mem_append]
    refine ⟨fun c hc => Or.inr ?_, h.sent⟩
    exact exists_symbol_of_yieldsTo (List.mem_takeWhile_imp (List.mem_reverse.mp hc))
  | opening =>
    rw [step_open]
    exact h.sent
  | closing =>
    rw [step_close, List.forall_mem_append]
    refine ⟨fun c hc => Or.inr ?_, h.sent⟩
    exact exists_symbol_of_mem_group h.ordered.canWait (List.mem_reverse.mp hc)

theorem isPlain_feed (l : List Char) : (feed ∅ l).IsPlain :=
  feed_induction (fun _ c h => h.step c) l isPlain_empty

end Plain

theorem IsOrdered.pairwise_toList (h : y.IsOrdered) {run : List Operator}
    (hrun : run.map Operator.symbol <:+: y.operators.toList) :
    (run.map Operator.precedence).Pairwise (· < ·) := by
  have hinfix : run.reverse.map Operator.symbol <:+: y.operators.items := by
    rw [Stack.toList, ← List.reverse_infix, List.reverse_reverse] at hrun
    rwa [List.map_reverse]
  have hfalls := pairwise_precedence h.tightens hinfix
  rwa [List.map_reverse, List.pairwise_reverse] at hfalls

theorem yieldsTo_eq (o : Operator) :
    yieldsTo o = fun c => (Operator.ofSymbol? c).any (o.precedence ≤ ·.precedence) := by
  funext c
  cases hc : Operator.ofSymbol? c with
  | none => simp [yieldsTo, hc]
  | some p =>
    obtain rfl := Operator.ofSymbol?_eq_some_iff.mp hc
    rw [yieldsTo_symbol, Option.any_some]

/-- After any session the stack holds operators and opening parentheses, with precedence rising in
every run of operators. When symbols alone are fed, the parentheses on the stack are the open ones,
and an operator sends out exactly the operators above the topmost parenthesis that bind at least as
tightly. -/
theorem representation_invariant :
    (∀ (σ : Type) (calls : List (Call σ)) (state : σ),
      let y := ((session ∅ calls).run state).1
      (∀ c ∈ y.operators.toList, c = '(' ∨ ∃ o : Operator, c = o.symbol) ∧
        ')' ∉ y.operators.toList ∧ ')' ∉ y.output.toList ∧
        (∀ run : List Operator, run.map Operator.symbol <:+: y.operators.toList →
          (run.map Operator.precedence).Pairwise (· < ·)) ∧
        y.operators.toList.length ≤ 3 * y.operators.toList.count '(' + 2) ∧
    ∀ symbols : List Char,
      let y := feed ∅ symbols
      (∀ c ∈ y.output.toList, c.isDigit = true ∨ ∃ o : Operator, c = o.symbol) ∧
        y.operators.toList.count '(' = (openPositions symbols).length ∧
        ∀ o : Operator,
          let above := y.operators.items.takeWhile (· != '(')
          let freed := fun c => (Operator.ofSymbol? c).any (o.precedence ≤ ·.precedence)
          (y.step o.symbol).output.toList = y.output.toList ++ above.filter freed ∧
            (y.step o.symbol).operators.items = o.symbol :: (above.filter (fun c => !freed c) ++
              y.operators.items.dropWhile (· != '(')) := by
  constructor
  · intro σ calls state y
    have hordered : y.IsOrdered := isOrdered_session calls state
    have hcan : ∀ c ∈ y.operators.toList, CanWait c := by
      intro c hc
      exact hordered.canWait c (List.mem_reverse.mp hc)
    refine ⟨hcan, fun hclose => (hcan ')' hclose).ne_close rfl, ?_, ?_, ?_⟩
    · rw [Stack.toList, List.mem_reverse]
      exact hordered.close_notMem
    · intro run hrun
      exact hordered.pairwise_toList hrun
    · rw [Stack.toList, List.length_reverse, List.count_reverse]
      exact hordered.length_le
  · intro symbols y
    refine ⟨?_, ?_, ?_⟩
    · intro c hc
      exact (isPlain_feed symbols).sent c (List.mem_reverse.mp hc)
    · rw [Stack.toList, List.count_reverse]
      exact count_open_feed symbols
    · intro o above freed
      have hstep := (isOrdered_feed symbols).step_symbol o
      rwa [yieldsTo_eq] at hstep

/-- A session of `(1+2*3`, a draining that takes the product out again, and `*4`. -/
theorem representation_invariant_of_counted_drain :
    let once : Call Nat := .drain fun _ taken => (taken == 0, taken + 1)
    let calls := ['(', '1', '+', '2', '*', '3'].map .feed ++ once :: ['*', '4'].map .feed
    let y := ((session ∅ calls).run 0).1
    ('+' ∈ y.operators.toList ∧ ('+' = '(' ∨ ∃ o : Operator, '+' = o.symbol)) ∧
      ([Operator.add, .multiply].map Operator.symbol <:+: y.operators.toList ∧
        ([Operator.add, .multiply].map Operator.precedence).Pairwise (· < ·)) ∧
      y.operators.toList.length ≤ 3 * 1 + 2 ∧
      ('1' ∈ (feed ∅ ['1', '+', '2']).output.toList ∧
        ('1'.isDigit = true ∨ ∃ o : Operator, '1' = o.symbol)) := by
  obtain ⟨hsession, hfeed⟩ := representation_invariant
  intro once calls y
  obtain ⟨hcan, -, -, hruns, hlength⟩ := hsession Nat calls 0
  have hplus : '+' ∈ y.operators.toList := by decide
  have hrun : [Operator.add, .multiply].map Operator.symbol <:+: y.operators.toList :=
    ⟨['('], [], rfl⟩
  have hone : '1' ∈ (feed ∅ ['1', '+', '2']).output.toList := by decide
  exact ⟨⟨hplus, hcan '+' hplus⟩, ⟨hrun, hruns _ hrun⟩, hlength,
    hone, (hfeed ['1', '+', '2']).1 '1' hone⟩

end Yard

end ShuntingYard
