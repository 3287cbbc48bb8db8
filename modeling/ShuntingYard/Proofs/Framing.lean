import ShuntingYard.Conversion
import ShuntingYard.Proofs.Balance
import ShuntingYard.Proofs.StackOrder

/-!
# Framing

A yard that takes a sequence without stray closing parentheses leaves what it held before alone, as
long as no operator lies on top of that: the output only grows, and on the stack nothing below is
read or moved. The same holds of any sequence when nothing waits before it. A closing parenthesis
that is stray therefore ends one conversion, and another begins.
-/
namespace ShuntingYard

section Splits

variable {α : Type} {p : α → Bool} {xs ys : List α}

theorem takeWhile_append_of_eq_nil (h : ys.takeWhile p = []) :
    (xs ++ ys).takeWhile p = xs.takeWhile p := by
  induction xs with
  | nil => exact h
  | cons a xs ih => simp only [List.cons_append, List.takeWhile_cons, ih]

theorem dropWhile_append_of_eq (h : ys.dropWhile p = ys) :
    (xs ++ ys).dropWhile p = xs.dropWhile p ++ ys := by
  induction xs with
  | nil => exact h
  | cons a xs ih =>
    simp only [List.cons_append, List.dropWhile_cons, ih]
    split <;> rfl

theorem forall_bne_open {l : List Char} (h : '(' ∉ l) : ∀ c ∈ l, (c != '(') = true := by
  intro c hc
  rw [bne_iff_ne]
  rintro rfl
  exact h hc

end Splits

namespace Yard

variable {y z : Yard} {l : List Char}

/-- The first yard on top of the second: its output comes later and its stack lies higher. -/
def atop (z y : Yard) : Yard :=
  ⟨⟨z.output.items ++ y.output.items⟩, ⟨z.operators.items ++ y.operators.items⟩⟩

theorem empty_atop (y : Yard) : (∅ : Yard).atop y = y := rfl

theorem toList_output_atop (z y : Yard) :
    (z.atop y).output.toList = y.output.toList ++ z.output.toList := by
  simp [atop, Stack.toList]

theorem isOpenTo_of_items_eq_nil {precedence : Nat} (h : y.operators.items = []) :
    y.IsOpenTo precedence := by
  intro o ho
  rw [h] at ho
  cases ho

/-- A closing parenthesis finds its partner in the yard on top, or nothing at all below. -/
theorem step_close_atop (h : '(' ∈ z.operators.items ∨ y.operators.items = []) :
    (z.atop y).step ')' = (z.step ')').atop y := by
  rcases h with h | h
  · obtain ⟨group, below, hsplit, hgroup⟩ := List.eq_append_cons_of_mem h
    have hall := forall_bne_open hgroup
    simp [step_close, atop, hsplit, List.takeWhile_append_of_pos hall,
      List.dropWhile_append_of_pos hall]
  · simp [step_close, atop, h]

theorem step_atop {c : Char} (hy : y.IsOpenTo 0)
    (hclose : c = ')' → '(' ∈ z.operators.items ∨ y.operators.items = []) :
    (z.atop y).step c = (z.step c).atop y := by
  induction c using symbol_cases with
  | foreign c h => rw [step_foreign _ h, step_foreign _ h]
  | digit c h => rw [step_digit _ h, step_digit _ h]; rfl
  | operator o =>
    obtain ⟨htake, hdrop⟩ := (hy.mono (Nat.zero_le o.precedence)).split_eq
    rw [step_operator, step_operator, atop, atop, takeWhile_append_of_eq_nil htake,
      dropWhile_append_of_eq hdrop, List.append_assoc]
    rfl
  | opening => rw [step_open, step_open]; rfl
  | closing => exact step_close_atop (hclose rfl)

theorem count_open_feed_of_covered (h : Covered l) :
    (feed ∅ l).operators.items.count '(' + l.count ')' = l.count '(' := by
  rw [count_open_feed]
  exact length_openPositions_of_covered h

theorem feed_atop (hy : y.IsOpenTo 0) (h : Covered l ∨ y.operators.items = []) :
    y.feed l = (feed ∅ l).atop y := by
  induction l using List.reverseRecOn with
  | nil => exact (empty_atop y).symm
  | append_singleton l c ih =>
    have hbefore := ih (h.imp_left fun hcovered => hcovered.of_isPrefix (List.prefix_append l [c]))
    rw [feed_append, feed_append, hbefore, feed_cons, feed_cons, feed_nil, feed_nil]
    apply step_atop hy
    rintro rfl
    refine h.imp_left fun hcovered => ?_
    have hcount := count_open_feed_of_covered (hcovered.of_isPrefix (List.prefix_append l [')']))
    have hlt := hcovered.count_lt
    rw [← List.count_pos_iff]
    omega

theorem open_notMem_feed_of_balanced (h : Balanced l) : '(' ∉ (feed ∅ l).operators.items := by
  have hcount := count_open_feed_of_covered h.covered
  rw [h.count_eq] at hcount
  rw [← List.count_eq_zero]
  omega

/-- A stray closing parenthesis sends out everything that waits. -/
theorem step_close_of_notMem (h : '(' ∉ y.operators.items) :
    y.step ')' = ⟨⟨y.operators.items.reverse ++ y.output.items⟩, ⟨[]⟩⟩ := by
  have hall := forall_bne_open h
  rw [step_close, List.takeWhile_eq_self_iff.mpr hall, List.dropWhile_eq_nil_iff.mpr hall]
  rfl

end Yard

/-- What a stray closing parenthesis ends is converted on its own, and so is what follows. -/
theorem toPostfix_append_close {v : List Char} (h : Balanced v) (l : List Char) :
    toPostfix (v ++ ')' :: l) = toPostfix v ++ toPostfix l := by
  have hclose := Yard.step_close_of_notMem (Yard.open_notMem_feed_of_balanced h)
  have hnext : ((Yard.feed ∅ v).step ')').operators.items = [] := by
    rw [hclose]
  have hrest := Yard.feed_atop (l := l) (Yard.isOpenTo_of_items_eq_nil hnext) (Or.inr hnext)
  rw [toPostfix, toPostfix, toPostfix, Yard.feed_append, Yard.feed_cons, hrest]
  simp [Yard.finish_eq, Yard.atop, hclose, Stack.toList]

end ShuntingYard
