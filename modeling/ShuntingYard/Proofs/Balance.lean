import ShuntingYard.Proofs.OpenPositions
import Mathlib.Data.List.Induction

/-!
# Balanced sequences

Balance is a matter of counting: no beginning closes more parentheses than it opens, and the whole
closes as many. The parentheses that are open after a sequence of the first kind are those that were
open before it and as many more as it opens without closing them.
-/
namespace ShuntingYard

variable {l l' v : List Char} {c : Char}

/-- Every closing parenthesis has its partner: no beginning closes more than it opens. -/
def Covered (l : List Char) : Prop := ∀ v, v <+: l → v.count ')' ≤ v.count '('

theorem balanced_iff : Balanced l ↔ Covered l ∧ l.count ')' = l.count '(' := by
  apply and_congr_left'
  constructor
  · intro h v hv
    have hcount := h v.length hv.length_le
    rwa [← List.prefix_iff_eq_take.mp hv] at hcount
  · intro h n _
    exact h _ (List.take_prefix n l)

section Covers

theorem Covered.of_isPrefix (h : Covered l) (hv : v <+: l) : Covered v :=
  fun u hu => h u (hu.trans hv)

theorem Covered.count_le (h : Covered l) : l.count ')' ≤ l.count '(' := h l (List.prefix_refl l)

theorem covered_open : Covered ['('] := by
  intro v hv
  rcases List.prefix_cons_iff.mp hv with rfl | ⟨u, rfl, hu⟩
  · exact Nat.le_refl _
  · rw [List.prefix_nil.mp hu]
    decide

theorem Covered.append (h : Covered l) (h' : Covered l') : Covered (l ++ l') := by
  intro v hv
  rcases List.prefix_or_prefix_of_prefix hv (List.prefix_append l l') with hvl | ⟨u, rfl⟩
  · exact h v hvl
  · have hu := h' u ((List.prefix_append_right_inj l).mp hv)
    have hl := h.count_le
    rw [List.count_append, List.count_append]
    omega

/-- Before a closing parenthesis that has its partner, more are open than closed. -/
theorem Covered.count_lt (h : Covered (l ++ [')'])) : l.count ')' < l.count '(' := by
  have hle := h.count_le
  rw [List.count_append, List.count_append] at hle
  exact Nat.lt_of_succ_le hle

end Covers

section Balances

theorem balanced_nil : Balanced [] := by decide

theorem balanced_singleton (hopen : c ≠ '(') (hclose : c ≠ ')') : Balanced [c] := by
  refine balanced_iff.mpr ⟨?_, by simp [hopen, hclose]⟩
  intro v hv
  have hcount := hv.sublist.count_le ')'
  rw [List.count_singleton, beq_false_of_ne hclose] at hcount
  exact hcount.trans (Nat.zero_le _)

theorem Balanced.append (h : Balanced l) (h' : Balanced l') : Balanced (l ++ l') := by
  rw [balanced_iff] at h h' ⊢
  refine ⟨h.1.append h'.1, ?_⟩
  rw [List.count_append, List.count_append, h.2, h'.2]

theorem Balanced.parenthesize (h : Balanced l) : Balanced ('(' :: l ++ [')']) := by
  rw [balanced_iff] at h ⊢
  refine ⟨?_, by simp [List.count_append, h.2]⟩
  intro v hv
  rcases List.prefix_concat_iff.mp hv with rfl | hv
  · simp [List.count_append, h.2]
  · exact (covered_open.append h.1) v hv

theorem Balanced.covered (h : Balanced l) : Covered l := (balanced_iff.mp h).1

theorem Balanced.count_eq (h : Balanced l) : l.count ')' = l.count '(' := (balanced_iff.mp h).2

end Balances

section Positions

variable {before : List Nat} {position : Nat}

theorem openPositionsFrom_of_covered (h : Covered l) (before : List Nat) (position : Nat) :
    ∃ opened, openPositionsFrom before position l = opened ++ before ∧
      opened.length + l.count ')' = l.count '(' := by
  induction l using List.reverseRecOn with
  | nil => exact ⟨[], rfl, rfl⟩
  | append_singleton l c ih =>
    obtain ⟨opened, hopened, hlength⟩ := ih (h.of_isPrefix (List.prefix_append l [c]))
    rw [openPositionsFrom_concat, hopened]
    split_ifs with hopen hclose
    · subst hopen
      refine ⟨(position + l.length) :: opened, rfl, ?_⟩
      simp [List.count_append]
      omega
    · subst hclose
      have hlt := h.count_lt
      cases opened with
      | nil =>
        rw [List.length_nil] at hlength
        omega
      | cons m opened =>
        refine ⟨opened, rfl, ?_⟩
        rw [List.length_cons] at hlength
        simp [List.count_append]
        omega
    · refine ⟨opened, rfl, ?_⟩
      simpa [List.count_append, hopen, hclose] using hlength

theorem openPositionsFrom_of_balanced (h : Balanced l) (before : List Nat) (position : Nat) :
    openPositionsFrom before position l = before := by
  obtain ⟨opened, hopened, hlength⟩ := openPositionsFrom_of_covered h.covered before position
  have hzero : opened.length = 0 := by
    rw [h.count_eq] at hlength
    omega
  rw [hopened, List.length_eq_zero_iff.mp hzero, List.nil_append]

theorem length_openPositions_of_covered (h : Covered l) :
    (openPositions l).length + l.count ')' = l.count '(' := by
  obtain ⟨opened, hopened, hlength⟩ := openPositionsFrom_of_covered h [] 0
  rw [openPositions, hopened, List.append_nil, hlength]

end Positions

end ShuntingYard
