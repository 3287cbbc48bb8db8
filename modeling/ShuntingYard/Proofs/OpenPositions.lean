import ShuntingYard.Brackets
import ShuntingYard.Proofs.Decreasing

/-!
# Open parentheses

How the open parentheses change from one symbol to the next. They lie before the end of what has
been read, are listed from the innermost, and stay open until a closing parenthesis comes at which
no parenthesis inside them is open.
-/
namespace ShuntingYard

variable {l : List Char} {c : Char} {i j k : Nat}

theorem openPositionsFrom_append (before : List Nat) (position : Nat) (l l' : List Char) :
    openPositionsFrom before position (l ++ l') =
      openPositionsFrom (openPositionsFrom before position l) (position + l.length) l' := by
  induction l generalizing before position with
  | nil => rfl
  | cons c l ih =>
    rw [List.cons_append, openPositionsFrom, openPositionsFrom, ih, List.length_cons,
      Nat.add_assoc, Nat.add_comm 1]

theorem openPositionsFrom_concat (before : List Nat) (position : Nat) (l : List Char) (c : Char) :
    openPositionsFrom before position (l ++ [c]) =
      if c = '(' then (position + l.length) :: openPositionsFrom before position l
      else if c = ')' then (openPositionsFrom before position l).tail
      else openPositionsFrom before position l := by
  rw [openPositionsFrom_append]
  rfl

theorem openPositions_take_succ (hc : l[k]? = some c) :
    openPositions (l.take (k + 1)) =
      if c = '(' then k :: openPositions (l.take k)
      else if c = ')' then (openPositions (l.take k)).tail
      else openPositions (l.take k) := by
  have hk : k < l.length := (List.getElem?_eq_some_iff.mp hc).1
  have hlength : (l.take k).length = k := List.length_take_of_le hk.le
  rw [List.take_add_one, hc, openPositions, openPositionsFrom_append, hlength, Nat.zero_add]
  rfl

theorem mem_openPositions_take_succ (hc : l[k]? = some c)
    (h : i ∈ openPositions (l.take (k + 1))) :
    i ∈ openPositions (l.take k) ∨ i = k ∧ c = '(' := by
  rw [openPositions_take_succ hc] at h
  split_ifs at h with hopen hclose
  · rcases List.mem_cons.mp h with rfl | h
    · exact Or.inr ⟨rfl, hopen⟩
    · exact Or.inl h
  · exact Or.inl (List.mem_of_mem_tail h)
  · exact Or.inl h

theorem openPositions_take_succ_of_le (hk : l.length ≤ k) :
    openPositions (l.take (k + 1)) = openPositions (l.take k) := by
  rw [List.take_of_length_le hk, List.take_of_length_le (hk.trans (Nat.le_succ k))]

theorem lt_and_getElem?_of_mem_openPositions (h : i ∈ openPositions (l.take k)) :
    i < k ∧ l[i]? = some '(' := by
  induction k with
  | zero => cases h
  | succ k ih =>
    cases hc : l[k]? with
    | none =>
      rw [openPositions_take_succ_of_le (List.getElem?_eq_none_iff.mp hc)] at h
      exact ⟨(ih h).1.trans (Nat.lt_succ_self k), (ih h).2⟩
    | some c =>
      rcases mem_openPositions_take_succ hc h with h | ⟨rfl, rfl⟩
      · exact ⟨(ih h).1.trans (Nat.lt_succ_self k), (ih h).2⟩
      · exact ⟨Nat.lt_succ_self i, hc⟩

theorem pairwise_openPositions (l : List Char) (k : Nat) :
    (openPositions (l.take k)).Pairwise (· > ·) := by
  induction k with
  | zero => exact List.Pairwise.nil
  | succ k ih =>
    cases hc : l[k]? with
    | none => rwa [openPositions_take_succ_of_le (List.getElem?_eq_none_iff.mp hc)]
    | some c =>
      rw [openPositions_take_succ hc]
      split_ifs
      · exact List.pairwise_cons.mpr
          ⟨fun m hm => (lt_and_getElem?_of_mem_openPositions hm).1, ih⟩
      · exact ih.tail
      · exact ih

/-- A parenthesis that does not stay open is closed on the way, at a time when none inside it is
open. -/
theorem exists_close (hjk : j ≤ k) (hj : i ∈ openPositions (l.take j))
    (hk : i ∉ openPositions (l.take k)) :
    ∃ t, j ≤ t ∧ t < k ∧ l[t]? = some ')' ∧ ∀ m ∈ openPositions (l.take t), m ≤ i := by
  induction k, hjk using Nat.le_induction with
  | base => exact absurd hj hk
  | succ k hjk ih =>
    by_cases hmem : i ∈ openPositions (l.take k)
    · cases hc : l[k]? with
      | none =>
        rw [openPositions_take_succ_of_le (List.getElem?_eq_none_iff.mp hc)] at hk
        exact absurd hmem hk
      | some c =>
        refine ⟨k, hjk, Nat.lt_succ_self k, ?_⟩
        rw [openPositions_take_succ hc] at hk
        have hpairs := pairwise_openPositions l k
        split_ifs at hk with hopen hclose
        · exact absurd (List.mem_cons_of_mem k hmem) hk
        · refine ⟨by rw [hc, hclose], ?_⟩
          cases hlist : openPositions (l.take k) with
          | nil => simp [hlist] at hmem
          | cons m rest =>
            rw [hlist] at hmem hk hpairs
            obtain rfl : i = m := (List.mem_cons.mp hmem).resolve_right hk
            exact fun m' hm' => le_of_mem_decreasing hpairs hm'
        · exact absurd hmem hk
    · obtain ⟨t, hjt, htk, hclose⟩ := ih hmem
      exact ⟨t, hjt, htk.trans (Nat.lt_succ_self k), hclose⟩

end ShuntingYard
