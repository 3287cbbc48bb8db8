import Mathlib.Data.List.Sort

/-!
# Decreasing lists

Lists of positions with the latest first, as they stand on a stack. What is taken from the top of
such a list is determined by its members alone.
-/
namespace ShuntingYard

section Split

variable {α : Type} {p q : α → Bool} {xs : List α} {a : α}

theorem takeWhile_eq_of_forall_mem (h : ∀ a ∈ xs, p a = q a) : xs.takeWhile p = xs.takeWhile q := by
  induction xs with
  | nil => rfl
  | cons a xs ih =>
    rw [List.forall_mem_cons] at h
    simp only [List.takeWhile_cons, h.1, ih h.2]

theorem dropWhile_eq_of_forall_mem (h : ∀ a ∈ xs, p a = q a) : xs.dropWhile p = xs.dropWhile q := by
  induction xs with
  | nil => rfl
  | cons a xs ih =>
    rw [List.forall_mem_cons] at h
    simp only [List.dropWhile_cons, h.1, ih h.2]

/-- Of a list whose accepted items come first, exactly these are taken. -/
theorem takeWhile_eq_filter (h : xs.Pairwise fun a b => p b = true → p a = true) :
    xs.takeWhile p = xs.filter p := by
  induction xs with
  | nil => rfl
  | cons a xs ih =>
    obtain ⟨habove, hrest⟩ := List.pairwise_cons.mp h
    cases ha : p a with
    | true => rw [List.takeWhile_cons_of_pos ha, List.filter_cons_of_pos ha, ih hrest]
    | false =>
      have hnone : ∀ b ∈ xs, ¬ p b = true := by
        intro b hb haccepted
        rw [habove b hb haccepted] at ha
        cases ha
      rw [List.takeWhile_cons_of_neg (by simp [ha]), List.filter_cons_of_neg (by simp [ha]),
        List.filter_eq_nil_iff.mpr hnone]

theorem dropWhile_eq_filter (h : xs.Pairwise fun a b => p b = true → p a = true) :
    xs.dropWhile p = xs.filter (fun a => !p a) := by
  induction xs with
  | nil => rfl
  | cons a xs ih =>
    obtain ⟨habove, hrest⟩ := List.pairwise_cons.mp h
    cases ha : p a with
    | true => rw [List.dropWhile_cons_of_pos ha, List.filter_cons_of_neg (by simp [ha]), ih hrest]
    | false =>
      have hall : ∀ b ∈ a :: xs, (!p b) = true := by
        intro b hb
        rcases List.mem_cons.mp hb with rfl | hb
        · simp [ha]
        · by_contra haccepted
          rw [habove b hb (by simpa using haccepted)] at ha
          cases ha
      rw [List.dropWhile_cons_of_neg (by simp [ha]), List.filter_eq_self.mpr hall]

theorem mem_dropWhile_iff (h : xs.Nodup) :
    a ∈ xs.dropWhile p ↔ a ∈ xs ∧ a ∉ xs.takeWhile p := by
  have hsplit := List.takeWhile_append_dropWhile (p := p) (l := xs)
  have hdisjoint : (xs.takeWhile p).Disjoint (xs.dropWhile p) := by
    rw [← hsplit] at h
    exact List.disjoint_of_nodup_append h
  constructor
  · intro ha
    exact ⟨(List.dropWhile_sublist p).subset ha, fun htaken => hdisjoint htaken ha⟩
  · intro ha
    have hmem : a ∈ xs.takeWhile p ++ xs.dropWhile p := by
      rw [hsplit]
      exact ha.1
    exact (List.mem_append.mp hmem).resolve_left ha.2

theorem mem_tail_iff (h : xs.Nodup) : a ∈ xs.tail ↔ a ∈ xs ∧ xs.head? ≠ some a := by
  cases xs with
  | nil => simp
  | cons b xs =>
    have hb := (List.nodup_cons.mp h).1
    simp only [List.tail_cons, List.mem_cons, List.head?_cons, ne_eq, Option.some.injEq]
    constructor
    · intro ha
      exact ⟨Or.inr ha, fun hba => hb (hba ▸ ha)⟩
    · intro ha
      exact ha.1.resolve_left fun hab => ha.2 hab.symm

end Split

section Positions

variable {xs : List Nat} {i m : Nat}

theorem le_of_mem_decreasing (h : (m :: xs).Pairwise (· > ·)) (hi : i ∈ m :: xs) : i ≤ m := by
  rcases List.mem_cons.mp hi with rfl | hi
  · exact le_rfl
  · exact (List.rel_of_pairwise_cons h hi).le

/-- What is taken while a condition holds are the items that have only accepted ones above them. -/
theorem mem_takeWhile_iff {p : Nat → Bool} (h : xs.Pairwise (· > ·)) :
    i ∈ xs.takeWhile p ↔ i ∈ xs ∧ ∀ j ∈ xs, i ≤ j → p j = true := by
  induction xs with
  | nil => simp
  | cons a xs ih =>
    have habove := (List.pairwise_cons.mp h).1
    cases ha : p a with
    | false =>
      rw [List.takeWhile_cons_of_neg (by simp [ha])]
      constructor
      · intro hi
        cases hi
      · intro hi
        rw [hi.2 a List.mem_cons_self (le_of_mem_decreasing h hi.1)] at ha
        cases ha
    | true =>
      rw [List.takeWhile_cons_of_pos ha, List.mem_cons, List.mem_cons, ih h.tail,
        List.forall_mem_cons]
      constructor
      · intro hi
        rcases hi with rfl | hi
        · refine ⟨Or.inl rfl, fun _ => ha, fun j hj hij => ?_⟩
          exact absurd hij (Nat.not_le.mpr (habove j hj))
        · exact ⟨Or.inr hi.1, fun _ => ha, hi.2⟩
      · intro hi
        exact hi.1.imp id fun hmem => ⟨hmem, hi.2.2⟩

end Positions

end ShuntingYard
