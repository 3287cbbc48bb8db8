import ShuntingYard.Emission
import ShuntingYard.Proofs.OpenPositions
import ShuntingYard.Proofs.Steps

/-!
# Emission times of single positions

What the definition of emission times says for each class of symbols. An operator holds until the
first later symbol that releases it; a symbol that frees no operator releases none.
-/
namespace ShuntingYard

variable {l : List Char} {c : Char} {o : Operator} {i j k : Nat}

section Operators

theorem operator_eq {p : Operator} (ho : l[i]? = some o.symbol) (hp : l[i]? = some p.symbol) :
    o = p := by
  rw [ho, Option.some.injEq] at hp
  exact Operator.symbol_inj.mp hp

theorem operator_notMem_openPositions (hi : l[i]? = some o.symbol) :
    i ∉ openPositions (l.take k) := by
  intro h
  have hopen := (lt_and_getElem?_of_mem_openPositions h).2
  rw [hi, Option.some.injEq] at hopen
  exact symbol_ne_open o hopen

end Operators

section Releases

/-- Whether an incoming symbol frees a waiting operator that nothing shields. -/
def frees (c : Char) (o : Operator) : Bool :=
  c == ')' || (strength? c).any (· ≤ o.precedence)

theorem releases_iff (hc : l[k]? = some c) : releases l i o.precedence k = true ↔
    (∀ m ∈ openPositions (l.take k), m < i) ∧ frees c o = true := by
  simp [releases, hc, frees]

theorem frees_symbol (p : Operator) : frees p.symbol o = decide (p.precedence ≤ o.precedence) := by
  simp [frees, symbol_ne_close, Operator.strength?_symbol]

theorem frees_close (o : Operator) : frees ')' o = true := by simp [frees]

theorem frees_open (o : Operator) : frees '(' o = false := by simp [frees, strength?]

theorem frees_digit (h : c.isDigit = true) (o : Operator) : frees c o = false := by
  simp [frees, Operator.strength?_eq, ofSymbol?_eq_none_of_isDigit h, ne_close_of_isDigit h]

theorem frees_foreign (h : isSymbol c = false) (o : Operator) : frees c o = false := by
  obtain ⟨_, hoperator, _, hclose⟩ := not_symbol h
  simp [frees, Operator.strength?_eq, hoperator, hclose]

theorem frees_mono {p : Operator} (h : frees c o = true) (hop : o.precedence ≤ p.precedence) :
    frees c p = true := by
  simp only [frees, Bool.or_eq_true, Option.any_eq_true, decide_eq_true_eq] at h ⊢
  rcases h with h | ⟨q, hq, hqo⟩
  · exact Or.inl h
  · exact Or.inr ⟨q, hq, hqo.trans hop⟩

def Holds (l : List Char) (i : Nat) (o : Operator) (k : Nat) : Prop :=
  ∀ j, i < j → j < k → releases l i o.precedence j = false

theorem holds_succ_iff (hik : i < k) :
    Holds l i o (k + 1) ↔ Holds l i o k ∧ releases l i o.precedence k = false := by
  constructor
  · intro h
    exact ⟨fun j hij hjk => h j hij (by omega), h k hik (by omega)⟩
  · intro h j hij hjk
    rcases Nat.lt_succ_iff_lt_or_eq.mp hjk with hjk | rfl
    · exact h.1 j hij hjk
    · exact h.2

end Releases

section Times

theorem positionsAfter_eq (l : List Char) (i : Nat) :
    positionsAfter l i = List.range' (i + 1) (l.length - (i + 1)) := by
  simp [positionsAfter, List.range_eq_range', List.drop_range']

/-- The first time at which an operator is released, or the end. -/
def releaseTime (l : List Char) (i : Nat) (o : Operator) : Nat :=
  ((positionsAfter l i).find? (releases l i o.precedence)).getD l.length

/-- An operator holds to the end, or until the first later symbol that releases it. -/
theorem releaseTime_spec (l : List Char) (i : Nat) (o : Operator) :
    (releaseTime l i o = l.length ∧ Holds l i o l.length) ∨
      ∃ t, releaseTime l i o = t ∧ i < t ∧ t < l.length ∧ Holds l i o t ∧
        releases l i o.precedence t = true := by
  unfold releaseTime
  rw [positionsAfter_eq]
  cases hfind : (List.range' (i + 1) (l.length - (i + 1))).find? (releases l i o.precedence) with
  | none =>
    have hnone := List.find?_range'_eq_none.mp hfind
    refine Or.inl ⟨rfl, ?_⟩
    intro j hij hjl
    simpa using hnone j hij (by omega)
  | some t =>
    obtain ⟨hreleases, hmem, hfirst⟩ := List.find?_range'_eq_some.mp hfind
    have hrange := List.mem_range'_1.mp hmem
    refine Or.inr ⟨t, rfl, hrange.1, by omega, ?_, hreleases⟩
    intro j hij hjt
    simpa using hfirst j hij hjt

theorem Holds.le_of_releases (h : Holds l i o k) (hij : i < j)
    (hj : releases l i o.precedence j = true) : k ≤ j := by
  by_contra hlt
  have hnot := h j hij (Nat.not_le.mp hlt)
  rw [hj] at hnot
  cases hnot

theorem releaseTime_eq_iff (hk : k < l.length) :
    releaseTime l i o = k ↔ i < k ∧ Holds l i o k ∧ releases l i o.precedence k = true := by
  rcases releaseTime_spec l i o with hend | ⟨t, ht, hit, -, hholds, hreleases⟩
  · constructor
    · intro h
      exact absurd (hend.1.symm.trans h) hk.ne'
    · intro h
      exact absurd (hend.2.le_of_releases h.1 h.2.2) (Nat.not_le.mpr hk)
  · rw [ht]
    constructor
    · intro htk
      rw [← htk]
      exact ⟨hit, hholds, hreleases⟩
    · intro h
      have htk : t ≤ k := hholds.le_of_releases h.1 h.2.2
      have hkt : k ≤ t := h.2.1.le_of_releases hit hreleases
      exact htk.antisymm hkt

theorem releaseTime_eq_length_iff : releaseTime l i o = l.length ↔ Holds l i o l.length := by
  rcases releaseTime_spec l i o with hend | ⟨t, ht, hit, htl, -, hreleases⟩
  · exact iff_of_true hend.1 hend.2
  · rw [ht]
    apply iff_of_false htl.ne
    intro h
    exact absurd (h.le_of_releases hit hreleases) (Nat.not_le.mpr htl)

/-- Digits are emitted at once, operators when they are released and open parentheses at the end. -/
theorem emissionTime?_eq_some_iff : emissionTime? l i = some k ↔
    (∃ c, l[i]? = some c ∧ c.isDigit = true ∧ i = k) ∨
    (i ∈ openPositions l ∧ l.length = k) ∨
    ∃ o : Operator, l[i]? = some o.symbol ∧ releaseTime l i o = k := by
  have hopen (h : i ∈ openPositions l) : l[i]? = some '(' :=
    (lt_and_getElem?_of_mem_openPositions (k := l.length) (by rwa [List.take_length])).2
  cases hi : l[i]? with
  | none =>
    have hnot : i ∉ openPositions l := fun h => by simp [hopen h] at hi
    simp [emissionTime?, hi, hnot]
  | some c =>
    have hnot (hc : c ≠ '(') : i ∉ openPositions l := fun h =>
      hc (Option.some.inj (hi.symm.trans (hopen h)))
    induction c using symbol_cases with
    | foreign c h =>
      obtain ⟨hdigit, hno, hparen, -⟩ := not_symbol h
      simp [emissionTime?, hi, Operator.strength?_eq, hdigit, hparen, hnot hparen, hno,
        ne_symbol hno]
    | digit c h =>
      have hno := ofSymbol?_eq_none_of_isDigit h
      simp [emissionTime?, hi, h, hnot (ne_open_of_isDigit h), ne_symbol hno]
    | operator o =>
      simp [emissionTime?, hi, symbol_ne_open, hnot (symbol_ne_open o), releaseTime,
        Operator.strength?_symbol, Operator.symbol_inj]
    | opening =>
      have hne := ne_symbol ofSymbol?_open
      by_cases h : i ∈ openPositions l
      · simp [emissionTime?, hi, hne, h, guard]
      · simp [emissionTime?, hi, hne, h, guard]
    | closing =>
      have hne := ne_symbol ofSymbol?_close
      simp [emissionTime?, hi, hne, hnot (by decide), strength?]

theorem lt_length_of_emissionTime? (h : emissionTime? l i = some k) : i < l.length := by
  by_contra hi
  simp [emissionTime?, List.getElem?_eq_none (Nat.not_lt.mp hi)] at h

theorem emissionTime?_le_length (h : emissionTime? l i = some k) : k ≤ l.length := by
  rcases emissionTime?_eq_some_iff.mp h with ⟨c, -, -, hik⟩ | ⟨-, hend⟩ | ⟨o, -, htime⟩
  · have hi := lt_length_of_emissionTime? h
    omega
  · exact hend.ge
  · rcases releaseTime_spec l i o with hend | ⟨t, ht, -, htl, -⟩
    · omega
    · omega

theorem mem_emittedAt : i ∈ emittedAt l k ↔ emissionTime? l i = some k := by
  unfold emittedAt
  rw [List.mem_filter, List.mem_reverse, List.mem_range, beq_iff_eq]
  constructor
  · intro h
    exact h.2
  · intro h
    exact ⟨lt_length_of_emissionTime? h, h⟩

theorem mem_flatMap_emittedAt :
    i ∈ (List.range (l.length + 1)).flatMap (emittedAt l) ↔ ∃ k, emissionTime? l i = some k := by
  simp only [List.mem_flatMap, List.mem_range, mem_emittedAt]
  constructor
  · intro h
    obtain ⟨k, -, htime⟩ := h
    exact ⟨k, htime⟩
  · intro h
    obtain ⟨k, htime⟩ := h
    exact ⟨k, Nat.lt_succ_of_le (emissionTime?_le_length htime), htime⟩

theorem pairwise_emittedAt (l : List Char) (k : Nat) : (emittedAt l k).Pairwise (· > ·) := by
  apply List.Pairwise.filter
  rw [List.pairwise_reverse]
  exact List.pairwise_lt_range

end Times

end ShuntingYard
