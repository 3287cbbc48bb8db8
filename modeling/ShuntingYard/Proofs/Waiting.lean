import ShuntingYard.Proofs.EmissionTimes

/-!
# Waiting positions

The positions whose symbols wait for their emission after a number of symbols: the parentheses that
are open and the operators that nothing has released. Between two open parentheses the operators
that wait bind more and more tightly, since a later one that bound no tighter would have released an
earlier one. Those that are emitted next are therefore the latest ones, up to the first that the
next symbol does not free.
-/
namespace ShuntingYard

variable {l : List Char} {c : Char} {o : Operator} {i j k : Nat}

/-- The positions whose symbols wait after the first symbols, the latest first. -/
def waiting (l : List Char) (k : Nat) : List Nat :=
  (List.range k).reverse.filter fun i =>
    (openPositions (l.take k)).contains i || ((l[i]?).bind Operator.ofSymbol?).any fun o =>
      (List.range' (i + 1) (k - (i + 1))).all fun j => !releases l i o.precedence j

theorem pairwise_waiting (l : List Char) (k : Nat) : (waiting l k).Pairwise (· > ·) := by
  apply List.Pairwise.filter
  rw [List.pairwise_reverse]
  exact List.pairwise_lt_range

theorem mem_waiting : i ∈ waiting l k ↔ i ∈ openPositions (l.take k) ∨
    ∃ o : Operator, l[i]? = some o.symbol ∧ i < k ∧ Holds l i o k := by
  have hall (o : Operator) : ((List.range' (i + 1) (k - (i + 1))).all fun j =>
      !releases l i o.precedence j) = true ↔ Holds l i o k := by
    rw [List.all_eq_true]
    constructor
    · intro h j hij hjk
      simpa using h j (List.mem_range'_1.mpr (by omega))
    · intro h j hj
      rw [List.mem_range'_1] at hj
      simpa using h j (by omega) (by omega)
  simp only [waiting, List.mem_filter, List.mem_reverse, List.mem_range, Bool.or_eq_true,
    List.contains_iff_mem, Option.any_eq_true, Option.bind_eq_some_iff,
    Operator.ofSymbol?_eq_some_iff, hall]
  constructor
  · intro h
    rcases h with ⟨hik, hopen | ⟨o, ⟨_, hi, rfl⟩, hholds⟩⟩
    · exact Or.inl hopen
    · exact Or.inr ⟨o, hi, hik, hholds⟩
  · intro h
    rcases h with hopen | ⟨o, hi, hik, hholds⟩
    · exact ⟨(lt_and_getElem?_of_mem_openPositions hopen).1, Or.inl hopen⟩
    · exact ⟨hik, Or.inr ⟨o, ⟨_, hi, rfl⟩, hholds⟩⟩

/-- Operators that wait with no open parenthesis behind the first of them bind more and more
tightly. -/
theorem precedence_lt_of_holds {p : Operator} (hj : l[j]? = some p.symbol) (hij : i < j)
    (hjk : j < k) (hholds : Holds l i o k) (hholds' : Holds l j p k)
    (hopen : ∀ m ∈ openPositions (l.take k), m < i) :
    o.precedence < p.precedence := by
  have hnot : ¬ releases l i o.precedence j = true := by simp [hholds j hij hjk]
  rw [releases_iff hj, frees_symbol, decide_eq_true_iff] at hnot
  by_contra hlt
  apply hnot
  refine ⟨?_, Nat.not_lt.mp hlt⟩
  intro m hm
  by_contra him
  -- A parenthesis that shields `i` from `j` is closed before `k`, and that releases `j`.
  have hmk : m ∉ openPositions (l.take k) := fun h => him (hopen m h)
  obtain ⟨t, hjt, htk, hclose, hinner⟩ := exists_close hjk.le hm hmk
  have hmj := (lt_and_getElem?_of_mem_openPositions hm).1
  have hne : j ≠ t := by
    intro hjt
    rw [← hjt, hj, Option.some.injEq] at hclose
    exact symbol_ne_close p hclose
  have hreleases : releases l j p.precedence t = true :=
    (releases_iff hclose).mpr ⟨fun m' hm' => (hinner m' hm').trans_lt hmj, frees_close p⟩
  rw [hholds' t (by omega) htk] at hreleases
  cases hreleases

def isFreedBy (l : List Char) (c : Char) (i : Nat) : Bool :=
  ((l[i]?).bind Operator.ofSymbol?).any (frees c)

theorem isFreedBy_operator (hi : l[i]? = some o.symbol) : isFreedBy l c i = frees c o := by
  simp [isFreedBy, hi, Operator.ofSymbol?_symbol]

theorem isFreedBy_open (hi : i ∈ openPositions (l.take k)) : isFreedBy l c i = false := by
  simp [isFreedBy, (lt_and_getElem?_of_mem_openPositions hi).2]

def freed (l : List Char) (c : Char) (k : Nat) : List Nat :=
  (waiting l k).takeWhile (isFreedBy l c)

def kept (l : List Char) (c : Char) (k : Nat) : List Nat :=
  (waiting l k).dropWhile (isFreedBy l c)

theorem freed_idle (h : ∀ o, frees c o = false) : freed l c k = [] := by
  have hfrees : frees c = fun _ => false := funext h
  have hnone : isFreedBy l c = fun _ => false := funext fun i => by simp [isFreedBy, hfrees]
  cases hw : waiting l k with
  | nil => rw [freed, hw, List.takeWhile_nil]
  | cons i rest => rw [freed, hw, hnone, List.takeWhile_cons_of_neg (by simp)]

theorem kept_idle (h : ∀ o, frees c o = false) : kept l c k = waiting l k := by
  have hsplit := List.takeWhile_append_dropWhile (p := isFreedBy l c) (l := waiting l k)
  rwa [← freed, ← kept, freed_idle h, List.nil_append] at hsplit

theorem pairwise_freed : (freed l c k).Pairwise (· > ·) :=
  (pairwise_waiting l k).sublist (List.takeWhile_sublist _)

theorem pairwise_kept : (kept l c k).Pairwise (· > ·) :=
  (pairwise_waiting l k).sublist (List.dropWhile_sublist _)

theorem mem_waiting_operator (hi : l[i]? = some o.symbol) :
    i ∈ waiting l k ↔ i < k ∧ Holds l i o k := by
  rw [mem_waiting]
  constructor
  · intro h
    rcases h with hopen | ⟨p, hp, hwaits⟩
    · exact absurd hopen (operator_notMem_openPositions hi)
    · rw [operator_eq hi hp]
      exact hwaits
  · intro h
    exact Or.inr ⟨o, hi, h⟩

/-- The freed symbols are the operators that the incoming one releases. No operator above one of
them stops the symbol on its way down, since that binds more tightly and is freed as well. -/
theorem mem_freed (hc : l[k]? = some c) : i ∈ freed l c k ↔
    ∃ o : Operator, l[i]? = some o.symbol ∧ i < k ∧ Holds l i o k ∧
      releases l i o.precedence k = true := by
  unfold freed
  rw [mem_takeWhile_iff (pairwise_waiting l k)]
  constructor
  · intro h
    obtain ⟨hi, hall⟩ := h
    have hfreed := hall i hi le_rfl
    rcases mem_waiting.mp hi with hopen | ⟨o, hio, hik, hholds⟩
    · rw [isFreedBy_open hopen] at hfreed
      cases hfreed
    · rw [isFreedBy_operator hio] at hfreed
      have hshield : ∀ m ∈ openPositions (l.take k), m < i := by
        intro m hm
        by_contra hmi
        have hm' := hall m (mem_waiting.mpr (Or.inl hm)) (Nat.not_lt.mp hmi)
        rw [isFreedBy_open hm] at hm'
        cases hm'
      exact ⟨o, hio, hik, hholds, (releases_iff hc).mpr ⟨hshield, hfreed⟩⟩
  · intro h
    obtain ⟨o, hi, hik, hholds, hreleases⟩ := h
    obtain ⟨hshield, hfrees⟩ := (releases_iff hc).mp hreleases
    refine ⟨(mem_waiting_operator hi).mpr ⟨hik, hholds⟩, ?_⟩
    intro j hj hij
    rcases mem_waiting.mp hj with hopen | ⟨p, hjp, hjk, hholds'⟩
    · exact absurd (hshield j hopen) (Nat.not_lt.mpr hij)
    · rw [isFreedBy_operator hjp]
      rcases hij.eq_or_lt with rfl | hij
      · rw [← operator_eq hi hjp]
        exact hfrees
      · have htight := precedence_lt_of_holds hjp hij hjk hholds hholds' hshield
        exact frees_mono hfrees htight.le

theorem mem_kept_iff : i ∈ kept l c k ↔ i ∈ waiting l k ∧ i ∉ freed l c k :=
  mem_dropWhile_iff (pairwise_waiting l k).nodup

theorem mem_kept_operator (hc : l[k]? = some c) (hi : l[i]? = some o.symbol) :
    i ∈ kept l c k ↔ i < k ∧ Holds l i o (k + 1) := by
  rw [mem_kept_iff, mem_waiting_operator hi, mem_freed hc]
  constructor
  · intro h
    obtain ⟨⟨hik, hholds⟩, hnot⟩ := h
    refine ⟨hik, (holds_succ_iff hik).mpr ⟨hholds, ?_⟩⟩
    by_contra hreleases
    exact hnot ⟨o, hi, hik, hholds, by simpa using hreleases⟩
  · intro h
    obtain ⟨hholds, hkept⟩ := (holds_succ_iff h.1).mp h.2
    refine ⟨⟨h.1, hholds⟩, ?_⟩
    intro hfreed
    obtain ⟨p, hp, -, -, hreleases⟩ := hfreed
    rw [← operator_eq hi hp, hkept] at hreleases
    cases hreleases

theorem mem_kept_of_mem_openPositions (h : i ∈ openPositions (l.take k)) : i ∈ kept l c k := by
  have hwaits : i ∈ waiting l k := mem_waiting.mpr (Or.inl h)
  refine mem_kept_iff.mpr ⟨hwaits, ?_⟩
  intro htaken
  have hfreed := ((mem_takeWhile_iff (pairwise_waiting l k)).mp htaken).2 i hwaits le_rfl
  rw [isFreedBy_open h] at hfreed
  cases hfreed

theorem mem_kept_cases (h : i ∈ kept l c k) :
    i ∈ openPositions (l.take k) ∨ ∃ o : Operator, l[i]? = some o.symbol := by
  rcases mem_waiting.mp (mem_kept_iff.mp h).1 with hopen | ⟨o, hi, -⟩
  · exact Or.inl hopen
  · exact Or.inr ⟨o, hi⟩

theorem lt_of_mem_waiting (h : i ∈ waiting l k) : i < k := by
  rcases mem_waiting.mp h with hopen | ⟨o, -, hik, -⟩
  · exact (lt_and_getElem?_of_mem_openPositions hopen).1
  · exact hik

/-- The operators that wait next are the new one and those that are kept. -/
theorem mem_waiting_succ (hc : l[k]? = some c) : i ∈ waiting l (k + 1) ↔
    i ∈ openPositions (l.take (k + 1)) ∨
      (∃ o : Operator, l[i]? = some o.symbol) ∧ (i = k ∨ i ∈ kept l c k) := by
  rw [mem_waiting]
  apply or_congr_right
  constructor
  · intro h
    obtain ⟨o, hi, hik, hholds⟩ := h
    refine ⟨⟨o, hi⟩, ?_⟩
    rcases Nat.lt_succ_iff_lt_or_eq.mp hik with hik | hik
    · exact Or.inr ((mem_kept_operator hc hi).mpr ⟨hik, hholds⟩)
    · exact Or.inl hik
  · intro h
    obtain ⟨⟨o, hi⟩, hik | hkept⟩ := h
    · refine ⟨o, hi, by omega, ?_⟩
      intro j hij hjk
      omega
    · obtain ⟨hik, hholds⟩ := (mem_kept_operator hc hi).mp hkept
      exact ⟨o, hi, by omega, hholds⟩

section Next

theorem mem_waiting_succ_of_ne_close (hc : l[k]? = some c) (hclose : c ≠ ')') :
    i ∈ waiting l (k + 1) ↔
      i = k ∧ (c = '(' ∨ ∃ o : Operator, c = o.symbol) ∨ i ∈ kept l c k := by
  rw [mem_waiting_succ hc]
  constructor
  · intro h
    rcases h with hopen | ⟨⟨o, hi⟩, hik | hkept⟩
    · rcases mem_openPositions_take_succ hc hopen with hopen | hnew
      · exact Or.inr (mem_kept_of_mem_openPositions hopen)
      · exact Or.inl ⟨hnew.1, Or.inl hnew.2⟩
    · rw [hik, hc, Option.some.injEq] at hi
      exact Or.inl ⟨hik, Or.inr ⟨o, hi⟩⟩
    · exact Or.inr hkept
  · intro h
    rw [openPositions_take_succ hc, if_neg hclose]
    rcases h with ⟨rfl, hopen | ⟨o, ho⟩⟩ | hkept
    · rw [if_pos hopen]
      exact Or.inl List.mem_cons_self
    · exact Or.inr ⟨⟨o, by rw [hc, ho]⟩, Or.inl rfl⟩
    · rcases mem_kept_cases hkept with hopen | hoperator
      · split_ifs
        · exact Or.inl (List.mem_cons_of_mem k hopen)
        · exact Or.inl hopen
      · exact Or.inr ⟨hoperator, Or.inr hkept⟩

theorem waiting_succ_idle (hc : l[k]? = some c) (hopen : c ≠ '(') (hclose : c ≠ ')')
    (hno : Operator.ofSymbol? c = none) : waiting l (k + 1) = kept l c k := by
  apply (pairwise_waiting l (k + 1)).eq_of_mem_iff pairwise_kept
  intro i
  simp [mem_waiting_succ_of_ne_close hc hclose, hopen, ne_symbol hno]

theorem waiting_succ_push (hc : l[k]? = some c) (hclose : c ≠ ')')
    (hwaits : c = '(' ∨ ∃ o : Operator, c = o.symbol) : waiting l (k + 1) = k :: kept l c k := by
  have hbefore : ∀ i ∈ kept l c k, i < k := fun i hi => lt_of_mem_waiting (mem_kept_iff.mp hi).1
  apply (pairwise_waiting l (k + 1)).eq_of_mem_iff
    (List.pairwise_cons.mpr ⟨hbefore, pairwise_kept⟩)
  intro i
  simp [mem_waiting_succ_of_ne_close hc hclose, hwaits]

theorem mem_openPositions_of_head?_kept (h : (kept l ')' k).head? = some i) :
    i ∈ openPositions (l.take k) := by
  rcases mem_kept_cases (List.mem_of_head? h) with hopen | ⟨o, hi⟩
  · exact hopen
  · have hnot := List.head?_dropWhile_not (isFreedBy l ')') (waiting l k)
    rw [← kept, h] at hnot
    simp only [isFreedBy_operator hi, frees_close] at hnot
    cases hnot

/-- A closing parenthesis frees all operators behind its partner, so that the partner is on top of
what is kept. -/
theorem head?_kept_close (l : List Char) (k : Nat) :
    (kept l ')' k).head? = (openPositions (l.take k)).head? := by
  have hkept {m : Nat} (hm : m ∈ openPositions (l.take k)) : m ∈ kept l ')' k :=
    mem_kept_of_mem_openPositions hm
  cases ht : kept l ')' k with
  | nil =>
    cases hm : openPositions (l.take k) with
    | nil => rfl
    | cons m inner =>
      have hmem := hkept (hm ▸ List.mem_cons_self)
      rw [ht] at hmem
      cases hmem
  | cons t rest =>
    have hopen := mem_openPositions_of_head?_kept (congrArg List.head? ht)
    cases hm : openPositions (l.take k) with
    | nil =>
      rw [hm] at hopen
      cases hopen
    | cons m inner =>
      have hmem := hkept (hm ▸ List.mem_cons_self)
      have hmt : m ≤ t := le_of_mem_decreasing (ht ▸ pairwise_kept) (ht ▸ hmem)
      have htm : t ≤ m := le_of_mem_decreasing (hm ▸ pairwise_openPositions l k) (hm ▸ hopen)
      rw [List.head?_cons, List.head?_cons, hmt.antisymm htm]

theorem waiting_succ_close (hc : l[k]? = some ')') : waiting l (k + 1) = (kept l ')' k).tail := by
  have htop := head?_kept_close l k
  apply (pairwise_waiting l (k + 1)).eq_of_mem_iff pairwise_kept.tail
  intro i
  rw [mem_waiting_succ hc, openPositions_take_succ hc, if_neg (by decide), if_pos rfl,
    mem_tail_iff pairwise_kept.nodup, mem_tail_iff (pairwise_openPositions l k).nodup, htop]
  constructor
  · intro h
    rcases h with ⟨hopen, hhead⟩ | ⟨⟨o, hi⟩, hik | hkept⟩
    · exact ⟨mem_kept_of_mem_openPositions hopen, hhead⟩
    · rw [hik, hc, Option.some.injEq] at hi
      exact absurd hi.symm (symbol_ne_close o)
    · refine ⟨hkept, ?_⟩
      intro hhead
      exact operator_notMem_openPositions hi (List.mem_of_head? hhead)
  · intro h
    rcases mem_kept_cases h.1 with hopen | hoperator
    · exact Or.inl ⟨hopen, h.2⟩
    · exact Or.inr ⟨hoperator, Or.inr h.1⟩

end Next

end ShuntingYard
