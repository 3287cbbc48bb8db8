import ShuntingYard.Segments
import ShuntingYard.Proofs.Framing

/-!
# Unmatched parentheses

Every sequence is cut into balanced segments in exactly one way, and the parentheses at the cuts are
the unmatched ones. The conversion treats each segment on its own. One that a stray closing
parenthesis ends is converted as if nothing followed; of the others the output comes first, and what
they leave waiting follows from the last segment to the first, with the open parentheses between.
-/
namespace ShuntingYard

namespace Segments

variable {d e : Segments} {closed opened : List (List Char)} {middle v w : List Char}

section Words

theorem word_closed_cons (v : List Char) (closed : List (List Char)) (middle : List Char)
    (opened : List (List Char)) :
    word ⟨v :: closed, middle, opened⟩ = v ++ ')' :: word ⟨closed, middle, opened⟩ := by
  simp [word]

theorem word_opened_concat (closed : List (List Char)) (middle : List Char)
    (opened : List (List Char)) (v : List Char) :
    word ⟨closed, middle, opened ++ [v]⟩ = word ⟨closed, middle, opened⟩ ++ '(' :: v := by
  simp [word]

/-- A sequence with a stray closing parenthesis is cut there into two. -/
theorem word_append (before after : List (List Char)) (v middle : List Char)
    (opened : List (List Char)) : word ⟨before ++ v :: after, middle, opened⟩ =
      word ⟨before, v, []⟩ ++ ')' :: word ⟨after, middle, opened⟩ := by
  simp [word]

theorem areBalanced_append {before after : List (List Char)}
    (h : AreBalanced ⟨before, v, []⟩) (h' : AreBalanced ⟨after, middle, opened⟩) :
    AreBalanced ⟨before ++ v :: after, middle, opened⟩ := by
  refine ⟨?_, h'.2⟩
  intro u hu
  rcases List.mem_append.mp hu with hu | hu
  · exact h.1 u hu
  · rcases List.mem_cons.mp hu with rfl | hu
    · exact h.2.1
    · exact h'.1 u hu

end Words

section Existence

theorem exists_append_balanced (hd : d.AreBalanced) (hv : Balanced v) :
    ∃ e : Segments, e.AreBalanced ∧ e.word = d.word ++ v := by
  obtain ⟨closed, middle, opened⟩ := d
  obtain ⟨hclosed, hmiddle, hopened⟩ := hd
  rcases opened.eq_nil_or_concat with rfl | ⟨inner, last, rfl⟩
  · exact ⟨⟨closed, middle ++ v, []⟩, ⟨hclosed, hmiddle.append hv, hopened⟩, by simp [word]⟩
  · rw [List.concat_eq_append, List.forall_mem_append, List.forall_mem_singleton] at hopened
    refine ⟨⟨closed, middle, inner ++ [last ++ v]⟩, ⟨hclosed, hmiddle, ?_⟩, by simp [word]⟩
    rw [List.forall_mem_append, List.forall_mem_singleton]
    exact ⟨hopened.1, hopened.2.append hv⟩

theorem exists_append_close (hd : d.AreBalanced) :
    ∃ e : Segments, e.AreBalanced ∧ e.word = d.word ++ [')'] := by
  obtain ⟨closed, middle, opened⟩ := d
  obtain ⟨hclosed, hmiddle, hopened⟩ := hd
  rcases opened.eq_nil_or_concat with rfl | ⟨inner, last, rfl⟩
  · have hbalanced : AreBalanced ⟨closed ++ [middle], [], []⟩ :=
      areBalanced_append ⟨hclosed, hmiddle, hopened⟩ ⟨by simp, balanced_nil, by simp⟩
    exact ⟨⟨closed ++ [middle], [], []⟩, hbalanced, by simp [word]⟩
  · -- The last open parenthesis finds its partner, and the group belongs to the segment before it.
    rw [List.concat_eq_append, List.forall_mem_append, List.forall_mem_singleton] at hopened
    have hinner : AreBalanced ⟨closed, middle, inner⟩ := ⟨hclosed, hmiddle, hopened.1⟩
    obtain ⟨e, he, hword⟩ := exists_append_balanced hinner hopened.2.parenthesize
    refine ⟨e, he, ?_⟩
    rw [hword, List.concat_eq_append, word_opened_concat]
    simp

theorem exists_word_eq (l : List Char) : ∃ d : Segments, d.AreBalanced ∧ d.word = l := by
  induction l using List.reverseRecOn with
  | nil => exact ⟨⟨[], [], []⟩, by decide, rfl⟩
  | append_singleton l c ih =>
    obtain ⟨d, hd, rfl⟩ := ih
    by_cases hopen : c = '('
    · subst hopen
      refine ⟨⟨d.closed, d.middle, d.opened ++ [[]]⟩, ⟨hd.1, hd.2.1, ?_⟩, word_opened_concat ..⟩
      rw [List.forall_mem_append, List.forall_mem_singleton]
      exact ⟨hd.2.2, balanced_nil⟩
    · by_cases hclose : c = ')'
      · subst hclose
        exact exists_append_close hd
      · exact exists_append_balanced hd (balanced_singleton hopen hclose)

end Existence

section Uniqueness

theorem covered_opened (hmiddle : Balanced middle) (hopened : ∀ v ∈ opened, Balanced v) :
    Covered (middle ++ opened.flatMap fun v => '(' :: v) := by
  induction opened generalizing middle with
  | nil => simpa using hmiddle.covered
  | cons v opened ih =>
    obtain ⟨hv, hrest⟩ := List.forall_mem_cons.mp hopened
    exact hmiddle.covered.append (covered_open.append (ih hv hrest))

theorem covered_word (hmiddle : Balanced middle) (hopened : ∀ v ∈ opened, Balanced v) :
    Covered (word ⟨[], middle, opened⟩) := covered_opened hmiddle hopened

theorem not_balanced_append_open {l : List Char} (hv : Balanced v) (hl : Covered l) :
    ¬ Balanced (v ++ '(' :: l) := by
  intro h
  have hcount := h.count_eq
  have hle := hl.count_le
  simp only [List.count_append, List.count_cons, hv.count_eq] at hcount
  simp at hcount
  omega

theorem not_covered_append_close {l : List Char} (hv : Balanced v) : ¬ Covered (v ++ ')' :: l) := by
  intro h
  have hbefore : v ++ [')'] <+: v ++ ')' :: l := ⟨l, by simp⟩
  have hlt := (h.of_isPrefix hbefore).count_lt
  rw [hv.count_eq] at hlt
  exact lt_irrefl _ hlt

theorem not_balanced_opened (hmiddle : Balanced middle) (h : ∀ u ∈ v :: opened, Balanced u) :
    ¬ Balanced (middle ++ (v :: opened).flatMap fun u => '(' :: u) := by
  obtain ⟨hv, hrest⟩ := List.forall_mem_cons.mp h
  exact not_balanced_append_open hmiddle (covered_opened hv hrest)

theorem not_covered_word (h : ∀ u ∈ v :: closed, Balanced u) :
    ¬ Covered (word ⟨v :: closed, middle, opened⟩) := by
  rw [word_closed_cons]
  exact not_covered_append_close (h v List.mem_cons_self)

/-- Two words are cut in the same place if neither place can lie behind the other. -/
theorem eq_of_append_cons_eq {c : Char} {l l' : List Char}
    (hw : ∀ u, u <+: l → w ≠ v ++ c :: u) (hv : ∀ u, u <+: l' → v ≠ w ++ c :: u)
    (h : v ++ c :: l = w ++ c :: l') : v = w ∧ l = l' := by
  rcases List.append_eq_append_iff.mp h with ⟨u, rfl, hu⟩ | ⟨u, rfl, hu⟩
  · cases u with
    | nil => simpa using hu
    | cons a u =>
      obtain ⟨rfl, rfl⟩ := List.cons_eq_cons.mp hu
      exact absurd rfl (hw u (List.prefix_append u _))
  · cases u with
    | nil => simpa using hu.symm
    | cons a u =>
      obtain ⟨rfl, rfl⟩ := List.cons_eq_cons.mp hu
      exact absurd rfl (hv u (List.prefix_append u _))

theorem eq_of_append_close_eq {l l' : List Char} (hv : Balanced v) (hw : Balanced w)
    (h : v ++ ')' :: l = w ++ ')' :: l') : v = w ∧ l = l' := by
  refine eq_of_append_cons_eq ?_ ?_ h
  · rintro u - rfl
    exact not_covered_append_close hv hw.covered
  · rintro u - rfl
    exact not_covered_append_close hw hv.covered

theorem eq_of_append_open_eq {l l' : List Char} (hv : Balanced v) (hw : Balanced w)
    (hl : Covered l) (hl' : Covered l') (h : v ++ '(' :: l = w ++ '(' :: l') :
    v = w ∧ l = l' := by
  refine eq_of_append_cons_eq ?_ ?_ h
  · rintro u hu rfl
    exact not_balanced_append_open hv (hl.of_isPrefix hu) hw
  · rintro u hu rfl
    exact not_balanced_append_open hw (hl'.of_isPrefix hu) hv

theorem opened_unique {opened' : List (List Char)} {middle' : List Char}
    (hmiddle : Balanced middle) (hopened : ∀ v ∈ opened, Balanced v)
    (hmiddle' : Balanced middle') (hopened' : ∀ v ∈ opened', Balanced v)
    (h : (middle ++ opened.flatMap fun v => '(' :: v) =
      middle' ++ opened'.flatMap fun v => '(' :: v) :
    middle = middle' ∧ opened = opened' := by
  induction opened generalizing middle middle' opened' with
  | nil =>
    cases opened' with
    | nil => simpa using h
    | cons w opened' =>
      rw [List.flatMap_nil, List.append_nil] at h
      rw [h] at hmiddle
      exact absurd hmiddle (not_balanced_opened hmiddle' hopened')
  | cons v opened ih =>
    cases opened' with
    | nil =>
      rw [List.flatMap_nil, List.append_nil] at h
      rw [← h] at hmiddle'
      exact absurd hmiddle' (not_balanced_opened hmiddle hopened)
    | cons w opened' =>
      obtain ⟨hv, hrest⟩ := List.forall_mem_cons.mp hopened
      obtain ⟨hw, hrest'⟩ := List.forall_mem_cons.mp hopened'
      obtain ⟨rfl, hinner⟩ := eq_of_append_open_eq hmiddle hmiddle' (covered_opened hv hrest)
        (covered_opened hw hrest') h
      obtain ⟨rfl, rfl⟩ := ih hv hrest hw hrest' hinner
      exact ⟨rfl, rfl⟩

theorem word_injective (hd : d.AreBalanced) (he : e.AreBalanced) (h : d.word = e.word) :
    d = e := by
  obtain ⟨closed, middle, opened⟩ := d
  obtain ⟨closed', middle', opened'⟩ := e
  obtain ⟨hclosed, hmiddle, hopened⟩ := hd
  obtain ⟨hclosed', hmiddle', hopened'⟩ := he
  induction closed generalizing closed' with
  | nil =>
    cases closed' with
    | nil =>
      obtain ⟨rfl, rfl⟩ := opened_unique hmiddle hopened hmiddle' hopened' h
      rfl
    | cons w closed' =>
      have hcovered := covered_word hmiddle hopened
      rw [h] at hcovered
      exact absurd hcovered (not_covered_word hclosed')
  | cons v closed ih =>
    cases closed' with
    | nil =>
      have hcovered := covered_word hmiddle' hopened'
      rw [← h] at hcovered
      exact absurd hcovered (not_covered_word hclosed)
    | cons w closed' =>
      obtain ⟨hv, hrest⟩ := List.forall_mem_cons.mp hclosed
      obtain ⟨hw, hrest'⟩ := List.forall_mem_cons.mp hclosed'
      rw [word_closed_cons, word_closed_cons] at h
      obtain ⟨rfl, hword⟩ := eq_of_append_close_eq hv hw h
      obtain ⟨rfl, rfl, rfl⟩ :=
        ih closed' hword hrest hmiddle hopened hrest' hmiddle' hopened'
      rfl

end Uniqueness

section Positions

variable {i : Nat}

theorem openPositionsFrom_closed (position : Nat) (h : AreBalanced ⟨closed, middle, []⟩) :
    openPositionsFrom [] position (word ⟨closed, middle, []⟩) = [] := by
  obtain ⟨hclosed, hmiddle, -⟩ := h
  induction closed generalizing position with
  | nil =>
    rw [word, List.flatMap_nil, List.flatMap_nil, List.nil_append, List.append_nil]
    exact openPositionsFrom_of_balanced hmiddle [] position
  | cons v closed ih =>
    obtain ⟨hv, hrest⟩ := List.forall_mem_cons.mp hclosed
    rw [word_closed_cons, openPositionsFrom_append, openPositionsFrom_of_balanced hv]
    exact ih _ hrest hmiddle

theorem openPositions_opened_concat (hv : Balanced v) :
    openPositions (word ⟨closed, middle, opened ++ [v]⟩) =
      (word ⟨closed, middle, opened⟩).length :: openPositions (word ⟨closed, middle, opened⟩) := by
  rw [word_opened_concat, openPositions, openPositionsFrom_append, Nat.zero_add]
  exact openPositionsFrom_of_balanced hv _ _

theorem mem_openPositions_word (h : AreBalanced ⟨closed, middle, opened⟩) :
    i ∈ openPositions (word ⟨closed, middle, opened⟩) ↔
      ∃ before v after, opened = before ++ v :: after ∧
        i = (word ⟨closed, middle, before⟩).length := by
  induction opened using List.reverseRecOn with
  | nil =>
    rw [openPositions, openPositionsFrom_closed 0 h]
    simp
  | append_singleton opened last ih =>
    obtain ⟨hclosed, hmiddle, hopened⟩ := h
    rw [List.forall_mem_append, List.forall_mem_singleton] at hopened
    rw [openPositions_opened_concat hopened.2, List.mem_cons, ih ⟨hclosed, hmiddle, hopened.1⟩]
    constructor
    · intro hi
      rcases hi with rfl | ⟨before, v, after, rfl, rfl⟩
      · exact ⟨opened, last, [], rfl, rfl⟩
      · exact ⟨before, v, after ++ [last], by simp, rfl⟩
    · intro hi
      obtain ⟨before, v, after, hsplit, rfl⟩ := hi
      rcases after.eq_nil_or_concat with rfl | ⟨after, u, rfl⟩
      · rw [(List.append_inj' hsplit rfl).1]
        exact Or.inl rfl
      · rw [List.concat_eq_append, ← List.cons_append, ← List.append_assoc] at hsplit
        exact Or.inr ⟨before, v, after, (List.append_inj' hsplit rfl).1, rfl⟩

theorem length_openPositions_word (h : AreBalanced ⟨closed, middle, opened⟩) :
    (openPositions (word ⟨closed, middle, opened⟩)).length = opened.length := by
  induction opened using List.reverseRecOn with
  | nil =>
    rw [openPositions, openPositionsFrom_closed 0 h]
    rfl
  | append_singleton opened last ih =>
    obtain ⟨hclosed, hmiddle, hopened⟩ := h
    rw [List.forall_mem_append, List.forall_mem_singleton] at hopened
    rw [openPositions_opened_concat hopened.2, List.length_cons, List.length_append,
      ih ⟨hclosed, hmiddle, hopened.1⟩]
    rfl

/-- The closing parentheses that match none are those behind the closed segments: what is before one
of them and what is after it are cut on their own. -/
theorem isStray_word_iff (hd : d.AreBalanced) :
    d.word[i]? = some ')' ∧ openPositions (d.word.take i) = [] ↔
      ∃ before v after, d.closed = before ++ v :: after ∧ i = (word ⟨before, v, []⟩).length := by
  constructor
  · intro h
    obtain ⟨hclose, hnone⟩ := h
    obtain ⟨e, he, hbefore⟩ := exists_word_eq (d.word.take i)
    obtain ⟨f, hf, hafter⟩ := exists_word_eq (d.word.drop (i + 1))
    have hopened : e.opened = [] := by
      have hlength := length_openPositions_word he
      rwa [hbefore, hnone, List.length_nil, eq_comm, List.length_eq_zero_iff] at hlength
    obtain ⟨closed, v, opened⟩ := e
    obtain rfl : opened = [] := hopened
    have hi : i < d.word.length := (List.getElem?_eq_some_iff.mp hclose).1
    have hword : d.word = word ⟨closed ++ v :: f.closed, f.middle, f.opened⟩ := by
      have hget : d.word[i] = ')' := (List.getElem?_eq_some_iff.mp hclose).2
      rw [word_append, hbefore, hafter, ← hget, ← List.drop_eq_getElem_cons hi,
        List.take_append_drop]
    have hunique := word_injective hd (areBalanced_append he hf) hword
    refine ⟨closed, v, f.closed, congrArg Segments.closed hunique, ?_⟩
    rw [hbefore, List.length_take_of_le hi.le]
  · intro h
    obtain ⟨before, v, after, hclosed, rfl⟩ := h
    obtain ⟨closed, middle, opened⟩ := d
    obtain rfl : closed = before ++ v :: after := hclosed
    obtain ⟨hbefore, hv⟩ := List.forall_mem_append.mp hd.1
    have hbalanced : AreBalanced ⟨before, v, []⟩ := ⟨hbefore, hv v List.mem_cons_self, by simp⟩
    rw [word_append, List.take_left]
    exact ⟨by simp, openPositionsFrom_closed 0 hbalanced⟩

end Positions

end Segments

section Conversion

def sentBy (l : List Char) : List Char := (Yard.feed ∅ l).output.toList

/-- What waits at the end of a sequence, from the top of the stack. -/
def heldBy (l : List Char) : List Char := (Yard.feed ∅ l).operators.toList.reverse

theorem toPostfix_eq (l : List Char) : toPostfix l = sentBy l ++ heldBy l := by
  rw [toPostfix, Yard.finish_eq, sentBy, heldBy, Stack.toList, Stack.toList, List.reverse_reverse]

theorem feed_append_open {l v : List Char} (hv : Balanced v) :
    sentBy (l ++ '(' :: v) = sentBy l ++ sentBy v ∧
      heldBy (l ++ '(' :: v) = heldBy v ++ '(' :: heldBy l := by
  have hatop := Yard.feed_atop (y := (Yard.feed ∅ l).step '(') (l := v) Yard.isOpenTo_step_open
    (Or.inl hv.covered)
  rw [← Yard.feed_cons, ← Yard.feed_append] at hatop
  constructor
  · simp [sentBy, hatop, Yard.toList_output_atop, Yard.step_open]
  · simp [heldBy, hatop, Yard.atop, Yard.step_open, Stack.toList, Stack.push]

theorem feed_opened (middle : List Char) {opened : List (List Char)}
    (h : ∀ v ∈ opened, Balanced v) :
    sentBy (middle ++ opened.flatMap fun v => '(' :: v) = sentBy middle ++ opened.flatMap sentBy ∧
      heldBy (middle ++ opened.flatMap fun v => '(' :: v) =
        (opened.reverse.flatMap fun v => heldBy v ++ ['(']) ++ heldBy middle := by
  induction opened using List.reverseRecOn with
  | nil => simp
  | append_singleton opened last ih =>
    rw [List.forall_mem_append, List.forall_mem_singleton] at h
    obtain ⟨hsent, hheld⟩ := ih h.1
    have hlast := feed_append_open (l := middle ++ opened.flatMap fun v => '(' :: v) h.2
    rw [hsent, hheld] at hlast
    simpa using hlast

theorem toPostfix_word {d : Segments} (hd : d.AreBalanced) : toPostfix d.word =
    d.closed.flatMap toPostfix ++ (sentBy d.middle ++ d.opened.flatMap sentBy) ++
      ((d.opened.reverse.flatMap fun v => heldBy v ++ ['(']) ++ heldBy d.middle) := by
  obtain ⟨closed, middle, opened⟩ := d
  obtain ⟨hclosed, hmiddle, hopened⟩ := hd
  induction closed with
  | nil =>
    obtain ⟨hsent, hheld⟩ := feed_opened middle hopened
    rw [Segments.word, List.flatMap_nil, List.nil_append, toPostfix_eq, hsent, hheld]
    rfl
  | cons v closed ih =>
    obtain ⟨hv, hrest⟩ := List.forall_mem_cons.mp hclosed
    rw [Segments.word_closed_cons, toPostfix_append_close hv, ih hrest hmiddle hopened]
    simp

theorem count_open_toPostfix (l : List Char) :
    (toPostfix l).count '(' = (openPositions l).length ∧ ')' ∉ toPostfix l := by
  have hplain := Yard.isPlain_feed l
  have hsent : '(' ∉ (Yard.feed ∅ l).output.items := by
    intro h
    rcases hplain.sent '(' h with hdigit | ⟨o, ho⟩
    · exact ne_open_of_isDigit hdigit rfl
    · exact symbol_ne_open o ho.symm
  rw [toPostfix, Yard.finish_eq, Stack.toList]
  constructor
  · rw [List.count_append, List.count_reverse, List.count_eq_zero.mpr hsent, Nat.zero_add,
      Yard.count_open_feed]
  · rw [List.mem_append, List.mem_reverse]
    intro h
    rcases h with h | h
    · exact hplain.ordered.close_notMem h
    · exact (hplain.ordered.canWait ')' h).ne_close rfl

end Conversion

/-- Every sequence is cut at its unmatched parentheses into balanced segments, in exactly one way.
What a stray closing parenthesis ends is converted on its own. What follows the last of them sends
out its segments in order and then, from the last to the first, what each of them holds, with the
open parentheses between; these are the only parentheses of the result. -/
theorem toPostfix_segments (symbols : List Char) :
    ∃ d : Segments, (∀ e : Segments, e.AreBalanced ∧ e.word = symbols ↔ e = d) ∧
      (∀ i, i ∈ openPositions symbols ↔ ∃ before v after, d.opened = before ++ v :: after ∧
        i = (Segments.word ⟨d.closed, d.middle, before⟩).length) ∧
      (∀ i, symbols[i]? = some ')' ∧ openPositions (symbols.take i) = [] ↔
        ∃ before v after, d.closed = before ++ v :: after ∧
          i = (Segments.word ⟨before, v, []⟩).length) ∧
      toPostfix symbols =
        d.closed.flatMap toPostfix ++ (sentBy d.middle ++ d.opened.flatMap sentBy) ++
          ((d.opened.reverse.flatMap fun v => heldBy v ++ ['(']) ++ heldBy d.middle) ∧
      (d.opened = [] →
        toPostfix symbols = d.closed.flatMap toPostfix ++ toPostfix d.middle) ∧
      (toPostfix symbols).count '(' = d.opened.length ∧ ')' ∉ toPostfix symbols := by
  obtain ⟨d, hd, rfl⟩ := Segments.exists_word_eq symbols
  have hresult := toPostfix_word hd
  obtain ⟨hcount, hclose⟩ := count_open_toPostfix d.word
  refine ⟨d, ?_, fun i => Segments.mem_openPositions_word hd,
    fun i => Segments.isStray_word_iff hd, hresult, ?_, ?_, hclose⟩
  · intro e
    constructor
    · intro he
      exact Segments.word_injective he.1 hd he.2
    · rintro rfl
      exact ⟨hd, rfl⟩
  · intro hopened
    rw [hresult, hopened, toPostfix_eq d.middle]
    simp
  · rw [hcount]
    exact Segments.length_openPositions_word hd

theorem toPostfix_segments_of_stray_close :
    Segments.AreBalanced ⟨[['1', '+', '2']], ['*', '3'], []⟩ ∧
      Segments.word ⟨[['1', '+', '2']], ['*', '3'], []⟩ = ['1', '+', '2', ')', '*', '3'] ∧
      toPostfix ['1', '+', '2', ')', '*', '3'] =
        [['1', '+', '2']].flatMap toPostfix ++ toPostfix ['*', '3'] := by
  have hbalanced : Segments.AreBalanced ⟨[['1', '+', '2']], ['*', '3'], []⟩ := by decide
  obtain ⟨d, hunique, -, -, -, hresult, -⟩ :=
    toPostfix_segments ['1', '+', '2', ')', '*', '3']
  obtain rfl := (hunique ⟨[['1', '+', '2']], ['*', '3'], []⟩).mp ⟨hbalanced, rfl⟩
  exact ⟨hbalanced, rfl, hresult rfl⟩

-- The segments are `1+2`, the empty one, `3*` and `4-5`; the last two are behind open parentheses.
example : toPostfix ['1', '+', '2', ')', '(', '3', '*', '(', '4', '-', '5'] =
    ['1', '2', '+', '3', '4', '5', '-', '(', '*', '('] := by
  decide

end ShuntingYard
