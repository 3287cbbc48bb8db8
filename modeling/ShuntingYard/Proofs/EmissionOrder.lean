import ShuntingYard.Conversion
import ShuntingYard.Proofs.Waiting

/-!
# The order of emission

The conversion sends out the symbols of any sequence by increasing time of emission, and the later
ones first among those of equal time. After any number of symbols the output holds those whose time
has passed, and the stack holds those that wait, the latest on top.
-/
namespace ShuntingYard

variable {l : List Char} {c : Char} {o : Operator} {i k : Nat}

section Emitted

theorem mem_emittedAt_iff (hc : l[k]? = some c) :
    i ∈ emittedAt l k ↔ i = k ∧ c.isDigit = true ∨ i ∈ freed l c k := by
  have hk : k < l.length := (List.getElem?_eq_some_iff.mp hc).1
  rw [mem_emittedAt, emissionTime?_eq_some_iff, mem_freed hc]
  simp only [releaseTime_eq_iff hk]
  constructor
  · intro h
    rcases h with ⟨d, hi, hd, rfl⟩ | ⟨-, hend⟩ | hfreed
    · rw [hc, Option.some.injEq] at hi
      exact Or.inl ⟨rfl, hi ▸ hd⟩
    · exact absurd hend hk.ne'
    · exact Or.inr hfreed
  · intro h
    rcases h with ⟨rfl, hd⟩ | hfreed
    · exact Or.inl ⟨c, hc, hd, rfl⟩
    · exact Or.inr (Or.inr hfreed)

theorem emittedAt_eq_freed (hc : l[k]? = some c) (h : c.isDigit = false) :
    emittedAt l k = freed l c k := by
  apply (pairwise_emittedAt l k).eq_of_mem_iff pairwise_freed
  intro i
  simp [mem_emittedAt_iff hc, h]

theorem emittedAt_digit (hc : l[k]? = some c) (h : c.isDigit = true) : emittedAt l k = [k] := by
  apply (pairwise_emittedAt l k).eq_of_mem_iff (List.pairwise_singleton _ k)
  intro i
  simp [mem_emittedAt_iff hc, h, freed_idle (frees_digit h)]

theorem emittedAt_length (l : List Char) : emittedAt l l.length = waiting l l.length := by
  apply (pairwise_emittedAt l l.length).eq_of_mem_iff (pairwise_waiting l l.length)
  intro i
  have hlt {c : Char} (hi : l[i]? = some c) : i < l.length := (List.getElem?_eq_some_iff.mp hi).1
  rw [mem_emittedAt, emissionTime?_eq_some_iff, mem_waiting, List.take_length]
  simp only [releaseTime_eq_length_iff]
  constructor
  · intro h
    rcases h with ⟨d, hi, -, hend⟩ | ⟨hopen, -⟩ | ⟨o, hi, hholds⟩
    · exact absurd hend (hlt hi).ne
    · exact Or.inl hopen
    · exact Or.inr ⟨o, hi, hlt hi, hholds⟩
  · intro h
    rcases h with hopen | ⟨o, hi, -, hholds⟩
    · exact Or.inr (Or.inl ⟨hopen, trivial⟩)
    · exact Or.inr (Or.inr ⟨o, hi, hholds⟩)

end Emitted

section Stacks

def symbolAt (l : List Char) (i : Nat) : Char := l.getD i ' '

theorem symbolAt_eq (hi : l[i]? = some c) : symbolAt l i = c := by simp [symbolAt, hi]

/-- A condition that accepts just the operators that the incoming symbol frees splits the stack into
what is freed and what is kept. -/
theorem drain_waiting (l : List Char) (k : Nat) (accepts : Char → Bool)
    (hopen : accepts '(' = false) (hoperator : ∀ o : Operator, accepts o.symbol = frees c o) :
    ((waiting l k).map (symbolAt l)).takeWhile accepts = (freed l c k).map (symbolAt l) ∧
      ((waiting l k).map (symbolAt l)).dropWhile accepts = (kept l c k).map (symbolAt l) := by
  have hagree : ∀ i ∈ waiting l k, (accepts ∘ symbolAt l) i = isFreedBy l c i := by
    intro i hi
    rcases mem_waiting.mp hi with h | ⟨o, h, -⟩
    · have hsymbol := (lt_and_getElem?_of_mem_openPositions h).2
      rw [isFreedBy_open h, Function.comp_apply, symbolAt_eq hsymbol, hopen]
    · rw [isFreedBy_operator h, Function.comp_apply, symbolAt_eq h, hoperator]
  rw [List.takeWhile_map, List.dropWhile_map, takeWhile_eq_of_forall_mem hagree,
    dropWhile_eq_of_forall_mem hagree]
  exact ⟨rfl, rfl⟩

/-- The yard whose output is given and whose stack holds what waits after the first symbols. -/
def yardAt (l : List Char) (output : List Char) (k : Nat) : Yard :=
  ⟨.ofList output, ⟨(waiting l k).map (symbolAt l)⟩⟩

/-- One step sends out what is emitted at its time and leaves what waits after it. -/
theorem step_yardAt (hc : l[k]? = some c) (output : List Char) : (yardAt l output k).step c =
    yardAt l (output ++ (emittedAt l k).map (symbolAt l)) (k + 1) := by
  induction c using symbol_cases with
  | foreign c h =>
    obtain ⟨hdigit, hno, hopen, hclose⟩ := not_symbol h
    rw [Yard.step_foreign _ h, yardAt, yardAt, emittedAt_eq_freed hc hdigit,
      waiting_succ_idle hc hopen hclose hno, freed_idle (frees_foreign h),
      kept_idle (frees_foreign h)]
    simp
  | digit c h =>
    rw [Yard.step_digit _ h, yardAt, yardAt, emittedAt_digit hc h,
      waiting_succ_idle hc (ne_open_of_isDigit h) (ne_close_of_isDigit h)
        (ofSymbol?_eq_none_of_isDigit h), kept_idle (frees_digit h)]
    simp [symbolAt_eq hc, Stack.push, Stack.ofList]
  | operator o =>
    have hagree (p : Operator) : Yard.yieldsTo o p.symbol = frees o.symbol p := by
      rw [Yard.yieldsTo_symbol, frees_symbol]
    obtain ⟨htake, hdrop⟩ := drain_waiting l k _ (Yard.yieldsTo_open o) hagree
    rw [Yard.step_operator, yardAt, yardAt, htake, hdrop, emittedAt_eq_freed hc o.isDigit_symbol,
      waiting_succ_push hc (symbol_ne_close o) (Or.inr ⟨o, rfl⟩), List.map_cons, symbolAt_eq hc]
    simp [Stack.ofList]
  | opening =>
    rw [Yard.step_open, yardAt, yardAt, emittedAt_eq_freed hc (by decide),
      waiting_succ_push hc (by decide) (Or.inl rfl), freed_idle frees_open, kept_idle frees_open,
      List.map_cons, symbolAt_eq hc]
    simp [Stack.push]
  | closing =>
    have hagree (p : Operator) : (p.symbol != '(') = frees ')' p := by
      rw [frees_close]
      simpa using symbol_ne_open p
    obtain ⟨htake, hdrop⟩ := drain_waiting l k (· != '(') (by decide) hagree
    rw [Yard.step_close, yardAt, yardAt, htake, hdrop, emittedAt_eq_freed hc (by decide),
      waiting_succ_close hc, List.map_tail]
    simp [Stack.ofList]

theorem feed_take (hk : k ≤ l.length) : Yard.feed ∅ (l.take k) =
    yardAt l (((List.range k).flatMap (emittedAt l)).map (symbolAt l)) k := by
  induction k with
  | zero => rfl
  | succ k ih =>
    have hc : l[k]? = some l[k] := List.getElem?_eq_getElem hk
    rw [List.take_succ_eq_append_getElem hk, Yard.feed_append, ih (Nat.le_of_succ_le hk),
      Yard.feed_cons, Yard.feed_nil, step_yardAt hc, List.range_succ]
    simp

end Stacks

theorem emissions_eq (l : List Char) : emissions l =
    ((List.range (l.length + 1)).flatMap (emittedAt l)).map (symbolAt l) := by
  unfold emissions
  rw [← List.filterMap_eq_map]
  apply List.filterMap_congr
  intro i hi
  obtain ⟨k, htime⟩ := mem_flatMap_emittedAt.mp hi
  have hlt : i < l.length := lt_length_of_emissionTime? htime
  simp [symbolAt, List.getElem?_eq_getElem hlt]

/-- For every sequence, well formed or not, the result is what the times of emission say. -/
theorem toPostfix_eq_emissions (symbols : List Char) : toPostfix symbols = emissions symbols := by
  have hfeed := feed_take (l := symbols) le_rfl
  rw [List.take_length] at hfeed
  rw [toPostfix, hfeed, Yard.finish_eq, emissions_eq, List.range_succ, List.flatMap_append,
    List.map_append, List.flatMap_singleton, emittedAt_length, yardAt, Stack.toList_ofList]

/-- The difference releases the product and the sum at once, the stray parenthesis the difference,
and the open one waits for the end with the quotient. -/
theorem toPostfix_eq_emissions_of_ties :
    (List.range 12).map (emissionTime? "1+2*3-4)(/x5".toList) =
      [some 0, some 5, some 2, some 5, some 4, some 7, some 6, none, some 12, some 12, none,
        some 11] ∧
    toPostfix "1+2*3-4)(/x5".toList = "123*+4-5/(".toList := by
  refine ⟨by decide, ?_⟩
  rw [toPostfix_eq_emissions]
  decide

end ShuntingYard
