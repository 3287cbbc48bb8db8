import ShuntingYard.Conversion
import ShuntingYard.Grammar
import ShuntingYard.Proofs.Steps

/-!
# Parse trees in postorder

The conversion lists a parse tree in postorder. A yard that is fed what a tree derives sends the
first part of the listing out and holds the operators of the rest, none of which binds less tightly
than the operators of the tree's category. This holds above any stack whose top cannot be set free
by those operators, so that the induction over the tree never looks further down.
-/
namespace ShuntingYard

/-- The least precedence of an operator that stands outside every group of this category. -/
def Category.precedence : Category → Nat
  | expression => 1
  | term => 2
  | factor => 3

namespace Yard

/-- No operator of at least this precedence waits on top. -/
def IsOpenTo (y : Yard) (precedence : Nat) : Prop :=
  ∀ o : Operator, y.operators.items.head? = some o.symbol → o.precedence < precedence

/-- The yard with more symbols sent out and more operators held, the latter from the top. -/
def extend (y : Yard) (sent : List Char) (held : List Operator) : Yard :=
  ⟨⟨sent.reverse ++ y.output.items⟩, ⟨held.map Operator.symbol ++ y.operators.items⟩⟩

variable {y : Yard} {p q : Nat}

theorem extend_extend (sent sent' : List Char) (held held' : List Operator) :
    (y.extend sent held).extend sent' held' = y.extend (sent ++ sent') (held' ++ held) := by
  simp [extend]

theorem IsOpenTo.mono (h : y.IsOpenTo p) (hpq : p ≤ q) : y.IsOpenTo q :=
  fun o ho => Nat.lt_of_lt_of_le (h o ho) hpq

theorem isOpenTo_empty : (∅ : Yard).IsOpenTo p := by
  intro o ho
  cases ho

theorem isOpenTo_step_open : (y.step '(').IsOpenTo p := by
  intro o ho
  rw [step_open] at ho
  exact absurd (Option.some.inj ho).symm (symbol_ne_open o)

theorem isOpenTo_extend_singleton {sent : List Char} {o : Operator} (h : o.precedence < p) :
    (y.extend sent [o]).IsOpenTo p := by
  intro o' ho
  have heq : o = o' := Operator.symbol_inj.mp (Option.some.inj ho)
  exact heq ▸ h

theorem IsOpenTo.yieldsTo_eq_false {o : Operator} (h : y.IsOpenTo o.precedence) {c : Char}
    (hc : y.operators.items.head? = some c) : yieldsTo o c = false := by
  cases hs : Operator.ofSymbol? c with
  | none => simp [yieldsTo, hs]
  | some stacked =>
    obtain rfl := Operator.ofSymbol?_eq_some_iff.mp hs
    rw [yieldsTo_symbol, decide_eq_false_iff_not]
    exact Nat.not_le.mpr (h stacked hc)

theorem IsOpenTo.split_eq {o : Operator} (h : y.IsOpenTo o.precedence) :
    y.operators.items.takeWhile (yieldsTo o) = [] ∧
      y.operators.items.dropWhile (yieldsTo o) = y.operators.items := by
  cases hi : y.operators.items with
  | nil => exact ⟨rfl, rfl⟩
  | cons c rest =>
    have hc := h.yieldsTo_eq_false (c := c) (by simp [hi])
    simp [hc]

/-- An incoming operator sets the held ones free and nothing below them. -/
theorem step_extend_symbol {o : Operator} {sent : List Char} {held : List Operator}
    (hy : y.IsOpenTo o.precedence) (hheld : ∀ p ∈ held, o.precedence ≤ p.precedence) :
    (y.extend sent held).step o.symbol = y.extend (sent ++ held.map Operator.symbol) [o] := by
  have hall : ∀ c ∈ held.map Operator.symbol, yieldsTo o c = true := by
    intro c hc
    obtain ⟨p, hp, rfl⟩ := List.mem_map.mp hc
    simpa [yieldsTo_symbol] using hheld p hp
  obtain ⟨htake, hdrop⟩ := hy.split_eq
  simp [step_operator, extend, List.takeWhile_append_of_pos hall,
    List.dropWhile_append_of_pos hall, htake, hdrop]

/-- A closing parenthesis sets free what is held above its partner and takes the partner away. -/
theorem step_extend_close (sent : List Char) (held : List Operator) :
    ((y.step '(').extend sent held).step ')' = y.extend (sent ++ held.map Operator.symbol) [] := by
  have hall : ∀ c ∈ held.map Operator.symbol, (c != '(') = true := by
    intro c hc
    obtain ⟨p, _, rfl⟩ := List.mem_map.mp hc
    simpa using symbol_ne_open p
  simp [step_close, step_open, extend, Stack.push, List.takeWhile_append_of_pos hall,
    List.dropWhile_append_of_pos hall]

/-- Above every stack that is open to a precedence, the word makes the listing: its first part is
sent out and the operators of the rest, which bind at least as tightly, are held. -/
def Lists (p : Nat) (word listing : List Char) : Prop :=
  ∀ y : Yard, y.IsOpenTo p → ∃ sent held, y.feed word = y.extend sent held ∧
    (∀ o ∈ held, p ≤ o.precedence) ∧ sent ++ held.map Operator.symbol = listing

theorem Lists.mono {w v : List Char} (h : Lists q w v) (hpq : p ≤ q) : Lists p w v := by
  intro y hy
  obtain ⟨sent, held, hfeed, hheld, hlist⟩ := h y (hy.mono hpq)
  exact ⟨sent, held, hfeed, fun o ho => Nat.le_trans hpq (hheld o ho), hlist⟩

theorem lists_digit {c : Char} (h : c.isDigit = true) : Lists p [c] [c] := by
  intro y _
  refine ⟨[c], [], ?_, by simp, rfl⟩
  simp [y.step_digit h, extend, Stack.push]

/-- Nothing is held after a group, so that it lists at every precedence. -/
theorem Lists.group {w v : List Char} (h : Lists q w v) : Lists p ('(' :: w ++ [')']) v := by
  intro y _
  obtain ⟨sent, held, hfeed, _, rfl⟩ := h (y.step '(') isOpenTo_step_open
  refine ⟨sent ++ held.map Operator.symbol, [], ?_, by simp, by simp⟩
  rw [List.cons_append, feed_cons, feed_append, hfeed]
  exact step_extend_close sent held

/-- The operator sets free what the left word holds, since that binds at least as tightly, and is
held itself below what the right word holds, since that binds more tightly. -/
theorem Lists.binary {w v w' v' : List Char} {o : Operator} (hl : Lists o.precedence w v)
    (hr : Lists (o.precedence + 1) w' v') :
    Lists o.precedence (w ++ o.symbol :: w') (v ++ v' ++ [o.symbol]) := by
  intro y hy
  obtain ⟨sent, held, hfeed, hheld, rfl⟩ := hl y hy
  obtain ⟨sent', held', hfeed', hheld', rfl⟩ :=
    hr (y.extend (sent ++ held.map Operator.symbol) [o]) (isOpenTo_extend_singleton (by omega))
  refine ⟨sent ++ held.map Operator.symbol ++ sent', held' ++ [o], ?_, ?_, by simp⟩
  · rw [feed_append, hfeed, feed_cons, step_extend_symbol hy hheld, hfeed', extend_extend]
  · intro o' ho
    rcases List.mem_append.mp ho with ho | ho
    · exact Nat.le_trans (Nat.le_succ _) (hheld' o' ho)
    · exact (List.mem_singleton.mp ho) ▸ Nat.le_refl _

theorem lists_yield {k : Category} (t : ParseTree k) :
    Lists k.precedence t.yield t.tree.postorder := by
  induction t with
  | sum left s additive right ihl ihr =>
    obtain ⟨o, ho, hone⟩ := Operator.mem_additive_iff.mp additive
    rw [Category.precedence, ← hone] at ihl
    have hbinary := ihl.binary (by rw [hone]; exact ihr)
    rwa [← ho, hone] at hbinary
  | ofTerm inner ih => exact ih.mono (by decide)
  | product left s multiplicative right ihl ihr =>
    obtain ⟨o, ho, htwo⟩ := Operator.mem_multiplicative_iff.mp multiplicative
    rw [Category.precedence, ← htwo] at ihl
    have hbinary := ihl.binary (by rw [htwo]; exact ihr)
    rwa [← ho, htwo] at hbinary
  | ofFactor inner ih => exact ih.mono (by decide)
  | digit d => exact lists_digit d.property
  | group inner ih => exact ih.group

theorem Lists.finish_feed {w v : List Char} (h : Lists p w v) : (feed ∅ w).finish = v := by
  obtain ⟨sent, held, hfeed, _, rfl⟩ := h ∅ isOpenTo_empty
  rw [hfeed, finish_eq]
  simp [extend, Stack.toList]

end Yard

theorem toPostfix_yield (t : ParseTree .expression) : toPostfix t.yield = t.tree.postorder :=
  (Yard.lists_yield t).finish_feed

theorem toPostfix_filter_isSymbol (l : List Char) : toPostfix (l.filter isSymbol) = toPostfix l :=
  congrArg Yard.finish (Yard.feed_filter_isSymbol ∅ l)

/-- Foreign symbols anywhere and redundant parentheses do not matter: what is left of a sequence
without the former is converted to the listing of its parse tree. -/
theorem toPostfix_eq_postorder (t : ParseTree .expression) (symbols : List Char)
    (h : symbols.filter isSymbol = t.yield) : toPostfix symbols = t.tree.postorder := by
  rw [← toPostfix_filter_isSymbol, h, toPostfix_yield]

theorem toPostfix_nested_groups :
    ∃ t : ParseTree .expression,
      "8-1/ ((2+x3))*4-1".toList.filter isSymbol = t.yield ∧
      toPostfix "8-1/ ((2+x3))*4-1".toList = t.tree.postorder ∧
      t.tree.postorder = "8123+/4*-1-".toList := by
  let digit (c : Char) (h : c.isDigit = true) : ParseTree .term := .ofFactor (.digit ⟨c, h⟩)
  let total : ParseTree .expression :=
    .sum (.ofTerm (digit '2' rfl)) ⟨'+', by decide⟩ (by decide) (digit '3' rfl)
  let nested : ParseTree .factor := .group (.ofTerm (.ofFactor (.group total)))
  let quotient : ParseTree .term := .product (digit '1' rfl) ⟨'/', by decide⟩ (by decide) nested
  let product : ParseTree .term :=
    .product quotient ⟨'*', by decide⟩ (by decide) (.digit ⟨'4', rfl⟩)
  let difference : ParseTree .expression :=
    .sum (.ofTerm (digit '8' rfl)) ⟨'-', by decide⟩ (by decide) product
  let whole : ParseTree .expression :=
    .sum difference ⟨'-', by decide⟩ (by decide) (digit '1' rfl)
  exact ⟨whole, by decide, toPostfix_eq_postorder whole _ (by decide), by decide⟩

end ShuntingYard
