import ShuntingYard.Strict
import ShuntingYard.Proofs.Acceptance
import ShuntingYard.Proofs.Postorder

/-!
# Reconstruction

Strict conversion loses no structure and reaches every postfix word. An accepted sequence has one
parse tree, and its result is read back as that tree without the parentheses. Conversely, a tree
that is written with parentheses around each of its nodes is accepted and converted to the tree's
listing.
-/
namespace ShuntingYard

theorem exists_yield_of_validate {symbols : List Char} (hne : symbols ≠ [])
    (h : validate symbols = .ok ()) : ∃ t : ParseTree .expression, t.yield = symbols := by
  rcases validate_eq_ok_iff_parse?.mp h with rfl | hparse
  · exact absurd rfl hne
  · obtain ⟨t, ht⟩ := Option.isSome_iff_exists.mp hparse
    exact ⟨t, parse?_eq_some_iff.mp ht⟩

theorem validate_yield (t : ParseTree .expression) : validate t.yield = .ok () := by
  rw [validate_eq_ok_iff_parse?, parse?_eq_some_iff.mpr rfl]
  exact Or.inr rfl

theorem toPostfixStrict_yield (t : ParseTree .expression) :
    toPostfixStrict t.yield = .ok t.tree.postorder := by
  rw [toPostfixStrict_of_ok (validate_yield t), toPostfix_yield]

theorem toPostfixStrict_eq_ok {symbols word : List Char}
    (h : toPostfixStrict symbols = .ok word) : validate symbols = .ok () := by
  cases hv : validate symbols with
  | ok => rfl
  | error fault =>
    rw [toPostfixStrict_of_error hv] at h
    cases h

theorem toPostfixStrict_nil : toPostfixStrict [] = .ok [] := rfl

theorem ParseTree.tree_extend_ofFactor (f g : ParseTree .factor) (s : Sign) :
    ((ofTerm (.ofFactor f)).extend s g).tree = .node s f.tree g.tree := by
  by_cases h : s.val ∈ ['+', '-']
  · rw [extend_additive _ h]
    rfl
  · rw [extend_ofTerm _ (Sign.multiplicative h)]
    rfl

namespace Tree

/-- The tree as a factor, with parentheses around each node. -/
def parenthesized : Tree → ParseTree .factor
  | leaf d => .digit d
  | node s left right =>
    .group ((ParseTree.ofTerm (.ofFactor left.parenthesized)).extend s right.parenthesized)

theorem tree_parenthesized (t : Tree) : t.parenthesized.tree = t := by
  induction t with
  | leaf d => rfl
  | node s left right ihl ihr =>
    rw [parenthesized, ParseTree.tree, ParseTree.tree_extend_ofFactor, ihl, ihr]

theorem exists_toPostfixStrict_eq (t : Tree) :
    ∃ symbols, toPostfixStrict symbols = .ok t.postorder := by
  refine ⟨ParseTree.yield (.ofTerm (.ofFactor t.parenthesized)), ?_⟩
  rw [toPostfixStrict_yield, ParseTree.tree, ParseTree.tree, tree_parenthesized]

end Tree

theorem yield_eq_iff {t u : ParseTree .expression} : u.yield = t.yield ↔ u = t := by
  constructor
  · exact yield_injective
  · intro h
    rw [h]

theorem exists_parseTree_of_validate {symbols : List Char} (hne : symbols ≠ [])
    (hvalid : validate symbols = .ok ()) :
    ∃ t : ParseTree .expression, (∀ u : ParseTree .expression, u.yield = symbols ↔ u = t) ∧
      ∃ word, toPostfixStrict symbols = .ok word ∧ Tree.read? [] word = some [t.tree] := by
  obtain ⟨t, rfl⟩ := exists_yield_of_validate hne hvalid
  have hread := Tree.read?_postorder t.tree []
  exact ⟨t, fun u => yield_eq_iff, t.tree.postorder, toPostfixStrict_yield t, hread⟩

theorem toPostfixStrict_yield_eq_iff (t u : ParseTree .expression) :
    toPostfixStrict t.yield = toPostfixStrict u.yield ↔ t.tree = u.tree := by
  rw [toPostfixStrict_yield, toPostfixStrict_yield, Except.ok.injEq]
  constructor
  · exact Tree.postorder_injective
  · intro h
    rw [h]

theorem exists_toPostfixStrict_eq_iff (word : List Char) :
    (∃ symbols, toPostfixStrict symbols = .ok word) ↔
      word = [] ∨ ∃ t : Tree, word = t.postorder := by
  constructor
  · intro h
    obtain ⟨symbols, hword⟩ := h
    by_cases hne : symbols = []
    · rw [hne, toPostfixStrict_nil, Except.ok.injEq] at hword
      exact Or.inl hword.symm
    · obtain ⟨t, rfl⟩ := exists_yield_of_validate hne (toPostfixStrict_eq_ok hword)
      rw [toPostfixStrict_yield, Except.ok.injEq] at hword
      exact Or.inr ⟨t.tree, hword.symm⟩
  · intro h
    rcases h with rfl | ⟨t, rfl⟩
    · exact ⟨[], toPostfixStrict_nil⟩
    · exact t.exists_toPostfixStrict_eq

/-- The parse tree of an accepted sequence is unique and, up to its parentheses, read back from the
result. Results are equal exactly when these trees are, and they are all the postfix words. -/
theorem toPostfixStrict_structure :
    (∀ symbols : List Char, symbols ≠ [] → validate symbols = .ok () →
      ∃ t : ParseTree .expression, (∀ u : ParseTree .expression, u.yield = symbols ↔ u = t) ∧
        ∃ word, toPostfixStrict symbols = .ok word ∧ Tree.read? [] word = some [t.tree]) ∧
    (∀ (symbols symbols' : List Char) (t u : ParseTree .expression),
      symbols ≠ [] → validate symbols = .ok () → symbols' ≠ [] → validate symbols' = .ok () →
      t.yield = symbols → u.yield = symbols' →
        (toPostfixStrict symbols = toPostfixStrict symbols' ↔ t.tree = u.tree)) ∧
    (∀ word : List Char, (∃ symbols, toPostfixStrict symbols = .ok word) ↔
      word = [] ∨ ∃ t : Tree, word = t.postorder) := by
  refine ⟨?_, ?_, exists_toPostfixStrict_eq_iff⟩
  · intro symbols hne hvalid
    exact exists_parseTree_of_validate hne hvalid
  · intro symbols symbols' t u _ _ _ _ ht hu
    rw [← ht, ← hu]
    exact toPostfixStrict_yield_eq_iff t u

theorem toPostfixStrict_structure_of_both_levels :
    (∃ t : ParseTree .expression,
      (∀ u : ParseTree .expression, u.yield = "1-(2-3/4)*5".toList ↔ u = t) ∧
        ∃ word, toPostfixStrict "1-(2-3/4)*5".toList = .ok word ∧
          word = "1234/-5*-".toList ∧ Tree.read? [] word = some [t.tree]) ∧
    (∃ t u : ParseTree .expression, t.yield = "1+2*3".toList ∧ u.yield = "(1+2)*3".toList ∧
      toPostfixStrict "1+2*3".toList = .ok "123*+".toList ∧
      toPostfixStrict "(1+2)*3".toList = .ok "12+3*".toList ∧ t.tree ≠ u.tree) ∧
    ∃ symbols, toPostfixStrict symbols = .ok "12/3+".toList := by
  obtain ⟨hread, hequal, hrange⟩ := toPostfixStrict_structure
  obtain ⟨t, ht, word, hword, htree⟩ := hread "1-(2-3/4)*5".toList (by decide) rfl
  obtain ⟨p, hp, -⟩ := hread "1+2*3".toList (by decide) rfl
  obtain ⟨q, hq, -⟩ := hread "(1+2)*3".toList (by decide) rfl
  have hpq := hequal _ _ p q (by decide) rfl (by decide) rfl ((hp p).mpr rfl) ((hq q).mpr rfl)
  have hshown : word = "1234/-5*-".toList := (Except.ok.inj hword).symm
  refine ⟨⟨t, ht, word, hword, hshown, htree⟩, ⟨p, q, (hp p).mpr rfl, (hq q).mpr rfl, rfl, rfl, ?_⟩,
    (hrange _).mpr (Or.inr ⟨.node ⟨'+', by decide⟩
      (.node ⟨'/', by decide⟩ (.leaf ⟨'1', rfl⟩) (.leaf ⟨'2', rfl⟩)) (.leaf ⟨'3', rfl⟩), rfl⟩)⟩
  intro hsame
  have hwords : Except.ok "123*+".toList = Except.ok "12+3*".toList := hpq.mpr hsame
  cases hwords

end ShuntingYard
