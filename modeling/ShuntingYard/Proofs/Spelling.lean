import ShuntingYard.Alphabet
import ShuntingYard.SymbolClass

/-!
# The alphabet and the table of operators

The specifications name the symbols of an expression one by one; the conversion and the checker look
them up in the table of operators and among the classes. Both say the same of every character.
-/
namespace ShuntingYard

variable {c : Char}

namespace Operator

theorem symbol_mem (o : Operator) : o.symbol ∈ ['+', '-', '*', '/'] := by cases o <;> decide

theorem mem_signs_iff : c ∈ ['+', '-', '*', '/'] ↔ ∃ o : Operator, c = o.symbol := by
  constructor
  · intro h
    simp only [List.mem_cons, List.not_mem_nil, or_false] at h
    rcases h with rfl | rfl | rfl | rfl
    · exact ⟨add, rfl⟩
    · exact ⟨subtract, rfl⟩
    · exact ⟨multiply, rfl⟩
    · exact ⟨divide, rfl⟩
  · rintro ⟨o, rfl⟩
    exact o.symbol_mem

theorem mem_additive_iff : c ∈ ['+', '-'] ↔ ∃ o : Operator, c = o.symbol ∧ o.precedence = 1 := by
  constructor
  · intro h
    rw [List.mem_cons, List.mem_singleton] at h
    rcases h with rfl | rfl
    · exact ⟨add, rfl, rfl⟩
    · exact ⟨subtract, rfl, rfl⟩
  · rintro ⟨o, rfl, h⟩
    cases o <;> simp_all [symbol, precedence]

theorem mem_multiplicative_iff :
    c ∈ ['*', '/'] ↔ ∃ o : Operator, c = o.symbol ∧ o.precedence = 2 := by
  constructor
  · intro h
    rw [List.mem_cons, List.mem_singleton] at h
    rcases h with rfl | rfl
    · exact ⟨multiply, rfl, rfl⟩
    · exact ⟨divide, rfl, rfl⟩
  · rintro ⟨o, rfl, h⟩
    cases o <;> simp_all [symbol, precedence]

theorem notMem_signs (h : ofSymbol? c = none) : c ∉ ['+', '-', '*', '/'] := by
  intro hc
  obtain ⟨o, rfl⟩ := mem_signs_iff.mp hc
  rw [ofSymbol?_symbol] at h
  cases h

theorem strength?_symbol (o : Operator) : strength? o.symbol = some o.precedence := by
  cases o <;> rfl

theorem strength?_eq (c : Char) : strength? c = (ofSymbol? c).map precedence := by
  cases h : ofSymbol? c with
  | some o =>
    obtain rfl := ofSymbol?_eq_some_iff.mp h
    exact o.strength?_symbol
  | none =>
    have hc := notMem_signs h
    simp only [List.mem_cons, List.not_mem_nil, or_false, not_or] at hc
    simp [strength?, hc]

end Operator

theorem SymbolClass.isSome_of? (c : Char) : (of? c).isSome = isSymbol c := by
  rw [Bool.eq_iff_iff]
  simp [of?, List.isSome_find?, all, Operator.all, includes, Operator.symbol, isSymbol]

end ShuntingYard
