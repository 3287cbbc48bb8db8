import ShuntingYard.Event
import ShuntingYard.Failure
import Mathlib.Tactic.SplitIfs

/-!
# Clean texts

No text that is written about an expression holds a control character, whatever the expression
holds: each symbol and each text is quoted before it gets there, and quoting leaves printable
characters only.
-/
namespace ShuntingYard

namespace Text

/-- The control characters of ASCII. -/
def isControl (c : Char) : Bool := c.toNat < 0x20 || c.toNat == 0x7f

def IsClean (s : String) : Prop := ∀ c ∈ s.toList, isControl c = false

instance (s : String) : Decidable (IsClean s) :=
  decidable_of_iff (s.toList.all fun c => !isControl c) (by simp [IsClean])

variable {s t : String} {c : Char} {l : List Char}

section Characters

theorem isControl_eq_false_of_isPrintable (h : isPrintable c = true) : isControl c = false := by
  obtain ⟨hlow, hdelete⟩ := not_control_of_isPrintable h
  simp [isControl, Nat.not_lt.mpr hlow, hdelete]

theorem isControl_digitChar : ∀ n < 16, isControl n.digitChar = false := by decide

theorem isControl_of_mem_toDigits {base n : Nat} (hbase : 1 < base) (hle : base ≤ 16)
    (h : c ∈ Nat.toDigits base n) : isControl c = false := by
  induction n using Nat.strongRecOn with
  | ind n ih =>
    by_cases hn : n < base
    · rw [Nat.toDigits_of_lt_base hn, List.mem_singleton] at h
      rw [h]
      exact isControl_digitChar n (Nat.lt_of_lt_of_le hn hle)
    · have hbelow : base ≤ n := Nat.not_lt.mp hn
      have hdiv : n / base < n := Nat.div_lt_self (by omega) hbase
      have hmod : n % base < base := Nat.mod_lt n (by omega)
      rw [Nat.toDigits_of_base_le hbase hbelow, List.mem_append, List.mem_singleton] at h
      rcases h with h | rfl
      · exact ih _ hdiv h
      · exact isControl_digitChar _ (Nat.lt_of_lt_of_le hmod hle)

theorem isControl_of_mem_codePoint {d : Char} (h : d ∈ codePoint c) : isControl d = false := by
  have hfront : IsClean "\\u\x7b" := by decide
  rw [codePoint, List.mem_append, List.mem_append] at h
  rcases h with (h | h) | h
  · exact hfront d h
  · rw [hexadecimal, String.toList_ofList] at h
    exact isControl_of_mem_toDigits (by decide) (by decide) h
  · rw [List.mem_singleton.mp h]
    rfl

theorem isControl_of_mem_backslash {d : Char} (hc : isControl c = false) (h : d ∈ ['\\', c]) :
    isControl d = false := by
  rcases List.mem_cons.mp h with rfl | h
  · rfl
  · rw [List.mem_singleton.mp h]
    exact hc

theorem isControl_of_mem_escape {quote d : Char} (hquote : isControl quote = false)
    (h : d ∈ escape quote c) : isControl d = false := by
  unfold escape at h
  split_ifs at h with hnull htab hfeed hreturn hself hprintable
  · exact isControl_of_mem_backslash rfl h
  · exact isControl_of_mem_backslash rfl h
  · exact isControl_of_mem_backslash rfl h
  · exact isControl_of_mem_backslash rfl h
  · rcases hself with rfl | rfl
    · exact isControl_of_mem_backslash rfl h
    · exact isControl_of_mem_backslash hquote h
  · rw [List.mem_singleton.mp h]
    exact isControl_eq_false_of_isPrintable hprintable
  · exact isControl_of_mem_codePoint h

end Characters

section Texts

theorem isClean_append : IsClean (s ++ t) ↔ IsClean s ∧ IsClean t := by
  unfold IsClean
  rw [String.toList_append, List.forall_mem_append]

theorem isClean_ofList : IsClean (String.ofList l) ↔ ∀ c ∈ l, isControl c = false := by
  rw [IsClean, String.toList_ofList]

theorem isClean_intercalate {items : List String} (hs : IsClean s) (h : ∀ t ∈ items, IsClean t) :
    IsClean (s.intercalate items) := by
  induction items with
  | nil =>
    rw [String.intercalate_nil]
    decide
  | cons t items ih =>
    obtain ⟨ht, hrest⟩ := List.forall_mem_cons.mp h
    cases items with
    | nil => rwa [String.intercalate_singleton]
    | cons u items =>
      rw [String.intercalate_cons_cons, isClean_append, isClean_append]
      exact ⟨⟨ht, hs⟩, ih hrest⟩

theorem isClean_decimal (n : Nat) : IsClean (decimal n) :=
  isClean_ofList.mpr fun _ h => isControl_of_mem_toDigits (by decide) (by decide) h

theorem isClean_quoted {quote : Char} (hquote : isControl quote = false) (l : List Char) :
    IsClean (quoted quote l) := by
  rw [quoted, isClean_ofList]
  intro c hc
  rcases List.mem_append.mp hc with hc | hc
  · rcases List.mem_cons.mp hc with rfl | hc
    · exact hquote
    · obtain ⟨d, -, hd⟩ := List.mem_flatMap.mp hc
      exact isControl_of_mem_escape hquote hd
  · rw [List.mem_singleton.mp hc]
    exact hquote

theorem isClean_quotedChar (c : Char) : IsClean (quotedChar c) := isClean_quoted rfl [c]

theorem isClean_quotedString (s : String) : IsClean (quotedString s) := isClean_quoted rfl s.toList

theorem isClean_symbolList (l : List Char) : IsClean (symbolList l) := by
  have hitems : ∀ t ∈ l.map quotedChar, IsClean t := by
    intro t ht
    obtain ⟨c, -, rfl⟩ := List.mem_map.mp ht
    exact isClean_quotedChar c
  rw [symbolList, bracketed, isClean_append, isClean_append]
  exact ⟨⟨by decide, isClean_intercalate (by decide) hitems⟩, by decide⟩

end Texts

end Text

/-- Neither what a record says nor where it comes from holds control characters. -/
def Record.IsClean (r : Record) : Prop := Text.IsClean r.target ∧ Text.IsClean r.text

open Text

section Diagnostics

theorem isClean_description (k : SymbolClass) : IsClean k.description := by
  cases k with
  | operator o => cases o <;> decide
  | _ => decide

theorem Event.isClean_target (e : Event) : IsClean e.record.target := by
  cases e with
  | finished =>
    change IsClean "postfix_translator::translator"
    decide
  | _ =>
    change IsClean "postfix_translator::translator::context"
    decide

theorem Event.isClean_text (e : Event) : IsClean e.record.text := by
  cases e with
  | ignored c =>
    change IsClean (Event.ignored c).text
    rw [text_ignored, isClean_append]
    exact ⟨by decide, isClean_quotedChar c⟩
  | taken c k y =>
    change IsClean (Event.taken c k y).text
    rw [text_taken]
    simp only [isClean_append, isClean_quotedChar, isClean_description, isClean_symbolList]
    decide
  | finished result =>
    change IsClean (Event.finished result).text
    rw [text_finished, isClean_append]
    exact ⟨by decide, isClean_symbolList result⟩

theorem Event.isClean_record (e : Event) : e.record.IsClean := ⟨e.isClean_target, e.isClean_text⟩

theorem Fault.isClean_message (fault : Fault) : IsClean fault.message := by
  have located {what : String} (hwhat : IsClean what) (position : Nat) :
      IsClean (what ++ " at position " ++ decimal position) := by
    rw [isClean_append, isClean_append]
    exact ⟨⟨hwhat, by decide⟩, isClean_decimal position⟩
  have quoting {what : String} (hwhat : IsClean what) (c : Char) :
      IsClean (what ++ quotedChar c) := isClean_append.mpr ⟨hwhat, isClean_quotedChar c⟩
  cases fault with
  | unrecognizedSymbol c position => exact located (quoting (by decide) c) position
  | unexpectedOperand c position => exact located (quoting (by decide) c) position
  | unexpectedOperator c position => exact located (quoting (by decide) c) position
  | unexpectedOpenParenthesis position => exact located (by decide) position
  | unmatchedCloseParenthesis position => exact located (by decide) position
  | unexpectedCloseParenthesis position => exact located (by decide) position
  | unclosedParentheses count =>
    change IsClean ("Mismatched parenthesis: " ++ decimal count ++ " unclosed")
    rw [isClean_append, isClean_append]
    exact ⟨⟨by decide, isClean_decimal count⟩, by decide⟩
  | missingOperand => decide

theorem Circumstance.isClean_message (circumstance : Circumstance) :
    IsClean circumstance.message := by
  cases circumstance with
  | invalidExpression => decide
  | convertingText text => exact isClean_append.mpr ⟨by decide, isClean_quotedString text⟩

theorem Failure.isClean_of_mem_chain {f : Failure} {m : String} (h : m ∈ f.chain) :
    IsClean m := by
  rcases List.mem_append.mp h with h | h
  · obtain ⟨circumstance, -, rfl⟩ := List.mem_map.mp h
    exact circumstance.isClean_message
  · rw [List.mem_singleton.mp h]
    exact f.cause.isClean_message

end Diagnostics

end ShuntingYard
