import ShuntingYard.Strict
import ShuntingYard.Proofs.Postorder
import Mathlib.Data.List.Infix

/-!
# What the log says

The log of a conversion has one record for each symbol and one for the result. The record of a
foreign symbol says that it is ignored; that of any other shows the yard after it. From these yards
the conversion can be followed: what has reached the output stays there, and the last of them holds
the result. Without the ignored symbols the log is that of the conversion without them, and no
symbol is ignored in a sequence that the checker accepts.
-/
namespace ShuntingYard

namespace Event

def state? : Event → Option Yard
  | taken _ _ after => some after
  | ignored _ | finished _ => none

def isIgnored : Event → Bool
  | ignored _ => true
  | taken .. | finished _ => false

variable {c : Char}

theorem ofSymbol_foreign (h : isSymbol c = false) (y : Yard) : ofSymbol c y = ignored c := by
  rw [ofSymbol, SymbolClass.of?_eq_none_iff.mpr h]

theorem exists_ofSymbol_eq_taken (h : isSymbol c = true) (y : Yard) :
    ∃ kind, ofSymbol c y = taken c kind y := by
  obtain ⟨kind, hkind⟩ := Option.isSome_iff_exists.mp ((SymbolClass.isSome_of? c).trans h)
  exact ⟨kind, by rw [ofSymbol, hkind]⟩

end Event

/-- Whether a record says that a symbol is ignored. -/
def Record.isIgnoring (r : Record) : Bool :=
  "Ignoring unrecognized symbol ".toList.isPrefixOf r.text.toList

section Texts

variable {r : Record}

theorem head?_of_isIgnoring (h : r.isIgnoring = true) : r.text.toList.head? = some 'I' := by
  obtain ⟨rest, hrest⟩ := List.isPrefixOf_iff_prefix.mp h
  rw [← hrest]
  rfl

theorem isIgnoring_eq_false (h : r.text.toList.head? ≠ some 'I') : r.isIgnoring = false := by
  cases hr : r.isIgnoring with
  | false => rfl
  | true => exact absurd (head?_of_isIgnoring hr) h

theorem isIgnoring_ignored (c : Char) : (Event.ignored c).record.isIgnoring = true := by
  unfold Record.isIgnoring Event.record
  rw [List.isPrefixOf_iff_prefix, Event.text_ignored, String.toList_append]
  exact List.prefix_append _ _

theorem head?_text_taken (c : Char) (kind : SymbolClass) (y : Yard) :
    (Event.taken c kind y).text.toList.head? = some '\x27' := by
  rw [Event.text_taken]
  simp only [String.toList_append, Text.quotedChar, Text.quoted, String.toList_ofList,
    List.cons_append, List.head?_cons]

theorem head?_text_finished (result : List Char) :
    (Event.finished result).text.toList.head? = some 'T' := by
  rw [Event.text_finished, String.toList_append]
  rfl

/-- The text of a record tells whether its event is that of an ignored symbol. -/
theorem isIgnoring_record (e : Event) : e.record.isIgnoring = e.isIgnored := by
  cases e with
  | ignored c => exact isIgnoring_ignored c
  | taken c kind y =>
    apply isIgnoring_eq_false
    rw [Event.record, head?_text_taken]
    decide
  | finished result =>
    apply isIgnoring_eq_false
    rw [Event.record, head?_text_finished]
    decide

end Texts

namespace Yard

variable {c : Char} {l : List Char} {y z : Yard}

/-- The event of a symbol is that of the yard to which the symbols up to it lead. -/
theorem getElem?_feedLogged_log (y : Yard) (l : List Char) (i : Nat) :
    (y.feedLogged l).log[i]? =
      l[i]?.map fun c => Event.ofSymbol c (y.feed (l.take (i + 1))) := by
  induction l generalizing y i with
  | nil => rfl
  | cons c l ih =>
    cases i with
    | zero => rfl
    | succ i =>
      rw [feedLogged, List.getElem?_cons_succ, List.getElem?_cons_succ, List.take_succ_cons]
      exact ih (y.step c) i

/-- Without the ignored symbols, the log is that of the recognised ones. -/
theorem filter_feedLogged_log (y : Yard) (l : List Char) :
    (y.feedLogged l).log.filter (fun e => !e.isIgnored) =
      (y.feedLogged (l.filter isSymbol)).log := by
  induction l generalizing y with
  | nil => rfl
  | cons c l ih =>
    cases h : isSymbol c with
    | false =>
      rw [List.filter_cons_of_neg (by simp [h]), ← ih, feedLogged, Event.ofSymbol_foreign h,
        y.step_foreign h]
      rfl
    | true =>
      obtain ⟨kind, hkind⟩ := Event.exists_ofSymbol_eq_taken h (y.step c)
      rw [List.filter_cons_of_pos h, feedLogged, feedLogged, hkind, ← ih]
      rfl

section Outputs

theorem output_isPrefix_step (y : Yard) (c : Char) :
    y.output.toList <+: (y.step c).output.toList := by
  unfold Stack.toList
  rw [List.reverse_prefix]
  induction c using symbol_cases with
  | foreign c h => rw [step_foreign _ h]
  | digit c h =>
    rw [step_digit _ h]
    exact List.suffix_cons c y.output.items
  | operator o =>
    rw [step_operator]
    exact List.suffix_append _ y.output.items
  | opening => rw [step_open]
  | closing =>
    rw [step_close]
    exact List.suffix_append _ y.output.items

theorem output_isPrefix_feed (y : Yard) (l : List Char) :
    y.output.toList <+: (y.feed l).output.toList := by
  induction l generalizing y with
  | nil => exact List.prefix_refl _
  | cons c l ih => exact (y.output_isPrefix_step c).trans (ih (y.step c))

/-- The yards that the log of a sequence shows, in order. -/
def shown (y : Yard) (l : List Char) : List Yard := (y.feedLogged l).log.filterMap Event.state?

theorem shown_cons_foreign (h : isSymbol c = false) : y.shown (c :: l) = y.shown l := by
  unfold shown
  rw [feedLogged, Event.ofSymbol_foreign h, y.step_foreign h]
  rfl

theorem shown_cons_symbol (h : isSymbol c = true) :
    y.shown (c :: l) = y.step c :: (y.step c).shown l := by
  obtain ⟨kind, hkind⟩ := Event.exists_ofSymbol_eq_taken h (y.step c)
  unfold shown
  rw [feedLogged, hkind]
  rfl

theorem isPrefix_of_mem_shown (h : z ∈ y.shown l) :
    y.output.toList <+: z.output.toList ∧ z.output.toList <+: (y.feed l).output.toList := by
  induction l generalizing y with
  | nil => cases h
  | cons c l ih =>
    cases hc : isSymbol c with
    | false =>
      rw [shown_cons_foreign hc] at h
      rw [feed_cons, y.step_foreign hc]
      exact ih h
    | true =>
      have hstep := y.output_isPrefix_step c
      rw [shown_cons_symbol hc] at h
      rcases List.mem_cons.mp h with rfl | h
      · exact ⟨hstep, output_isPrefix_feed _ l⟩
      · exact ⟨hstep.trans (ih h).1, (ih h).2⟩

theorem pairwise_shown (y : Yard) (l : List Char) :
    (y.shown l).Pairwise fun z w => z.output.toList <+: w.output.toList := by
  induction l generalizing y with
  | nil => exact List.Pairwise.nil
  | cons c l ih =>
    cases hc : isSymbol c with
    | false =>
      rw [shown_cons_foreign hc]
      exact ih y
    | true =>
      rw [shown_cons_symbol hc]
      exact List.pairwise_cons.mpr ⟨fun w hw => (isPrefix_of_mem_shown hw).1, ih (y.step c)⟩

theorem getLast?_shown (y : Yard) (l : List Char) : (y.shown l).getLast?.getD y = y.feed l := by
  induction l generalizing y with
  | nil => rfl
  | cons c l ih =>
    cases hc : isSymbol c with
    | false => rw [shown_cons_foreign hc, feed_cons, y.step_foreign hc, ih]
    | true =>
      rw [shown_cons_symbol hc, List.getLast?_cons, Option.getD_some, feed_cons]
      exact ih (y.step c)

end Outputs

end Yard

section Conversion

variable {symbols : List Char} {c : Char} {i : Nat}

theorem filterMap_state?_log (symbols : List Char) :
    (toPostfixLogged symbols).log.filterMap Event.state? = Yard.shown ∅ symbols := by
  rw [toPostfixLogged_log, List.filterMap_append]
  exact List.append_nil _

theorem length_log (symbols : List Char) :
    (toPostfixLogged symbols).log.length = symbols.length + 1 := by
  rw [toPostfixLogged_log, List.length_append, Yard.length_feedLogged_log, List.length_singleton]

theorem getElem?_log (h : symbols[i]? = some c) : (toPostfixLogged symbols).log[i]? =
    some (Event.ofSymbol c (Yard.feed ∅ (symbols.take (i + 1)))) := by
  have hi : i < symbols.length := (List.getElem?_eq_some_iff.mp h).1
  rw [toPostfixLogged_log, List.getElem?_append_left (by rwa [Yard.length_feedLogged_log]),
    Yard.getElem?_feedLogged_log, h, Option.map_some]

theorem getElem?_log_symbol (h : symbols[i]? = some c) {kind : SymbolClass}
    (hkind : SymbolClass.of? c = some kind) : (toPostfixLogged symbols).log[i]? =
      some (.taken c kind (Yard.feed ∅ (symbols.take (i + 1)))) := by
  rw [getElem?_log h, Event.ofSymbol, hkind]

theorem getElem?_records_eq_ignored_iff (h : symbols[i]? = some c) :
    ((toPostfixLogged symbols).log.map Event.record)[i]? = some (Event.ignored c).record ↔
      SymbolClass.of? c = none := by
  rw [List.getElem?_map, getElem?_log h, Option.map_some, Option.some.injEq]
  cases hkind : SymbolClass.of? c with
  | none =>
    rw [Event.ofSymbol, hkind]
    exact iff_of_true rfl rfl
  | some kind =>
    rw [Event.ofSymbol, hkind]
    refine iff_of_false (fun hrecord => ?_) (by simp)
    have hignoring := congrArg Record.isIgnoring hrecord
    rw [isIgnoring_record, isIgnoring_record] at hignoring
    cases hignoring

theorem getElem?_log_length (symbols : List Char) : (toPostfixLogged symbols).log[symbols.length]? =
    some (.finished (toPostfix symbols)) := by
  rw [toPostfixLogged_log, ← Yard.length_feedLogged_log ∅ symbols, List.getElem?_concat_length]

theorem filter_log (symbols : List Char) :
    (toPostfixLogged symbols).log.filter (fun e => !e.isIgnored) =
      (toPostfixLogged (symbols.filter isSymbol)).log := by
  rw [toPostfixLogged_log, toPostfixLogged_log, List.filter_append, Yard.filter_feedLogged_log,
    toPostfix_filter_isSymbol]
  rfl

theorem filter_records (symbols : List Char) :
    ((toPostfixLogged symbols).log.map Event.record).filter (fun r => !r.isIgnoring) =
      (toPostfixLogged (symbols.filter isSymbol)).log.map Event.record := by
  have hignored : (fun r : Record => !r.isIgnoring) ∘ Event.record = fun e => !e.isIgnored := by
    funext e
    exact congrArg (!·) (isIgnoring_record e)
  rw [List.filter_map, hignored, filter_log]

theorem isPrefix_toPostfix {y : Yard} (h : y ∈ Yard.shown ∅ symbols) :
    y.output.toList <+: toPostfix symbols := by
  rw [toPostfix, Yard.finish_eq]
  exact (Yard.isPrefix_of_mem_shown h).2.trans (List.prefix_append _ _)

/-- The result can be read off the last yard that the log shows. -/
theorem toPostfix_eq_elim (symbols : List Char) : toPostfix symbols =
    (Yard.shown ∅ symbols).getLast?.elim [] fun y =>
      y.output.toList ++ y.operators.toList.reverse := by
  have hlast := Yard.getLast?_shown ∅ symbols
  rw [toPostfix, ← hlast, Yard.finish_eq]
  cases (Yard.shown ∅ symbols).getLast? with
  | none => rfl
  | some y => simp [Stack.toList]

end Conversion

section Accepted

variable {symbols : List Char}

theorem isSymbol_of_run {s t : Checker} {position : Nat} (h : s.run position symbols = .ok t)
    {c : Char} (hc : c ∈ symbols) : isSymbol c = true := by
  induction symbols generalizing s position with
  | nil => cases hc
  | cons d l ih =>
    obtain ⟨r, hstep, hrest⟩ := (s.run_cons_eq_ok_iff position).mp h
    rcases List.mem_cons.mp hc with rfl | hc
    · by_contra hforeign
      rw [s.step_foreign position (by simpa using hforeign)] at hstep
      cases hstep
    · exact ih hrest hc

theorem validate_of_toPostfixStrict {result : List Char}
    (h : toPostfixStrict symbols = .ok result) : validate symbols = .ok () := by
  cases hvalid : validate symbols with
  | ok _ => rfl
  | error fault =>
    rw [toPostfixStrict_of_error hvalid] at h
    cases h

theorem filter_isSymbol_of_validate (h : validate symbols = .ok ()) :
    symbols.filter isSymbol = symbols := by
  obtain ⟨s, hrun, -⟩ := validate_eq_ok_iff.mp h
  rw [List.filter_eq_self]
  exact fun c hc => isSymbol_of_run hrun hc

theorem isIgnoring_of_filter (h : symbols.filter isSymbol = symbols) {r : Record}
    (hr : r ∈ (toPostfixLogged symbols).log.map Event.record) : r.isIgnoring = false := by
  have hfilter := filter_records symbols
  rw [h] at hfilter
  rw [← hfilter] at hr
  simpa using (List.mem_filter.mp hr).2

end Accepted

/-- The log has a record for each symbol and one for the result. The record of a foreign symbol says
that it is ignored; every other one shows the symbol, its class and the yard after it. What the
yards have sent out only grows, up to the result, which the last yard determines. The records of
ignored symbols apart, the log depends on the recognised symbols only; a strict conversion that
succeeds has the same log, and nothing in it is ignored. -/
theorem log_accounts_for_conversion :
    (∀ symbols : List Char,
      let logged := toPostfixLogged symbols
      let records := logged.log.map Event.record
      let states := logged.log.filterMap Event.state?
      let source := "postfix_translator::translator::context"
      records.length = symbols.length + 1 ∧
      (∀ i c, symbols[i]? = some c →
        (records[i]? = some ⟨.trace, source, "Ignoring unrecognized symbol " ++ Text.quotedChar c⟩ ↔
          SymbolClass.of? c = none) ∧
        ∀ kind, SymbolClass.of? c = some kind →
          let y := Yard.feed ∅ (symbols.take (i + 1))
          logged.log[i]? = some (.taken c kind y) ∧
          records[i]? = some ⟨.trace, source, Text.quotedChar c ++ " as " ++ kind.description ++
            ": output " ++ Text.symbolList y.output.toList ++
            ", operators " ++ Text.symbolList y.operators.toList⟩) ∧
      records[symbols.length]? = some ⟨.debug, "postfix_translator::translator",
        "Translated to " ++ Text.symbolList logged.value⟩ ∧
      states.Pairwise (fun y z => y.output.toList <+: z.output.toList) ∧
      (∀ y ∈ states, y.output.toList <+: logged.value) ∧
      logged.value =
        states.getLast?.elim [] (fun y => y.output.toList ++ y.operators.toList.reverse) ∧
      records.filter (fun r => !r.isIgnoring) =
        (toPostfixLogged (symbols.filter isSymbol)).log.map Event.record) ∧
    (∀ symbols symbols' : List Char, symbols.filter isSymbol = symbols'.filter isSymbol →
      (toPostfixLogged symbols).value = (toPostfixLogged symbols').value ∧
        ((toPostfixLogged symbols).log.map Event.record).filter (fun r => !r.isIgnoring) =
          ((toPostfixLogged symbols').log.map Event.record).filter fun r => !r.isIgnoring) ∧
    ∀ symbols result : List Char, toPostfixStrict symbols = .ok result →
      (toPostfixStrictLogged symbols).log = (toPostfixLogged symbols).log ∧
        ∀ r ∈ (toPostfixStrictLogged symbols).log.map Event.record, r.isIgnoring = false := by
  refine ⟨fun symbols => ?_, fun symbols symbols' h => ?_, fun symbols result h => ?_⟩
  · intro logged records states source
    have hrecords {i : Nat} {e : Event} (h : logged.log[i]? = some e) :
        records[i]? = some e.record := by
      rw [List.getElem?_map, h, Option.map_some]
    have hvalue : logged.value = toPostfix symbols := toPostfixLogged_value symbols
    have hstates : states = Yard.shown ∅ symbols := filterMap_state?_log symbols
    refine ⟨?_, fun i c hi => ⟨?_, fun kind hkind => ?_⟩, ?_, ?_, ?_, ?_, ?_⟩
    · rw [List.length_map, length_log]
    · exact getElem?_records_eq_ignored_iff hi
    · have htaken := getElem?_log_symbol hi hkind
      exact ⟨htaken, hrecords htaken⟩
    · rw [hvalue]
      exact hrecords (getElem?_log_length symbols)
    · rw [hstates]
      exact Yard.pairwise_shown ∅ symbols
    · rw [hstates, hvalue]
      exact fun y hy => isPrefix_toPostfix hy
    · rw [hstates, hvalue]
      exact toPostfix_eq_elim symbols
    · exact filter_records symbols
  · rw [toPostfixLogged_value, toPostfixLogged_value, filter_records, filter_records, h,
      ← toPostfix_filter_isSymbol symbols, ← toPostfix_filter_isSymbol symbols', h]
    exact ⟨rfl, rfl⟩
  · have hvalid := validate_of_toPostfixStrict h
    rw [toPostfixStrictLogged_of_ok hvalid]
    exact ⟨rfl, fun r hr => isIgnoring_of_filter (filter_isSymbol_of_validate hvalid) hr⟩

theorem log_accounts_for_conversion_of_foreign_symbols :
    let symbols := ['1', ' ', '+', 'x', '2']
    let records := (toPostfixLogged symbols).log.map Event.record
    (symbols[2]? = some '+' ∧ SymbolClass.of? '+' = some (.operator .add) ∧
      records[2]? = some ⟨.trace, "postfix_translator::translator::context",
        "'+' as operator +: output ['1'], operators ['+']"⟩) ∧
    (Yard.ofParts ['1'] ['+'] ∈ (toPostfixLogged symbols).log.filterMap Event.state? ∧
      ['1'] <+: (toPostfixLogged symbols).value) ∧
    (symbols.filter isSymbol = ['1', '+', '2'] ∧
      (toPostfixLogged symbols).value = (toPostfixLogged ['1', '+', '2']).value) ∧
    (toPostfixStrict ['1', '+', '2'] = .ok ['1', '2', '+'] ∧
      (toPostfixStrictLogged ['1', '+', '2']).log = (toPostfixLogged ['1', '+', '2']).log) := by
  intro symbols records
  obtain ⟨hlog, hsame, hstrict⟩ := log_accounts_for_conversion
  obtain ⟨-, hrecords, -, -, hprefix, -⟩ := hlog symbols
  have hclass : SymbolClass.of? '+' = some (.operator .add) := by decide
  have hstate : Yard.ofParts ['1'] ['+'] ∈
      (toPostfixLogged symbols).log.filterMap Event.state? := by decide
  have hresult : toPostfixStrict ['1', '+', '2'] = .ok ['1', '2', '+'] := by rfl
  exact ⟨⟨rfl, hclass, ((hrecords 2 '+' rfl).2 _ hclass).2⟩, ⟨hstate, hprefix _ hstate⟩,
    ⟨rfl, (hsame symbols ['1', '+', '2'] rfl).1⟩, hresult, (hstrict _ _ hresult).1⟩

end ShuntingYard
