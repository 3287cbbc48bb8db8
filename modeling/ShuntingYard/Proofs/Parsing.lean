import ShuntingYard.Grammar
import Mathlib.Tactic.SplitIfs

/-!
# Parsing

A parser for the grammar that resolves precedence. It reads from left to right, keeps an expression
for what it has read of the current group and, for each open parenthesis, what stands before it. It
accepts a sequence exactly when a parse tree derives it, and then returns that tree. A sequence
therefore has at most one parse tree.
-/
namespace ShuntingYard

theorem Sign.multiplicative {s : Sign} (h : s.val ∉ ['+', '-']) : s.val ∈ ['*', '/'] := by
  obtain ⟨c, hc⟩ := s
  simp only [List.mem_cons, List.not_mem_nil, or_false, not_or] at hc h ⊢
  exact (hc.resolve_left h.1).resolve_left h.2

theorem Sign.not_additive {s : Sign} (h : s.val ∈ ['*', '/']) : s.val ∉ ['+', '-'] := by
  obtain ⟨c, hc⟩ := s
  simp only [List.mem_cons, List.not_mem_nil, or_false] at h
  rcases h with rfl | rfl <;> simp

namespace ParseTree

/-- The expression with an operator and one more factor behind it. A multiplicative operator joins
the factor to the last term. -/
def extend (e : ParseTree .expression) (s : Sign) (f : ParseTree .factor) :
    ParseTree .expression :=
  if additive : s.val ∈ ['+', '-'] then .sum e s additive (.ofFactor f)
  else
    match e with
    | .sum left p h last => .sum left p h (.product last s (Sign.multiplicative additive) f)
    | .ofTerm last => .ofTerm (.product last s (Sign.multiplicative additive) f)

theorem extend_additive (e : ParseTree .expression) {s : Sign} (h : s.val ∈ ['+', '-'])
    (f : ParseTree .factor) : e.extend s f = .sum e s h (.ofFactor f) := dif_pos h

theorem extend_sum (left : ParseTree .expression) (p : Sign) (hp : p.val ∈ ['+', '-'])
    (last : ParseTree .term) {s : Sign} (h : s.val ∈ ['*', '/']) (f : ParseTree .factor) :
    (sum left p hp last).extend s f = .sum left p hp (.product last s h f) :=
  dif_neg (Sign.not_additive h)

theorem extend_ofTerm (last : ParseTree .term) {s : Sign} (h : s.val ∈ ['*', '/'])
    (f : ParseTree .factor) : (ofTerm last).extend s f = .ofTerm (.product last s h f) :=
  dif_neg (Sign.not_additive h)

theorem yield_extend (e : ParseTree .expression) (s : Sign) (f : ParseTree .factor) :
    (e.extend s f).yield = e.yield ++ s.val :: f.yield := by
  by_cases h : s.val ∈ ['+', '-']
  · rw [extend_additive e h]
    simp [yield]
  · cases e with
    | sum left p hp last =>
      rw [extend_sum left p hp last (Sign.multiplicative h)]
      simp [yield]
    | ofTerm last =>
      rw [extend_ofTerm last (Sign.multiplicative h)]
      simp [yield]

end ParseTree

/-- What stands before an operand in its group. -/
inductive Opening where
  | bare
  | after (left : ParseTree .expression) (operator : Sign)

namespace Opening

def word : Opening → List Char
  | bare => []
  | after left o => left.yield ++ [o.val]

def supply (f : ParseTree .factor) : Opening → ParseTree .expression
  | bare => .ofTerm (.ofFactor f)
  | after left o => left.extend o f

theorem yield_supply (f : ParseTree .factor) (b : Opening) :
    (b.supply f).yield = b.word ++ f.yield := by
  cases b with
  | bare => rfl
  | after left o => simp [supply, word, ParseTree.yield_extend]

end Opening

/-- A parse in progress. The openings of the groups around the current one are listed from the
innermost. -/
inductive Parse where
  | awaiting (outer : List Opening) (before : Opening)
  | holding (outer : List Opening) (expression : ParseTree .expression)

namespace Parse

def start : Parse := awaiting [] .bare

def close? (e : ParseTree .expression) : List Opening → Option Parse
  | [] => none
  | before :: outer => some (holding outer (before.supply (.group e)))

def step? : Parse → Char → Option Parse
  | awaiting outer before, c =>
    if h : c.isDigit = true then some (holding outer (before.supply (.digit ⟨c, h⟩)))
    else if c = '(' then some (awaiting (before :: outer) .bare)
    else none
  | holding outer e, c =>
    if h : c ∈ ['+', '-', '*', '/'] then some (awaiting outer (.after e ⟨c, h⟩))
    else if c = ')' then close? e outer
    else none

def run? (p : Parse) (l : List Char) : Option Parse := l.foldlM step? p

def result? : Parse → Option (ParseTree .expression)
  | holding [] e => some e
  | holding (_ :: _) _ | awaiting .. => none

@[simp] theorem run?_nil (p : Parse) : p.run? [] = some p := rfl

@[simp] theorem run?_cons (p : Parse) (c : Char) (l : List Char) :
    p.run? (c :: l) = (p.step? c).bind fun q => q.run? l := rfl

theorem run?_append (p : Parse) (l l' : List Char) :
    p.run? (l ++ l') = (p.run? l).bind fun q => q.run? l' := by
  simp [run?, List.foldlM_append, bind]

section Words

def outerWord : List Opening → List Char
  | [] => []
  | before :: outer => outerWord outer ++ before.word ++ ['(']

def word : Parse → List Char
  | awaiting outer before => outerWord outer ++ before.word
  | holding outer e => outerWord outer ++ e.yield

theorem word_step? {p q : Parse} {c : Char} (h : p.step? c = some q) :
    q.word = p.word ++ [c] := by
  cases p with
  | awaiting outer before =>
    simp only [step?] at h
    split_ifs at h with digit opening
    · obtain rfl := Option.some.inj h
      simp [word, Opening.yield_supply, ParseTree.yield]
    · obtain rfl := Option.some.inj h
      simp [word, outerWord, Opening.word, opening]
  | holding outer e =>
    simp only [step?] at h
    split_ifs at h with operator closing
    · obtain rfl := Option.some.inj h
      simp [word, Opening.word]
    · cases outer with
      | nil => cases h
      | cons before outer =>
        obtain rfl := Option.some.inj h
        simp [word, outerWord, Opening.yield_supply, ParseTree.yield, closing]

theorem word_run? {p q : Parse} {l : List Char} (h : p.run? l = some q) :
    q.word = p.word ++ l := by
  induction l generalizing p with
  | nil =>
    obtain rfl := Option.some.inj h
    simp
  | cons c l ih =>
    obtain ⟨r, hstep, hrun⟩ := Option.bind_eq_some_iff.mp h
    rw [ih hrun, word_step? hstep]
    simp

end Words

section Trees

variable (outer : List Opening)

theorem step?_digit (before : Opening) (d : Digit) :
    (awaiting outer before).step? d.val = some (holding outer (before.supply (.digit d))) := by
  simp [step?, d.property]

theorem step?_open (before : Opening) :
    (awaiting outer before).step? '(' = some (awaiting (before :: outer) .bare) := by
  simp [step?]

theorem step?_sign (e : ParseTree .expression) (s : Sign) :
    (holding outer e).step? s.val = some (awaiting outer (.after e s)) := dif_pos s.property

theorem step?_eq_none (e : ParseTree .expression) {c : Char} (hsign : c ∉ ['+', '-', '*', '/'])
    (hclose : c ≠ ')') : (holding outer e).step? c = none := by
  rw [step?, dif_neg hsign, if_neg hclose]

theorem step?_close (before : Opening) (e : ParseTree .expression) :
    (holding (before :: outer) e).step? ')' = some (holding outer (before.supply (.group e))) := by
  simp [step?, close?]

/-- Factors that are read behind the opening become one term in the given place. -/
structure Fills (before : Opening) (place : ParseTree .term → ParseTree .expression) : Prop where
  supply (f : ParseTree .factor) : before.supply f = place (.ofFactor f)
  extend (t : ParseTree .term) {s : Sign} (h : s.val ∈ ['*', '/']) (f : ParseTree .factor) :
    (place t).extend s f = place (.product t s h f)

theorem fills_bare : Fills .bare .ofTerm where
  supply _ := rfl
  extend t _ h f := ParseTree.extend_ofTerm t h f

theorem fills_after (left : ParseTree .expression) {s : Sign} (h : s.val ∈ ['+', '-']) :
    Fills (.after left s) (.sum left s h) where
  supply f := ParseTree.extend_additive left h f
  extend t _ h' f := ParseTree.extend_sum left s h t h' f

/-- The parser reads what the tree derives and comes to hold the tree, whatever is around it. -/
def Reads : {k : Category} → ParseTree k → Prop
  | .expression, e => ∀ outer, run? (awaiting outer .bare) e.yield = some (holding outer e)
  | .term, t => ∀ outer before place, Fills before place →
      run? (awaiting outer before) t.yield = some (holding outer (place t))
  | .factor, f => ∀ outer before,
      run? (awaiting outer before) f.yield = some (holding outer (before.supply f))

theorem reads {k : Category} (t : ParseTree k) : Reads t := by
  induction t with
  | sum left s additive right ihl ihr =>
    intro outer
    simp only [ParseTree.yield, run?_append, ihl outer, Option.bind_some, run?_cons, step?_sign]
    exact ihr outer _ _ (fills_after left additive)
  | ofTerm inner ih =>
    intro outer
    exact ih outer _ _ fills_bare
  | product left s multiplicative right ihl ihr =>
    intro outer before place fills
    simp only [ParseTree.yield, run?_append, ihl outer before place fills, Option.bind_some,
      run?_cons, step?_sign]
    rw [ihr outer, Opening.supply, fills.extend left multiplicative right]
  | ofFactor inner ih =>
    intro outer before place fills
    rw [← fills.supply]
    exact ih outer before
  | digit d =>
    intro outer before
    simp [ParseTree.yield, step?_digit]
  | group inner ih =>
    intro outer before
    simp [ParseTree.yield, run?_append, step?_open, ih (before :: outer), step?_close]

end Trees

end Parse

def parse? (l : List Char) : Option (ParseTree .expression) :=
  (Parse.start.run? l).bind Parse.result?

theorem parse?_eq_some_iff {l : List Char} {e : ParseTree .expression} :
    parse? l = some e ↔ e.yield = l := by
  constructor
  · intro h
    obtain ⟨p, hrun, hresult⟩ := Option.bind_eq_some_iff.mp h
    have hword := Parse.word_run? hrun
    match p, hresult with
    | .holding [] _, rfl =>
      simpa [Parse.word, Parse.outerWord, Parse.start, Opening.word] using hword
  · rintro rfl
    rw [parse?, Parse.start, Parse.reads e []]
    rfl

theorem yield_injective {e f : ParseTree .expression} (h : e.yield = f.yield) : e = f :=
  Option.some.inj ((parse?_eq_some_iff.mpr h).symm.trans (parse?_eq_some_iff.mpr rfl))

end ShuntingYard
