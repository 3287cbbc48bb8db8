import ShuntingYard.Proofs.Accounting

/-!
# Groups as operands

A balanced sequence in parentheses is one operand for the yard, whatever was there before. Its
opening parenthesis is a barrier that nothing inside passes, and its closing one sends out what the
sequence has left above the barrier. What reaches the output is therefore the sequence converted on
its own, and the stack is as before. Words that send out the same may stand for each other.
-/
namespace ShuntingYard

variable {o s p q r v w : List Char} {d : Char}

namespace Yard

/-- Whatever a yard holds, the word sends out the listing and leaves the stack as it was. -/
def Sends (word listing : List Char) : Prop :=
  ∀ output operators : List Char,
    (ofParts output operators).feed word = ofParts (output ++ listing) operators

theorem sends_digit (h : d.isDigit = true) : Sends [d] [d] := by
  intro output operators
  rw [feed_cons, feed_nil, step_digit _ h]
  simp [ofParts, Stack.ofList, Stack.push]

theorem sends_group (h : Balanced q) : Sends ('(' :: q ++ [')']) (toPostfix q) := by
  intro output operators
  have hinner := feed_atop (y := (ofParts output operators).step '(') isOpenTo_step_open
    (Or.inl h.covered)
  have hall := forall_bne_open (open_notMem_feed_of_balanced h)
  rw [List.cons_append, feed_cons, feed_append, hinner, feed_cons, feed_nil, step_close, step_open]
  simp [atop, ofParts, Stack.ofList, Stack.push, List.takeWhile_append_of_pos hall,
    List.dropWhile_append_of_pos hall, toPostfix, finish_eq, Stack.toList]

theorem Sends.toPostfix_eq (h : Sends w v) : toPostfix w = v := by
  have hempty : (∅ : Yard) = ofParts [] [] := rfl
  rw [toPostfix, hempty, h, finish_ofParts, List.reverse_nil, List.append_nil, List.nil_append]

/-- Parentheses around a word that sends out a listing change nothing, however many they are. -/
theorem Sends.parenthesize (h : Sends w v) (hw : Balanced w) (n : Nat) :
    Sends (List.replicate n '(' ++ w ++ List.replicate n ')') v := by
  -- Each pair goes around the word itself, which is a group from then on.
  induction n generalizing w with
  | zero => simpa using h
  | succ n ih =>
    have hgroup := sends_group hw
    rw [h.toPostfix_eq] at hgroup
    have hword : List.replicate (n + 1) '(' ++ w ++ List.replicate (n + 1) ')' =
        List.replicate n '(' ++ ('(' :: w ++ [')']) ++ List.replicate n ')' := by
      rw [List.replicate_succ', List.replicate_succ]
      simp
    rw [hword]
    exact ih hgroup hw.parenthesize

theorem finish_feed_ofParts (o s r : List Char) :
    ((ofParts o s).feed r).finish = o ++ ((ofParts [] s).feed r).finish := by
  have hempty : (ofParts o []).operators.items = [] := rfl
  have hatop : (ofParts o s).feed r = ((ofParts [] s).feed r).atop (ofParts o []) := by
    have hrun := run_session_atop (ofParts [] s) hempty (r.map (Call.feed (σ := Unit))) ()
    rw [← ofParts_append, List.append_nil, session_map_feed, session_map_feed] at hrun
    exact congrArg Prod.fst hrun
  rw [hatop, finish_eq, finish_eq, toList_output_atop, atop, hempty]
  simp [ofParts]

end Yard

section Contexts

theorem Yard.Sends.toPostfix_append (h : Yard.Sends w v) (p r : List Char) :
    toPostfix (p ++ w ++ r) = (Yard.feed ∅ p).output.toList ++ v ++
      ((Yard.ofParts [] (Yard.feed ∅ p).operators.toList).feed r).finish := by
  have hbefore : Yard.feed ∅ p =
      Yard.ofParts (Yard.feed ∅ p).output.toList (Yard.feed ∅ p).operators.toList := by
    rw [Yard.ofParts, Stack.ofList_toList, Stack.ofList_toList]
  rw [toPostfix, Yard.feed_append, Yard.feed_append, hbefore, h, Yard.finish_feed_ofParts,
    ← hbefore]

theorem toPostfix_replace (hw : Yard.Sends w v) (hd : Yard.Sends [d] [d]) (p r : List Char) :
    let k := (Yard.feed ∅ p).output.toList.length
    let whole := toPostfix (p ++ d :: r)
    whole[k]? = some d ∧ toPostfix (p ++ w ++ r) = whole.take k ++ v ++ whole.drop (k + 1) := by
  intro k whole
  have hwhole := hd.toPostfix_append p r
  rw [List.append_assoc, List.singleton_append, List.append_assoc, List.singleton_append] at hwhole
  have hget : whole[k]? = some d := by
    change (toPostfix (p ++ d :: r))[k]? = some d
    rw [hwhole, List.getElem?_append_right (Nat.le_refl _), Nat.sub_self, List.getElem?_cons_zero]
  have htake : whole.take k = (Yard.feed ∅ p).output.toList := by
    change (toPostfix (p ++ d :: r)).take k = _
    rw [hwhole, List.take_left]
  have hdrop : whole.drop (k + 1) =
      ((Yard.ofParts [] (Yard.feed ∅ p).operators.toList).feed r).finish := by
    change (toPostfix (p ++ d :: r)).drop (k + 1) = _
    rw [hwhole, List.drop_length_add_append, List.drop_succ_cons, List.drop_zero]
  exact ⟨hget, by rw [hw.toPostfix_append, htake, hdrop]⟩

end Contexts

/-- A balanced sequence in parentheses sends out its own conversion and leaves everything else as it
was, from any contents of the yard. In every context it may therefore be replaced by a digit, and
its conversion stands in the result where the digit would. Further parentheses around a digit or a
group change no result. -/
theorem groups_are_operands :
    (∀ output operators q : List Char, Balanced q →
      (Yard.ofParts output operators).feed ('(' :: q ++ [')']) =
        Yard.ofParts (output ++ toPostfix q) operators) ∧
    (∀ (p q r : List Char) (d : Char), d.isDigit = true → Balanced q →
      let k := (Yard.feed ∅ p).output.toList.length
      let whole := toPostfix (p ++ d :: r)
      whole[k]? = some d ∧
      toPostfix (p ++ ('(' :: q ++ [')']) ++ r) =
        whole.take k ++ toPostfix q ++ whole.drop (k + 1)) ∧
    (∀ (p r : List Char) (d : Char) (n : Nat), d.isDigit = true →
      toPostfix (p ++ (List.replicate n '(' ++ [d] ++ List.replicate n ')') ++ r) =
        toPostfix (p ++ d :: r)) ∧
    ∀ (p q r : List Char) (n : Nat), Balanced q →
      toPostfix (p ++ (List.replicate n '(' ++ ('(' :: q ++ [')']) ++ List.replicate n ')') ++ r) =
        toPostfix (p ++ ('(' :: q ++ [')']) ++ r) := by
  refine ⟨fun output operators q hq => Yard.sends_group hq output operators, ?_, ?_, ?_⟩
  · intro p q r d hd hq
    exact toPostfix_replace (Yard.sends_group hq) (Yard.sends_digit hd) p r
  · intro p r d n hd
    have hdigit := Yard.sends_digit hd
    have hbalanced := balanced_singleton (ne_open_of_isDigit hd) (ne_close_of_isDigit hd)
    have hplain := hdigit.toPostfix_append p r
    rw [List.append_assoc, List.singleton_append] at hplain
    rw [(hdigit.parenthesize hbalanced n).toPostfix_append, hplain]
  · intro p q r n hq
    have hgroup := Yard.sends_group hq
    rw [(hgroup.parenthesize hq.parenthesize n).toPostfix_append, hgroup.toPostfix_append]

/-- The group is malformed, two parentheses before it are unmatched, and operators wait below it. -/
theorem groups_are_operands_of_malformed_group :
    let p := ['2', ')', '*', '(', '7', '+']
    let q := ['-', '1', '(', ')', '+', 'x']
    Balanced q ∧ '5'.isDigit = true ∧
      (Yard.ofParts ['x', ')'] ['-', '5']).feed ('(' :: q ++ [')']) =
        Yard.ofParts ['x', ')', '1', '-', '+'] ['-', '5'] ∧
      toPostfix (p ++ '5' :: ['*', '3']) = ['2', '7', '5', '3', '*', '+', '(', '*'] ∧
      toPostfix (p ++ ('(' :: q ++ [')']) ++ ['*', '3']) =
        ['2', '7', '1', '-', '+', '3', '*', '+', '(', '*'] ∧
      toPostfix (p ++ ['(', '(', '5', ')', ')'] ++ ['*', '3']) =
        toPostfix (p ++ '5' :: ['*', '3']) := by
  intro p q
  have hq : Balanced q := by decide
  have hd : '5'.isDigit = true := rfl
  obtain ⟨hfeed, hreplace, hdigit, -⟩ := groups_are_operands
  obtain ⟨-, hwhole⟩ := hreplace p q ['*', '3'] '5' hd hq
  refine ⟨hq, hd, hfeed ['x', ')'] ['-', '5'] q hq, by decide, ?_, hdigit p ['*', '3'] '5' 2 hd⟩
  rw [hwhole]
  decide

end ShuntingYard
