import ShuntingYard.Session
import ShuntingYard.Proofs.DrainCalls
import ShuntingYard.Proofs.Steps

/-!
# What draining does

Draining under any condition, with effects or without, moves some of the waiting symbols from the
top of the stack to the output. The condition decides only how many. What every step and every
draining preserve therefore holds after every session. What waits at the end is sent out in the
order in which it would have been drained, so that draining before the end changes no result.
-/
namespace ShuntingYard

namespace Yard

variable {y z : Yard}

/-- The second yard is the first one after some of its waiting symbols have been sent out. -/
def DrainsTo (y z : Yard) : Prop :=
  ∃ sent, y.operators.items = sent ++ z.operators.items ∧
    z.output.items = sent.reverse ++ y.output.items

theorem drainsTo_drain (y : Yard) (accepts : Char → Bool) : y.DrainsTo (y.drain accepts) :=
  ⟨_, List.takeWhile_append_dropWhile.symm, rfl⟩

/-- A draining sends out the same symbols whatever the output holds before. -/
theorem exists_run_drainM {σ : Type} (operators : List Char) (accepts : Char → StateM σ Bool)
    (state : σ) : ∃ sent kept state', operators = sent ++ kept ∧ ∀ output,
      (drainM accepts ⟨⟨output⟩, ⟨operators⟩⟩).run state =
        (⟨⟨sent.reverse ++ output⟩, ⟨kept⟩⟩, state') := by
  obtain ⟨kept, moved, state', hsplit, -, hrun⟩ :=
    Stack.exists_run_drainM_recorded accepts ⟨operators⟩ state
  refine ⟨moved.reverse, kept.reverse, state', ?_, fun output => ?_⟩
  · rw [← List.reverse_append, ← hsplit, Stack.toList, List.reverse_reverse]
  · have hdrained := Stack.run_drainM_of_recorded (hrun ⟨output⟩ [])
    have houtput : Stack.ofList (Stack.toList ⟨output⟩ ++ moved.reverse) =
        ⟨moved.reverse.reverse ++ output⟩ := by
      simp [Stack.ofList, Stack.toList]
    rw [houtput] at hdrained
    exact congrArg (fun r : (Stack Char × Stack Char) × σ => ((⟨r.1.2, r.1.1⟩ : Yard), r.2))
      hdrained

theorem drainsTo_drainM {σ : Type} (y : Yard) (accepts : Char → StateM σ Bool) (state : σ) :
    y.DrainsTo ((y.drainM accepts).run state).1 := by
  obtain ⟨sent, kept, state', hsplit, hrun⟩ := exists_run_drainM y.operators.items accepts state
  have hdrained : ((y.drainM accepts).run state).1 = ⟨⟨sent.reverse ++ y.output.items⟩, ⟨kept⟩⟩ :=
    congrArg Prod.fst (hrun y.output.items)
  rw [hdrained]
  exact ⟨sent, hsplit, rfl⟩

theorem feed_induction {motive : Yard → Prop} (step : ∀ y c, motive y → motive (y.step c))
    (l : List Char) (h : motive y) : motive (y.feed l) := by
  induction l generalizing y with
  | nil => exact h
  | cons c l ih => exact ih (step y c h)

/-- What every symbol and every draining preserve holds after any session. -/
theorem session_induction {σ : Type} {motive : Yard → Prop}
    (step : ∀ y c, motive y → motive (y.step c))
    (drain : ∀ y z, y.DrainsTo z → motive y → motive z)
    (calls : List (Call σ)) (state : σ) (h : motive y) :
    motive ((y.session calls).run state).1 := by
  induction calls generalizing y state with
  | nil => exact h
  | cons c calls ih =>
    cases c with
    | feed symbol => exact ih state (step y symbol h)
    | drain accepts =>
      have hdrained := drain y _ (y.drainsTo_drainM accepts state) h
      exact ih ((y.drainM accepts).run state).2 hdrained

theorem DrainsTo.finish_eq (h : y.DrainsTo z) : z.finish = y.finish := by
  obtain ⟨sent, hsplit, houtput⟩ := h
  rw [Yard.finish_eq, Yard.finish_eq, hsplit, Stack.toList, Stack.toList, houtput,
    List.reverse_append, List.reverse_reverse, List.append_assoc]

theorem finish_session_drains {σ : Type} (conditions : List (Char → StateM σ Bool)) (y : Yard)
    (state : σ) :
    ((y.session (conditions.map Call.drain)).run state).1.finish = y.finish := by
  induction conditions generalizing y state with
  | nil => rfl
  | cons accepts conditions ih =>
    rw [← (y.drainsTo_drainM accepts state).finish_eq]
    exact ih _ ((y.drainM accepts).run state).2

end Yard

/-- However the answers of a condition depend on its earlier calls, draining ends, within one turn
more than there are items. The stack is split in two: its upper part has moved, from the top
downwards. The condition was asked once about each item that moved, and accepted it, and then once
about the top of what is left, if anything is, and refused it. The target followed by what is left
is the same sequence after any number of drains, so that they do not change the result of a yard. -/
theorem draining_asks_from_the_top :
    (∀ (σ α : Type) (accepts : α → StateM σ Bool) (source target : Stack α) (state : σ),
      ∃ kept moved after,
        let calls := moved.reverse.map (·, true) ++ kept.getLast?.toList.map (·, false)
        let result := (Stack.ofList kept, Stack.ofList (target.toList ++ moved.reverse))
        source.toList = kept ++ moved ∧
        (Stack.drainM accepts source target).run state = (result, after) ∧
        (∀ turns, source.toList.length < turns →
          ((Stack.drainWithin (recorded accepts) turns (source, target)).run []).run state =
            ((some result, calls.reverse), after)) ∧
        ((calls.map Prod.fst).mapM accepts).run state = (calls.map Prod.snd, after)) ∧
    (∀ (σ α : Type) (conditions : List (α → StateM σ Bool)) (source target : Stack α) (state : σ),
      let pair := ((Stack.drainAll conditions (source, target)).run state).1
      pair.2.toList ++ pair.1.toList.reverse = target.toList ++ source.toList.reverse) ∧
    ∀ (σ : Type) (conditions : List (Char → StateM σ Bool)) (y : Yard) (state : σ),
      ((y.session (conditions.map Call.drain)).run state).1.finish = y.finish := by
  refine ⟨?_, fun σ α conditions source target state =>
    Stack.sequence_drainAll conditions (source, target) state,
    fun σ conditions y state => Yard.finish_session_drains conditions y state⟩
  intro σ α accepts source target state
  obtain ⟨kept, moved, after, hsplit, hasked, hrun⟩ :=
    Stack.exists_run_drainM_recorded accepts source state
  have hrecorded := hrun target []
  rw [List.append_nil] at hrecorded
  refine ⟨kept, moved, after, hsplit, Stack.run_drainM_of_recorded hrecorded,
    fun turns hturns => ?_, hasked⟩
  have hheight : source.items.length < turns := by
    rwa [Stack.toList, List.length_reverse] at hturns
  rw [Stack.drainWithin_eq (recorded accepts) source target hheight, StateT.run_map]
  exact congrArg (fun r => ((some r.1.1, r.1.2), r.2)) hrecorded

/-- The condition accepts the first two items that it is asked about, whatever they are. -/
theorem draining_asks_from_the_top_of_counted :
    let accepts : Nat → StateM Nat Bool := fun _ => modifyGet fun calls => (calls < 2, calls + 1)
    let source := Stack.ofList [7, 5, 2, 3]
    let target := Stack.ofList [0]
    let result := (Stack.ofList [7, 5], Stack.ofList [0, 3, 2])
    source.toList.length < 5 ∧
      ((Stack.drainWithin (recorded accepts) 5 (source, target)).run []).run 0 =
        ((some result, [(5, false), (2, true), (3, true)]), 3) ∧
      ([3, 2, 5].mapM accepts).run 0 = ([true, true, false], 3) ∧
      ((Yard.session (.ofParts ['1'] ['(', '*', '+'])
        [.drain fun _ => accepts 0, .drain fun _ => accepts 1]).run 0).1.finish =
        ['1', '+', '*', '('] := by
  intro accepts source target result
  have hheight : source.toList.length < 5 := by decide
  obtain ⟨hcalls, -, hfinish⟩ := draining_asks_from_the_top
  obtain ⟨kept, moved, after, hsplit, hrun, hloop, hasked⟩ := hcalls Nat Nat accepts source target 0
  have hresult : (Stack.drainM accepts source target).run 0 = (result, 3) := rfl
  rw [hresult, Prod.mk.injEq, Prod.mk.injEq, ← Stack.toList_inj, ← Stack.toList_inj,
    Stack.toList_ofList, Stack.toList_ofList, Stack.toList_ofList, Stack.toList_ofList] at hrun
  obtain ⟨⟨rfl, hmoved⟩, rfl⟩ := hrun
  obtain rfl : moved = [2, 3] := List.append_cancel_left (hsplit.symm.trans rfl)
  exact ⟨hheight, hloop 5 hheight, hasked,
    hfinish Nat [fun _ => accepts 0, fun _ => accepts 1] (.ofParts ['1'] ['(', '*', '+']) 0⟩

end ShuntingYard
