import ShuntingYard.Calls
import ShuntingYard.Stack

/-!
# The calls of a draining

Draining is a loop: its test asks the condition about the top of the stack, and its body moves the
top. The test fails on an empty stack without asking, so that the body always finds an item and each
turn makes the stack smaller. The condition is called on the items that move, from the top
downwards, and on the item that stops the loop, if one does. Whatever it answers, the target
followed by what is left from the top downwards is the same sequence before and after.
-/
namespace ShuntingYard

namespace Stack

section Loop

variable {α : Type} {m : Type → Type} [Monad m]

/-- The test of the loop: whether there is a top that the condition accepts. -/
def acceptsTop (accepts : α → m Bool) (s : Stack α) : m Bool :=
  s.top.evaluateStrict (pure false) accepts

def moveTop (source target : Stack α) : Stack α × Stack α :=
  source.top.evaluate (fun _ => (source, target)) fun a => (source.pop, target.push a)

/-- The loop in at most so many turns, the last of which has a test only. There is no result if the
test still holds then. -/
def drainWithin (accepts : α → m Bool) : Nat → Stack α × Stack α → m (Option (Stack α × Stack α))
  | 0, _ => pure none
  | turns + 1, pair => do
    if ← acceptsTop accepts pair.1 then drainWithin accepts turns (moveTop pair.1 pair.2)
    else pure (some pair)

section Turns

variable (accepts : α → m Bool) (a : α) (rest : List α) (target : Stack α)

theorem acceptsTop_nil : acceptsTop accepts ⟨[]⟩ = pure false := rfl

theorem acceptsTop_cons : acceptsTop accepts ⟨a :: rest⟩ = accepts a := rfl

theorem moveTop_cons : moveTop ⟨a :: rest⟩ target = (⟨rest⟩, target.push a) := rfl

variable [LawfulMonad m]

theorem drainM_nil : drainM accepts ⟨[]⟩ target = pure (⟨[]⟩, target) := by
  simp [drainM, drainItems]

theorem drainM_cons :
    drainM accepts ⟨a :: rest⟩ target = accepts a >>= fun answer =>
      if answer then drainM accepts ⟨rest⟩ (target.push a) else pure (⟨a :: rest⟩, target) := by
  simp only [drainM, drainItems, bind_assoc]
  apply bind_congr
  intro answer
  cases answer <;> simp [push]

end Turns

/-- The loop ends: on a stack of some height it takes one turn more than that at most. -/
theorem drainWithin_eq [LawfulMonad m] (accepts : α → m Bool) (source target : Stack α)
    {turns : Nat} (h : source.items.length < turns) :
    drainWithin accepts turns (source, target) = some <$> drainM accepts source target := by
  obtain ⟨items⟩ := source
  obtain ⟨turns, rfl⟩ := Nat.exists_eq_add_one.mpr (Nat.zero_lt_of_lt h)
  induction items generalizing target turns with
  | nil => simp [drainWithin, acceptsTop_nil, drainM_nil]
  | cons a rest ih =>
    rw [drainWithin, acceptsTop_cons, drainM_cons, map_bind]
    apply bind_congr
    intro answer
    cases answer with
    | false => simp
    | true =>
      have hrest : rest.length < turns := Nat.lt_of_succ_lt_succ h
      obtain ⟨turns, rfl⟩ := Nat.exists_eq_add_one.mpr (Nat.zero_lt_of_lt hrest)
      rw [if_pos rfl, if_pos rfl, moveTop_cons]
      exact ih (target.push a) turns hrest

end Loop

section Calls

def drainCalls {α : Type} (kept moved : List α) : List (α × Bool) :=
  moved.reverse.map (·, true) ++ kept.getLast?.toList.map (·, false)

variable {α : Type} {m : Type → Type} [Monad m] [LawfulMonad m]

theorem drainCalls_concat (kept moved : List α) (a : α) :
    drainCalls kept (moved ++ [a]) = (a, true) :: drainCalls kept moved := by
  simp [drainCalls]

theorem drainCalls_nil (kept : List α) (a : α) : drainCalls (kept ++ [a]) [] = [(a, false)] := by
  simp [drainCalls]

theorem fst_run_drainM_recorded (accepts : α → m Bool) (source target : Stack α)
    (calls : List (α × Bool)) :
    Prod.fst <$> (drainM (recorded accepts) source target).run calls =
      drainM accepts source target := by
  obtain ⟨items⟩ := source
  induction items generalizing target calls with
  | nil => simp [drainM_nil]
  | cons a rest ih =>
    rw [drainM_cons, drainM_cons, StateT.run_bind, run_recorded, bind_map_left, map_bind]
    apply bind_congr
    intro answer
    cases answer with
    | false => simp
    | true => exact ih (target.push a) _

variable {σ : Type} (accepts : α → StateM σ Bool)

theorem run_drainM_recorded_cons (a : α) (rest : List α) (target : Stack α)
    (calls : List (α × Bool)) (state : σ) :
    ((drainM (recorded accepts) ⟨a :: rest⟩ target).run calls).run state =
      if ((accepts a).run state).1 = true then
        ((drainM (recorded accepts) ⟨rest⟩ (target.push a)).run ((a, true) :: calls)).run
          ((accepts a).run state).2
      else (((⟨a :: rest⟩, target), (a, false) :: calls), ((accepts a).run state).2) := by
  rw [drainM_cons, StateT.run_bind, run_recorded, bind_map_left, StateT.run_bind]
  obtain ⟨answer, after⟩ := (accepts a).run state
  cases answer <;> rfl

theorem run_mapM_cons (a : α) (l : List α) (state : σ) :
    ((a :: l).mapM accepts).run state =
      (((accepts a).run state).1 :: ((l.mapM accepts).run ((accepts a).run state).2).1,
        ((l.mapM accepts).run ((accepts a).run state).2).2) := by
  rw [List.mapM_cons]
  rfl

/-- The condition is called on what moves, from the top downwards, and on what is left on top. -/
theorem exists_run_drainM_recorded (source : Stack α) (state : σ) :
    ∃ kept moved after, source.toList = kept ++ moved ∧
      (((drainCalls kept moved).map Prod.fst).mapM accepts).run state =
        ((drainCalls kept moved).map Prod.snd, after) ∧
      ∀ target calls, ((drainM (recorded accepts) source target).run calls).run state =
        (((ofList kept, ofList (target.toList ++ moved.reverse)),
          (drainCalls kept moved).reverse ++ calls), after) := by
  obtain ⟨items⟩ := source
  -- The answer about the top is part of the history that the answers about the rest depend on.
  induction items generalizing state with
  | nil =>
    refine ⟨[], [], state, rfl, rfl, fun target calls => ?_⟩
    rw [drainM_nil, List.reverse_nil, List.append_nil, ofList_toList]
    rfl
  | cons a rest ih =>
    have hitems : toList ⟨a :: rest⟩ = rest.reverse ++ [a] := List.reverse_cons
    by_cases h : ((accepts a).run state).1 = true
    · obtain ⟨kept, moved, after, hsplit, hasked, hrun⟩ := ih ((accepts a).run state).2
      refine ⟨kept, moved ++ [a], after, ?_, ?_, fun target calls => ?_⟩
      · rw [hitems, ← List.append_assoc, ← hsplit]
        rfl
      · rw [drainCalls_concat, List.map_cons, List.map_cons, run_mapM_cons, hasked, h]
      · rw [run_drainM_recorded_cons, if_pos h, hrun, drainCalls_concat]
        simp
    · refine ⟨rest.reverse ++ [a], [], ((accepts a).run state).2, ?_, ?_, fun target calls => ?_⟩
      · rw [hitems, List.append_nil]
      · rw [drainCalls_nil, List.map_cons, List.map_cons, run_mapM_cons,
          Bool.eq_false_iff.mpr h]
        rfl
      · have hkept : ofList (rest.reverse ++ [a]) = ⟨a :: rest⟩ := by
          rw [← hitems, ofList_toList]
        rw [run_drainM_recorded_cons, if_neg h, drainCalls_nil, hkept, List.reverse_nil,
          List.append_nil, ofList_toList]
        rfl

theorem run_drainM_of_recorded {accepts : α → StateM σ Bool} {source target : Stack α} {state : σ}
    {calls : List (α × Bool)} {result : ((Stack α × Stack α) × List (α × Bool)) × σ}
    (h : ((drainM (recorded accepts) source target).run calls).run state = result) :
    (drainM accepts source target).run state = (result.1.1, result.2) := by
  rw [← fst_run_drainM_recorded accepts source target calls, ← h]
  rfl

end Calls

section Drains

variable {σ α : Type}

/-- Drains the first stack onto the second under one condition after the other. The conditions may
share their state. -/
def drainAll (conditions : List (α → StateM σ Bool)) (pair : Stack α × Stack α) :
    StateM σ (Stack α × Stack α) :=
  conditions.foldlM (fun pair accepts => drainM accepts pair.1 pair.2) pair

/-- The items of the second stack, and after them those of the first from the top downwards. -/
def sequence (pair : Stack α × Stack α) : List α := pair.2.toList ++ pair.1.toList.reverse

theorem sequence_drainM (accepts : α → StateM σ Bool) (pair : Stack α × Stack α) (state : σ) :
    sequence ((drainM accepts pair.1 pair.2).run state).1 = sequence pair := by
  obtain ⟨kept, moved, after, hsplit, -, hrun⟩ :=
    exists_run_drainM_recorded accepts pair.1 state
  rw [run_drainM_of_recorded (hrun pair.2 []), sequence, sequence, hsplit, toList_ofList,
    toList_ofList, List.reverse_append, List.append_assoc]

theorem sequence_drainAll (conditions : List (α → StateM σ Bool)) (pair : Stack α × Stack α)
    (state : σ) : sequence ((drainAll conditions pair).run state).1 = sequence pair := by
  induction conditions generalizing pair state with
  | nil => rfl
  | cons accepts conditions ih =>
    rw [← sequence_drainM accepts pair state]
    exact ih _ ((drainM accepts pair.1 pair.2).run state).2

end Drains

end Stack

end ShuntingYard
