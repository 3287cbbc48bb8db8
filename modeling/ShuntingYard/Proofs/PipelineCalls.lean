import ShuntingYard.Maybe.Chain

/-!
# The calls of a pipeline

A chain gives the same result on both kinds of missing values, with the same calls: whatever the
effects of its functions are, the two runs are equal. Which functions are called is decided by the
stages that leave a value. A stage is called where all stages before it have left one, so that the
calls run up to the first stage that leaves none. Stages in a row may be put together to one, which
calls what they called.
-/
namespace ShuntingYard

variable {m : Type → Type} [Monad m] [LawfulMonad m] {α β γ δ ρ : Type}

section Options

theorem Maybe.toOption_mapM (f : α → m β) (x : Maybe α) :
    Maybe.toOption <$> x.mapM f = x.toOption.mapM f := by
  cases x with
  | empty => exact map_pure _ _
  | present a =>
    change Maybe.toOption <$> (Maybe.present <$> f a) = some <$> f a
    rw [Functor.map_map]
    rfl

theorem Maybe.toOption_bindM (f : α → m (Maybe β)) (x : Maybe α) :
    Maybe.toOption <$> x.bindM f = x.toOption.bindM fun a => Maybe.toOption <$> f a := by
  cases x with
  | empty => exact map_pure _ _
  | present a => rfl

theorem Source.toOption_run (s : Source m α) : Maybe.toOption <$> s.run = s.runOption := by
  cases s with
  | present value => exact map_pure _ _
  | empty => exact map_pure _ _
  | unit value => exact map_pure _ _
  | ofOption option =>
    change Maybe.toOption <$> pure (Maybe.ofOption option) = pure option
    rw [map_pure, Maybe.toOption_ofOption]
  | ofCondition flag produce =>
    cases flag with
    | false => exact map_pure _ _
    | true =>
      change Maybe.toOption <$> (Maybe.present <$> produce ()) = some <$> produce ()
      rw [Functor.map_map]
      rfl

theorem Pipeline.toOption_run (p : Pipeline m α β) (x : Maybe α) :
    Maybe.toOption <$> p.run x = p.runOption x.toOption := by
  induction p with
  | done => exact map_pure _ _
  | map f rest ih =>
    rw [run, runOption_map, map_bind, ← Maybe.toOption_mapM, bind_map_left]
    apply bind_congr
    exact ih
  | bind f rest ih =>
    rw [run, runOption_bind, map_bind, ← Maybe.toOption_bindM, bind_map_left]
    apply bind_congr
    exact ih

omit [LawfulMonad m] in
theorem Ending.run_eq_runOption (e : Ending m β ρ) (x : Maybe β) :
    e.run x = e.runOption x.toOption := by
  cases e <;> cases x <;> rfl

theorem Chain.run_eq_runOption (c : Chain m ρ) : c.run = c.runOption := by
  have hstages (x : Maybe c.α) : c.stages.run x >>= c.ending.run =
      c.stages.runOption x.toOption >>= c.ending.runOption := by
    rw [← Pipeline.toOption_run, bind_map_left]
    apply bind_congr
    exact c.ending.run_eq_runOption
  calc c.run = c.source.run >>= fun x => c.stages.runOption x.toOption >>= c.ending.runOption := by
        apply bind_congr
        exact hstages
    _ = c.runOption := by rw [runOption, ← Source.toOption_run, bind_map_left]

end Options

section Notes

theorem Source.run_noted (s : Source m α) (notes : List Site) :
    s.noted.run.run notes = (fun x => (x, notes ++ s.calls)) <$> s.run := by
  cases s with
  | ofCondition flag produce =>
    cases flag with
    | false => simp [noted, run, calls, Maybe.ofConditionM]
    | true => simp [noted, run, calls, Maybe.ofConditionM]
  | _ => simp [noted, run, calls]

theorem Ending.run_noted (e : Ending m β ρ) (x : Maybe β) (notes : List Site) :
    (e.noted.run x).run notes =
      (fun result => (result, notes ++ e.calls x.isPresent)) <$> e.run x := by
  cases e with
  | evaluate onEmpty onPresent => cases x <;> exact ShuntingYard.run_noted _ _ _ _
  | evaluateStrict emptyValue onPresent =>
    cases x with
    | empty => simp [noted, run, calls, Maybe.evaluateStrict, Maybe.isPresent]
    | present value => exact ShuntingYard.run_noted _ _ _ _
  | _ => simp [noted, run, calls]

variable (f : α → m β) (g : α → m (Maybe β)) (rest : Pipeline m β γ) (a : α) (number : Nat)
  (notes : List Site)

theorem Pipeline.run_noted_empty (p : Pipeline m α β) :
    ((p.noted number).run .empty).run notes = pure (.empty, notes) := by
  rw [run_empty, StateT.run_pure]

theorem Pipeline.run_noted_map :
    (((map f rest).noted number).run (.present a)).run notes = f a >>= fun b =>
      ((rest.noted (number + 1)).run (.present b)).run (notes ++ [.stage number]) := by
  simp [noted, run, Maybe.mapM]

theorem Pipeline.run_noted_bind :
    (((bind g rest).noted number).run (.present a)).run notes = g a >>= fun x =>
      ((rest.noted (number + 1)).run x).run (notes ++ [.stage number]) := by
  simp [noted, run, Maybe.bindM]

end Notes

namespace Pipeline

variable {σ : Type}

/-- Whether a value is left after the first stages, when the pipeline runs on an option. -/
def leaves (p : Pipeline (StateM σ) α β) (x : Option α) (state : σ) (n : Nat) : Bool :=
  (((p.take n).2.runOption x).run state).1.isSome

def calls (p : Pipeline (StateM σ) α β) (x : Option α) (state : σ) : List Nat :=
  (List.range p.length).takeWhile (p.leaves x state)

section Equations

variable (f : α → StateM σ β) (g : α → StateM σ (Maybe β)) (rest : Pipeline (StateM σ) β γ)
  (a : α) (state : σ)

theorem leaves_zero (p : Pipeline (StateM σ) α β) (x : Option α) :
    p.leaves x state 0 = x.isSome := by
  cases p <;> rfl

theorem leaves_none (p : Pipeline (StateM σ) α β) (n : Nat) : p.leaves none state n = false := by
  rw [leaves, runOption_none]
  rfl

theorem calls_none (p : Pipeline (StateM σ) α β) : p.calls none state = [] := by
  rw [calls, funext (p.leaves_none state)]
  cases p.length <;> simp [List.range_succ_eq_map]

theorem takeWhile_range_succ {accepts : Nat → Bool} (h : accepts 0 = true) (n : Nat) :
    (List.range (n + 1)).takeWhile accepts =
      0 :: ((List.range n).takeWhile fun i => accepts (i + 1)).map (· + 1) := by
  rw [List.range_succ_eq_map, List.takeWhile_cons_of_pos h, List.takeWhile_map]
  rfl

theorem calls_map : (map f rest).calls (some a) state =
    0 :: (rest.calls (some ((f a).run state).1) ((f a).run state).2).map (· + 1) :=
  takeWhile_range_succ (leaves_zero state (map f rest) (some a)) rest.length

theorem calls_bind : (bind g rest).calls (some a) state =
    0 :: (rest.calls ((g a).run state).1.toOption ((g a).run state).2).map (· + 1) :=
  takeWhile_range_succ (leaves_zero state (bind g rest) (some a)) rest.length

end Equations

theorem map_stage_succ (number : Nat) (notes : List Site) (calls : List Nat) :
    notes ++ [.stage number] ++ calls.map (fun i => .stage (number + 1 + i)) =
      notes ++ (0 :: calls.map (· + 1)).map fun i => .stage (number + i) := by
  simp [Function.comp_def, Nat.add_comm 1, Nat.add_assoc]

theorem run_run_noted_empty (p : Pipeline (StateM σ) α β) (number : Nat) (notes : List Site)
    (state : σ) :
    (((p.noted number).run .empty).run notes).run state =
      ((((p.run .empty).run state).1,
        notes ++ (p.calls none state).map fun i => .stage (number + i)),
        ((p.run .empty).run state).2) := by
  rw [run_noted_empty, run_empty, calls_none, List.map_nil, List.append_nil]
  rfl

/-- The stages note that they are called up to the first that leaves no value. -/
theorem run_noted (p : Pipeline (StateM σ) α β) (x : Maybe α) (number : Nat) (notes : List Site)
    (state : σ) :
    (((p.noted number).run x).run notes).run state =
      ((((p.run x).run state).1,
        notes ++ (p.calls x.toOption state).map fun i => .stage (number + i)),
        ((p.run x).run state).2) := by
  -- A stage that is called leaves the rest of the run to the stages after it, from the value and
  -- the state that it leaves.
  induction p generalizing number notes state with
  | done =>
    change ((x, notes), state) = ((x, notes ++ []), state)
    rw [List.append_nil]
  | map f rest ih =>
    cases x with
    | empty => exact (map f rest).run_run_noted_empty number notes state
    | present a =>
      have hrest := ih (.present ((f a).run state).1) (number + 1) (notes ++ [.stage number])
        ((f a).run state).2
      rw [map_stage_succ] at hrest
      rw [run_noted_map, Maybe.toOption, Maybe.evaluate_present, calls_map]
      exact hrest
  | bind g rest ih =>
    cases x with
    | empty => exact (bind g rest).run_run_noted_empty number notes state
    | present a =>
      have hrest := ih ((g a).run state).1 (number + 1) (notes ++ [.stage number])
        ((g a).run state).2
      rw [map_stage_succ] at hrest
      rw [run_noted_bind, Maybe.toOption, Maybe.evaluate_present, calls_bind]
      exact hrest

theorem leaves_length (p : Pipeline (StateM σ) α β) (x : Maybe α) (state : σ) :
    p.leaves x.toOption state p.length = ((p.run x).run state).1.isPresent := by
  rw [leaves, take_length, ← toOption_run, Maybe.isPresent_eq_isSome]
  rfl

end Pipeline

theorem Chain.run_run_noted {σ : Type} (c : Chain (StateM σ) ρ) (state : σ) :
    let start := c.source.run.run state
    let left := (((c.stages.noted 0).run start.1).run c.source.calls).run start.2
    (c.noted.run.run []).run state = ((c.ending.noted.run left.1.1).run left.1.2).run left.2 := by
  change ((c.source.noted.run >>= fun x => (c.stages.noted 0).run x >>= c.ending.noted.run).run
    []).run state = _
  rw [StateT.run_bind, Source.run_noted, bind_map_left]
  rfl

theorem Chain.run_noted {σ : Type} (c : Chain (StateM σ) ρ) (state : σ) :
    let start := c.source.runOption.run state
    (c.noted.run.run []).run state =
      (((c.run.run state).1, c.source.calls ++ (c.stages.calls start.1 start.2).map .stage ++
        c.ending.calls (c.stages.leaves start.1 start.2 c.stages.length)),
        (c.run.run state).2) := by
  have hstart : c.source.runOption.run state =
      ((c.source.run.run state).1.toOption, (c.source.run.run state).2) := by
    rw [← Source.toOption_run]
    rfl
  have hnumbers (calls : List Nat) :
      calls.map (fun i => Site.stage (0 + i)) = calls.map Site.stage := by
    simp only [Nat.zero_add]
  rw [hstart, run_run_noted]
  dsimp only
  rw [Pipeline.run_noted, Ending.run_noted, Pipeline.leaves_length, hnumbers]
  rfl

section Brackets

theorem Pipeline.bindM_kleisli (q : Pipeline m α β) (x : Maybe α) :
    x.bindM q.kleisli = q.run x := by
  cases x with
  | empty => exact (q.run_empty).symm
  | present a => rfl

/-- Stages in a row do the same as one stage that runs them all. -/
theorem Pipeline.run_append_bind_kleisli (p : Pipeline m α β) (q : Pipeline m β γ)
    (r : Pipeline m γ δ) (x : Maybe α) :
    (p.append (.bind q.kleisli r)).run x = (p.append (q.append r)).run x := by
  rw [run_append, run_append]
  apply bind_congr
  intro y
  rw [run_append, run, bindM_kleisli]

omit [LawfulMonad m] in
theorem Pipeline.noted_append (p : Pipeline m α β) (q : Pipeline m β γ) (number : Nat) :
    (p.append q).noted number = (p.noted number).append (q.noted (number + p.length)) := by
  induction p generalizing number with
  | done => rfl
  | map f rest ih =>
    rw [append, noted, ih, noted, append, length, Nat.add_right_comm, Nat.add_assoc]
  | bind g rest ih =>
    rw [append, noted, ih, noted, append, length, Nat.add_right_comm, Nat.add_assoc]

end Brackets

/-- The two kinds of missing values are converted into each other without loss, and a chain does the
same on both, effects included. A function that decides whether there is a first value is called if
its flag holds. Stages are called once each and in order, as long as a value is left, so that the
last one called is the first to leave none. The ending then calls the function for the case at hand
and no other. Stages in a row may be put together to one stage: neither the result nor the calls
change. -/
theorem pipelines_refine_options :
    (∀ (α : Type) (x : Maybe α), Maybe.ofOption x.toOption = x) ∧
    (∀ (α : Type) (x : Option α), (Maybe.ofOption x).toOption = x) ∧
    (∀ (m : Type → Type) [Monad m] [LawfulMonad m] (ρ : Type) (c : Chain m ρ),
      c.run = c.runOption) ∧
    (∀ (σ ρ : Type) (c : Chain (StateM σ) ρ) (state : σ),
      let start := c.source.runOption.run state
      let leaves := fun n => (((c.stages.take n).2.runOption start.1).run start.2).1.isSome
      (c.noted.run.run []).run state =
        (((c.runOption.run state).1,
          c.source.calls ++ ((List.range c.stages.length).takeWhile leaves).map .stage ++
            c.ending.calls (leaves c.stages.length)),
          (c.runOption.run state).2)) ∧
    ∀ (m : Type → Type) [Monad m] [LawfulMonad m] (α β γ δ ρ : Type) (source : Source m α)
      (p : Pipeline m α β) (q : Pipeline m β γ) (r : Pipeline m γ δ) (ending : Ending m δ ρ),
      let whole : Chain m ρ := ⟨source, p.append (q.append r), ending⟩
      let bracketed : Chain m ρ := ⟨source, p.append (.bind q.kleisli r), ending⟩
      let notedStages := (p.noted 0).append
        (.bind (q.noted p.length).kleisli (r.noted (p.length + q.length)))
      let bracketedNoted : Chain (StateT (List Site) m) ρ :=
        ⟨source.noted, notedStages, ending.noted⟩
      bracketed.run = whole.run ∧ bracketedNoted.run = whole.noted.run := by
  refine ⟨fun _ => Maybe.ofOption_toOption, fun _ => Maybe.toOption_ofOption,
    fun m _ _ ρ => Chain.run_eq_runOption, fun σ ρ c state => ?_, ?_⟩
  · rw [← Chain.run_eq_runOption]
    exact c.run_noted state
  · intro m _ _ α β γ δ ρ source p q r ending whole bracketed notedStages bracketedNoted
    have hstages (x : Maybe α) : notedStages.run x = (whole.stages.noted 0).run x := by
      change _ = ((p.append (q.append r)).noted 0).run x
      rw [Pipeline.run_append_bind_kleisli, Pipeline.noted_append, Pipeline.noted_append,
        Nat.zero_add]
    constructor
    · apply bind_congr
      intro x
      exact congrArg (· >>= ending.run) (p.run_append_bind_kleisli q r x)
    · apply bind_congr
      intro x
      exact congrArg (· >>= ending.noted.run) (hstages x)

/-- The second of three stages leaves no value. The functions count their calls in the state. -/
theorem pipelines_refine_options_of_halving :
    let produce : Unit → StateM Nat Nat := fun _ => modifyGet fun count => (6, count + 1)
    let halve : Nat → StateM Nat (Maybe Nat) := fun n =>
      modifyGet fun count => (.ofCondition (n % 2 == 0) fun _ => n / 2, count + 1)
    let once : Pipeline (StateM Nat) Nat Nat := .bind halve .done
    let ending : Ending (StateM Nat) Nat Nat := .evaluate (fun _ => pure 7) pure
    let whole : Chain (StateM Nat) Nat :=
      ⟨.ofCondition true produce, .append once (.append once once), ending⟩
    let bracketed : Chain (StateM Nat) Nat :=
      ⟨.ofCondition true produce, .append once (.bind once.kleisli once), ending⟩
    LawfulMonad (StateM Nat) ∧ whole.run = whole.runOption ∧ whole.runOption.run 0 = (7, 3) ∧
      (whole.noted.run.run []).run 0 =
        ((7, [.producer, .stage 0, .stage 1, .onEmpty]), 3) ∧
      bracketed.run = whole.run := by
  intro produce halve once ending whole bracketed
  obtain ⟨-, -, hrefines, hcalls, hbrackets⟩ := pipelines_refine_options
  obtain ⟨hrun, -⟩ := hbrackets (StateM Nat) Nat Nat Nat Nat Nat (.ofCondition true produce)
    once once once ending
  exact ⟨inferInstance, hrefines (StateM Nat) Nat whole, rfl, hcalls Nat Nat whole 0, hrun⟩

end ShuntingYard
