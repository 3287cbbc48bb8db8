/-!
# Recorded calls

A function with effects can keep a record of its calls. Which calls a program makes, in what order,
and how they were answered is then part of what running the program yields.
-/
namespace ShuntingYard

variable {α β : Type} {m : Type → Type}

/-- The function with a record of its arguments and answers, the latest first. -/
def recorded [Monad m] (f : α → m β) (a : α) : StateT (List (α × β)) m β := do
  let answer ← f a
  modify ((a, answer) :: ·)
  return answer

@[simp] theorem run_recorded [Monad m] [LawfulMonad m] (f : α → m β) (a : α)
    (calls : List (α × β)) :
    (recorded f a).run calls = (fun answer => (answer, (a, answer) :: calls)) <$> f a := by
  simp [recorded]

/-- The function with a note of each call under a label of its own, in the order of the calls. -/
def noted {ι : Type} [Monad m] (label : ι) (f : α → m β) (a : α) : StateT (List ι) m β := do
  modify (· ++ [label])
  f a

@[simp] theorem run_noted {ι : Type} [Monad m] [LawfulMonad m] (label : ι) (f : α → m β) (a : α)
    (notes : List ι) :
    (noted label f a).run notes = (fun answer => (answer, notes ++ [label])) <$> f a := by
  simp [noted]

end ShuntingYard
