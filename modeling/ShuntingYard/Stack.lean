import ShuntingYard.Maybe

/-!
# Stacks and their draining

A stack keeps its items with the top first; the list view runs from the bottom to the top. Draining
pops items from one stack onto another for as long as a condition accepts the top. The condition may
have effects of its own, so that its answers may depend on the calls before: it is asked once about
each item that moves and once about the item that stays on top, and never when nothing is left.
-/
namespace ShuntingYard

structure Stack (α : Type) where
  /-- The items, the top first. -/
  items : List α
  deriving DecidableEq

namespace Stack

variable {α β : Type} {m : Type → Type}

instance : EmptyCollection (Stack α) := ⟨⟨[]⟩⟩

/-- The stack that holds the given items, the last of them on top. -/
def ofList (l : List α) : Stack α := ⟨l.reverse⟩

/-- The items from the bottom to the top. -/
def toList (s : Stack α) : List α := s.items.reverse

def push (s : Stack α) (a : α) : Stack α := ⟨a :: s.items⟩

/-- The stack without its top; the empty stack stays as it is. -/
def pop (s : Stack α) : Stack α := ⟨s.items.tail⟩

def top (s : Stack α) : Maybe α := .ofOption s.items.head?

def map (f : α → β) (s : Stack α) : Stack β := ⟨s.items.map f⟩

/-- Moves items from the first list to the front of the second while they are accepted. -/
def drainItems [Monad m] (accepts : α → m Bool) : List α → List α → m (List α × List α)
  | [], target => pure ([], target)
  | a :: rest, target => do
    if ← accepts a then drainItems accepts rest (a :: target) else pure (a :: rest, target)

/-- Pops items from the source onto the target for as long as the condition accepts the top, and
returns what the two stacks then hold. -/
def drainM [Monad m] (accepts : α → m Bool) (source target : Stack α) :
    m (Stack α × Stack α) := do
  let (kept, filled) ← drainItems accepts source.items target.items
  return (⟨kept⟩, ⟨filled⟩)

/-- Draining under a condition that depends on the item alone. -/
def drain (accepts : α → Bool) (source target : Stack α) : Stack α × Stack α :=
  (⟨source.items.dropWhile accepts⟩, ⟨(source.items.takeWhile accepts).reverse ++ target.items⟩)

@[simp] theorem toList_ofList (l : List α) : (ofList l).toList = l := by
  simp [ofList, toList]

@[simp] theorem ofList_toList (s : Stack α) : ofList s.toList = s := by
  simp [ofList, toList]

@[simp] theorem toList_push (s : Stack α) (a : α) : (s.push a).toList = s.toList ++ [a] := by
  simp [push, toList]

@[simp] theorem toList_pop (s : Stack α) : s.pop.toList = s.toList.dropLast := by
  simp [pop, toList]

theorem toList_inj {s t : Stack α} : s.toList = t.toList ↔ s = t := by
  cases s; cases t; simp [toList]

theorem drainItems_pure [Monad m] [LawfulMonad m] (accepts : α → Bool) (source target : List α) :
    drainItems (fun a => (pure (accepts a) : m Bool)) source target =
      pure (source.dropWhile accepts, (source.takeWhile accepts).reverse ++ target) := by
  induction source generalizing target with
  | nil => simp [drainItems]
  | cons a rest ih => cases h : accepts a <;> simp [drainItems, h, ih]

theorem drainM_pure [Monad m] [LawfulMonad m] (accepts : α → Bool) (source target : Stack α) :
    drainM (fun a => (pure (accepts a) : m Bool)) source target =
      pure (drain accepts source target) := by
  simp [drainM, drain, drainItems_pure]

end Stack

end ShuntingYard
