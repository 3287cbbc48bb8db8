import ShuntingYard.Calls
import ShuntingYard.Maybe.Pipeline

/-!
# Chains

A chain makes a value that may be missing, sends it through a pipeline and ends in a result of some
type. It runs in the same way on optional values of the standard kind, with their own combinators in
the place of each step. Its functions may note their calls under the place where they stand, which
tells the calls of a run apart.
-/
namespace ShuntingYard

/-- Where in a chain a function stands. -/
inductive Site where
  | producer
  | stage (number : Nat)
  | onEmpty
  | onPresent
  deriving DecidableEq

/-- How a chain begins. -/
inductive Source (m : Type → Type) (α : Type) where
  | present (value : α)
  | empty
  | unit (value : α)
  | ofOption (option : Option α)
  | ofCondition (flag : Bool) (produce : Unit → m α)

/-- How a chain of values of one type ends in a result of another. -/
inductive Ending (m : Type → Type) (β : Type) : Type → Type 1 where
  | evaluate {ρ : Type} (onEmpty : Unit → m ρ) (onPresent : β → m ρ) : Ending m β ρ
  | evaluateStrict {ρ : Type} (emptyValue : ρ) (onPresent : β → m ρ) : Ending m β ρ
  | getOrElse (otherwise : β) : Ending m β β
  | isPresent : Ending m β Bool
  | toOption : Ending m β (Option β)

structure Chain (m : Type → Type) (ρ : Type) where
  {α : Type}
  {β : Type}
  source : Source m α
  stages : Pipeline m α β
  ending : Ending m β ρ

variable {m : Type → Type} [Monad m] {α β ρ : Type}

namespace Source

def run : Source m α → m (Maybe α)
  | present value => pure (.present value)
  | empty => pure .empty
  | unit value => pure (.unit value)
  | ofOption option => pure (.ofOption option)
  | ofCondition flag produce => Maybe.ofConditionM flag produce

def runOption : Source m α → m (Option α)
  | present value | unit value => pure (some value)
  | empty => pure none
  | ofOption option => pure option
  | ofCondition flag produce => if flag then some <$> produce () else pure none

def noted : Source m α → Source (StateT (List Site) m) α
  | present value => present value
  | empty => empty
  | unit value => unit value
  | ofOption option => ofOption option
  | ofCondition flag produce => ofCondition flag (ShuntingYard.noted .producer produce)

/-- The calls that making the value takes. -/
def calls : Source m α → List Site
  | ofCondition true _ => [.producer]
  | _ => []

end Source

/-- Each stage notes its calls under its number. -/
def Pipeline.noted : {α : Type} → Nat → Pipeline m α β → Pipeline (StateT (List Site) m) α β
  | _, _, done => done
  | _, number, map f rest => map (ShuntingYard.noted (.stage number) f) (rest.noted (number + 1))
  | _, number, bind f rest => bind (ShuntingYard.noted (.stage number) f) (rest.noted (number + 1))

namespace Ending

def run : {ρ : Type} → Ending m β ρ → Maybe β → m ρ
  | _, evaluate onEmpty onPresent, x => x.evaluate onEmpty onPresent
  | _, evaluateStrict emptyValue onPresent, x => x.evaluateStrict (pure emptyValue) onPresent
  | _, getOrElse otherwise, x => pure (x.getOrElse otherwise)
  | _, isPresent, x => pure x.isPresent
  | _, toOption, x => pure x.toOption

def runOption : {ρ : Type} → Ending m β ρ → Option β → m ρ
  | _, evaluate onEmpty onPresent, x => x.elim (onEmpty ()) onPresent
  | _, evaluateStrict emptyValue onPresent, x => x.elim (pure emptyValue) onPresent
  | _, getOrElse otherwise, x => pure (x.getD otherwise)
  | _, isPresent, x => pure x.isSome
  | _, toOption, x => pure x

def noted : {ρ : Type} → Ending m β ρ → Ending (StateT (List Site) m) β ρ
  | _, evaluate onEmpty onPresent =>
    evaluate (ShuntingYard.noted .onEmpty onEmpty) (ShuntingYard.noted .onPresent onPresent)
  | _, evaluateStrict emptyValue onPresent =>
    evaluateStrict emptyValue (ShuntingYard.noted .onPresent onPresent)
  | _, getOrElse otherwise => getOrElse otherwise
  | _, isPresent => isPresent
  | _, toOption => toOption

/-- The calls that the result takes, according to whether a value is there. -/
def calls : {ρ : Type} → Ending m β ρ → Bool → List Site
  | _, evaluate _ _, true | _, evaluateStrict _ _, true => [.onPresent]
  | _, evaluate _ _, false => [.onEmpty]
  | _, _, _ => []

end Ending

namespace Chain

def run (c : Chain m ρ) : m ρ := do
  let x ← c.source.run
  let y ← c.stages.run x
  c.ending.run y

def runOption (c : Chain m ρ) : m ρ := do
  let x ← c.source.runOption
  let y ← c.stages.runOption x
  c.ending.runOption y

/-- The chain whose functions note their calls. -/
def noted (c : Chain m ρ) : Chain (StateT (List Site) m) ρ :=
  ⟨c.source.noted, c.stages.noted 0, c.ending.noted⟩

end Chain

end ShuntingYard
