import ShuntingYard.Text.Structured

/-!
# Values that may be missing

A value is present or the whole is empty. The two cases are told apart in `evaluate` alone, which
runs exactly one of the two functions it is given; every other combinator is built on it and so runs
no function that it does not need. The combinators that end in `M` take functions with effects,
whose order and number are therefore part of the result.
-/
namespace ShuntingYard

inductive Maybe (α : Type) where
  | empty
  | present (value : α)
  deriving DecidableEq

namespace Maybe

variable {α β γ : Type} {m : Type → Type}

instance : Inhabited (Maybe α) := ⟨empty⟩

/-- Runs one of the two functions, according to whether a value is present. -/
def evaluate (x : Maybe α) (onEmpty : Unit → β) (onPresent : α → β) : β :=
  match x with
  | empty => onEmpty ()
  | present value => onPresent value

/-- The empty case is a value that has been computed already. -/
def evaluateStrict (x : Maybe α) (emptyValue : β) (onPresent : α → β) : β :=
  x.evaluate (fun _ => emptyValue) onPresent

def unit (value : α) : Maybe α := present value

/-- The value is produced only where the flag holds. -/
def ofCondition (flag : Bool) (produce : Unit → α) : Maybe α :=
  if flag then present (produce ()) else empty

def map (f : α → β) (x : Maybe α) : Maybe β :=
  x.evaluate (fun _ => empty) fun value => present (f value)

def bind (x : Maybe α) (f : α → Maybe β) : Maybe β :=
  x.evaluate (fun _ => empty) f

def getOrElse (x : Maybe α) (otherwise : α) : α := x.evaluateStrict otherwise id

def isPresent (x : Maybe α) : Bool := x.evaluateStrict false fun _ => true

def isEmpty (x : Maybe α) : Bool := !x.isPresent

def ofOption : Option α → Maybe α
  | none => empty
  | some value => present value

def toOption (x : Maybe α) : Option α := x.evaluate (fun _ => none) some

/-- The diagnostic form, given the one of the value. -/
def diagnostic (shown : α → String) (x : Maybe α) : String :=
  x.evaluate (fun _ => "Empty") fun value => Text.applied "Present" (shown value)

section Effects

variable [Monad m]

def ofConditionM (flag : Bool) (produce : Unit → m α) : m (Maybe α) :=
  if flag then present <$> produce () else pure empty

def mapM (f : α → m β) (x : Maybe α) : m (Maybe β) :=
  x.evaluate (fun _ => pure empty) fun value => present <$> f value

def bindM (x : Maybe α) (f : α → m (Maybe β)) : m (Maybe β) :=
  x.evaluate (fun _ => pure empty) f

theorem ofConditionM_pure [LawfulMonad m] (flag : Bool) (produce : Unit → α) :
    ofConditionM flag (fun _ => (pure (produce ()) : m α)) = pure (ofCondition flag produce) := by
  cases flag <;> simp [ofConditionM, ofCondition]

theorem mapM_pure [LawfulMonad m] (f : α → β) (x : Maybe α) :
    mapM (fun value => (pure (f value) : m β)) x = pure (map f x) := by
  cases x <;> simp [mapM, map, evaluate]

theorem bindM_pure (f : α → Maybe β) (x : Maybe α) :
    bindM x (fun value => (pure (f value) : m (Maybe β))) = pure (bind x f) := by
  cases x <;> rfl

end Effects

@[simp] theorem evaluate_empty (onEmpty : Unit → β) (onPresent : α → β) :
    evaluate empty onEmpty onPresent = onEmpty () := rfl

@[simp] theorem evaluate_present (value : α) (onEmpty : Unit → β) (onPresent : α → β) :
    evaluate (present value) onEmpty onPresent = onPresent value := rfl

@[simp] theorem ofOption_toOption (x : Maybe α) : ofOption x.toOption = x := by
  cases x <;> rfl

@[simp] theorem toOption_ofOption (x : Option α) : (ofOption x).toOption = x := by
  cases x <;> rfl

theorem isPresent_eq_isSome (x : Maybe α) : x.isPresent = x.toOption.isSome := by
  cases x <;> rfl

end Maybe

end ShuntingYard
