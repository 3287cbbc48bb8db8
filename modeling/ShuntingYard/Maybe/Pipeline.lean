import ShuntingYard.Maybe

/-!
# Pipelines

A pipeline is a sequence of stages, each of which maps the value at hand or decides whether there is
one any more. The stages may have effects, so that running a pipeline tells which of them were
called and in what order. The same pipeline runs on optional values of the standard kind.
-/
namespace ShuntingYard

inductive Pipeline (m : Type → Type) : Type → Type → Type 1 where
  | done {α : Type} : Pipeline m α α
  | map {α β γ : Type} (f : α → m β) (rest : Pipeline m β γ) : Pipeline m α γ
  | bind {α β γ : Type} (f : α → m (Maybe β)) (rest : Pipeline m β γ) : Pipeline m α γ

namespace Pipeline

variable {m : Type → Type} {α β γ : Type}

def append : {α : Type} → Pipeline m α β → Pipeline m β γ → Pipeline m α γ
  | _, done, q => q
  | _, map f rest, q => map f (rest.append q)
  | _, bind f rest, q => bind f (rest.append q)

/-- The number of stages. -/
def length : {α : Type} → Pipeline m α β → Nat
  | _, done => 0
  | _, map _ rest | _, bind _ rest => rest.length + 1

/-- The first stages alone, and the type of the values that they lead to. -/
def take : {α : Type} → Pipeline m α β → Nat → (γ : Type) × Pipeline m α γ
  | _, done, _ | _, map _ _, 0 | _, bind _ _, 0 => ⟨_, done⟩
  | _, map f rest, n + 1 => ⟨_, map f (rest.take n).2⟩
  | _, bind f rest, n + 1 => ⟨_, bind f (rest.take n).2⟩

theorem take_length (p : Pipeline m α β) : p.take p.length = ⟨β, p⟩ := by
  induction p with
  | done => rfl
  | map f rest ih => rw [length, take, ih]
  | bind f rest ih => rw [length, take, ih]

variable [Monad m]

def run : {α : Type} → Pipeline m α β → Maybe α → m (Maybe β)
  | _, done, x => pure x
  | _, map f rest, x => x.mapM f >>= rest.run
  | _, bind f rest, x => x.bindM f >>= rest.run

/-- The pipeline on an option: nothing is called once there is no value. -/
def runOption : {α : Type} → Pipeline m α β → Option α → m (Option β)
  | _, done, x => pure x
  | _, map _ _, none | _, bind _ _, none => pure none
  | _, map f rest, some a => do rest.runOption (some (← f a))
  | _, bind f rest, some a => do rest.runOption (← f a).toOption

/-- The pipeline as one function on a value, as a single stage would have it. -/
def kleisli (p : Pipeline m α β) (a : α) : m (Maybe β) := p.run (.present a)

theorem run_empty [LawfulMonad m] (p : Pipeline m α β) : p.run .empty = pure .empty := by
  induction p with
  | done => rfl
  | map f rest ih => simpa [run, Maybe.mapM] using ih
  | bind f rest ih => simpa [run, Maybe.bindM] using ih

theorem runOption_none (p : Pipeline m α β) : p.runOption none = pure none := by
  cases p <;> rfl

theorem runOption_map [LawfulMonad m] (f : α → m β) (rest : Pipeline m β γ) (x : Option α) :
    (map f rest).runOption x = x.mapM f >>= rest.runOption := by
  cases x with
  | none => simp [runOption, runOption_none]
  | some a => simp [runOption]

theorem runOption_bind [LawfulMonad m] (f : α → m (Maybe β)) (rest : Pipeline m β γ)
    (x : Option α) :
    (bind f rest).runOption x = x.bindM (fun a => Maybe.toOption <$> f a) >>= rest.runOption := by
  cases x with
  | none => simp [runOption, runOption_none, Option.bindM]
  | some a => simp [runOption, Option.bindM]

theorem run_append [LawfulMonad m] (p : Pipeline m α β) (q : Pipeline m β γ) (x : Maybe α) :
    (p.append q).run x = p.run x >>= q.run := by
  induction p with
  | done => simp [append, run]
  | map f rest ih => rw [append, run, run, bind_assoc, funext (ih q)]
  | bind f rest ih => rw [append, run, run, bind_assoc, funext (ih q)]

end Pipeline

end ShuntingYard
