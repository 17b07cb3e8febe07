import Mathlib.Logic.Basic

/-!
What `EStateM` leaves out of its simp set: how a `try`, a raise at any type,
a branch and a raised `Except` run, and the two halves of a result. A raise
keeps the changes made before it, as a Python exception does.
-/

namespace DispenserHub.Effects
open EStateM (Result)

variable {ε σ α : Type}

/-- What a program answered: its value or what it raised. -/
def answer : Result ε σ α → Except ε α
  | .ok a _ => .ok a
  | .error e _ => .error e

/-- The state a program left behind, whether it returned or raised. -/
def final : Result ε σ α → σ
  | .ok _ s => s
  | .error _ s => s

@[simp] theorem answer_ok (a : α) (s : σ) : answer (.ok a s : Result ε σ α) = .ok a := rfl
@[simp] theorem answer_error (e : ε) (s : σ) : answer (.error e s : Result ε σ α) = .error e := rfl
@[simp] theorem final_ok (a : α) (s : σ) : final (.ok a s : Result ε σ α) = s := rfl
@[simp] theorem final_error (e : ε) (s : σ) : final (.error e s : Result ε σ α) = s := rfl

/-- A raise rolls nothing back. -/
@[simp] theorem restore_save (s before : σ) :
    EStateM.Backtrackable.restore s (EStateM.Backtrackable.save before) = s := rfl

@[simp] theorem run_tryCatch (x : EStateM ε σ α) (handle : ε → EStateM ε σ α) (s : σ) :
    EStateM.run (tryCatch x handle) s =
      match EStateM.run x s with
      | .ok a s => .ok a s
      | .error e s => EStateM.run (handle e) s := by
  simp only [tryCatch, tryCatchThe, MonadExceptOf.tryCatch, EStateM.run]
  delta EStateM.tryCatch
  cases x s <;> rfl

@[simp] theorem run_raise (e : ε) (s : σ) :
    EStateM.run (throw e : EStateM ε σ α) s = .error e s := rfl

@[simp] theorem run_ite (c : Prop) [Decidable c] (x y : EStateM ε σ α) (s : σ) :
    EStateM.run (if c then x else y) s = if c then EStateM.run x s else EStateM.run y s :=
  apply_ite (fun z => EStateM.run z s) c x y

/-- A pure part of a program: it raises what the value holds and changes nothing. -/
def raised : Except ε α → EStateM ε σ α
  | .ok a => pure a
  | .error e => throw e

@[simp] theorem run_raised (result : Except ε α) (s : σ) :
    EStateM.run (raised result : EStateM ε σ α) s =
      match result with
      | .ok a => .ok a s
      | .error e => .error e s := by
  cases result <;> rfl

@[simp] theorem run_map {β : Type} (f : α → β) (x : EStateM ε σ α) (s : σ) :
    EStateM.run (f <$> x) s =
      match EStateM.run x s with
      | .ok a s => .ok (f a) s
      | .error e s => .error e s := rfl

end DispenserHub.Effects
