import FastapiCore.Library.Effect

/-!
# Programs which call their environment

An `Interaction` is a program of which only the calls of one operation are
known.  It ends, or it calls the operation with an `ω` and goes on according
to the outcome of the call.  Where the operation is given as a computation, so
is the program.
-/

namespace FastapiCore.Library

universe u

/-- A program which calls an operation on `ω` and may raise an `ε`. -/
inductive Interaction (ω ε : Type u) where
  | done (outcome : Except ε PUnit)
  | call (argument : ω) (next : Except ε PUnit → Interaction ω ε)

namespace Interaction

variable {σ ω ε : Type u}

/-- The computation of a program, for an operation. -/
def interpret (operation : ω → Effect σ ε PUnit) :
    Interaction ω ε → Effect σ ε PUnit
  | done outcome => Effect.ofExcept outcome
  | call argument next => do
      let outcome ← Effect.attempt (operation argument)
      (next outcome).interpret operation

variable {operation : ω → Effect σ ε PUnit}

theorem run_interpret_call (argument : ω)
    (next : Except ε PUnit → Interaction ω ε) (state : σ) :
    ((call argument next).interpret operation).run state =
      ((next ((operation argument).run state).1).interpret operation).run
        ((operation argument).run state).2 :=
  rfl

/-- A program leaves unchanged what its calls leave unchanged. -/
theorem preserves_interpret {τ : Type u} {view : σ → τ}
    (keeps : ∀ argument, Effect.Preserves view (operation argument))
    (program : Interaction ω ε) :
    Effect.Preserves view (program.interpret operation) := by
  induction program with
  | done outcome => exact Effect.Preserves.ofExcept outcome
  | call argument next induction =>
      exact
        Effect.Preserves.bind (Effect.Preserves.attempt (keeps argument))
          induction

/-- An invariant of the calls, however they end, is one of the program. -/
theorem triple_interpret {invariant : σ → Prop}
    (keeps :
      ∀ argument,
        Effect.Triple invariant (operation argument)
          (fun _ => invariant) (fun _ => invariant))
    (program : Interaction ω ε) :
    Effect.Triple invariant (program.interpret operation)
      (fun _ => invariant) (fun _ => invariant) := by
  induction program with
  | done outcome =>
      exact
        Effect.Triple.ofExcept outcome (fun _ _ _ holds => holds)
          (fun _ _ _ holds => holds)
  | call argument next induction =>
      exact
        Effect.Triple.attempt_bind (keeps argument)
          (fun value => induction (.ok value))
          (fun exception => induction (.error exception))

/-- A program behaves alike for operations which simulate each other. -/
theorem simulates_interpret {τ : Type u} {related : σ → τ → Prop}
    {other : ω → Effect τ ε PUnit}
    (step :
      ∀ argument,
        Effect.Simulates related (operation argument) (other argument))
    (program : Interaction ω ε) :
    Effect.Simulates related (program.interpret operation)
      (program.interpret other) := by
  induction program with
  | done outcome => exact Effect.Simulates.ofExcept outcome
  | call argument next induction =>
      exact Effect.Simulates.attempt_bind (step argument) induction

end Interaction

end FastapiCore.Library
