import FastapiCore.Library.Effect
import Mathlib.Data.Set.Basic

/-!
# Context managers and the blocks which run under them

A `ContextManager` is a generator function whose only `yield` stands in the
`try` block of a `try … finally` statement.  The body of a `with` statement
takes the place of the `yield`, so it runs between `enter` and `leave`, and
`leave` runs on every way out.

The cells of a state which a manager saves and restores are described by a
family of views.  `Script` is the syntax of programs which open such blocks
inside each other.
-/

namespace FastapiCore.Library

universe u v w

/-- A generator function with one `yield`, which is in a `try` block. -/
structure ContextManager (σ ω ρ ε : Type u) where
  /-- What the function remembers when it reaches the `try` statement. -/
  save : ω → σ → ρ
  /-- The `try` block up to the `yield`. -/
  enter : ω → Effect σ ε PUnit
  /-- The `finally` block. -/
  leave : ρ → Effect σ ε PUnit

namespace ContextManager

variable {σ ω ρ ε α : Type u}

/-- The `try` block, with a body in place of the `yield`. -/
def attempted (manager : ContextManager σ ω ρ ε) (argument : ω)
    (body : Effect σ ε α) : Effect σ ε α := do
  manager.enter argument
  body

/-- `with manager(argument): body`. -/
def block (manager : ContextManager σ ω ρ ε) (argument : ω)
    (body : Effect σ ε α) : Effect σ ε α := do
  let state ← Effect.read
  Effect.tryFinally (manager.attempted argument body)
    (manager.leave (manager.save argument state))

/-- The state in which the body starts, if it starts. -/
def started (manager : ContextManager σ ω ρ ε) (argument : ω) (state : σ) :
    Option σ :=
  match (manager.enter argument).run state with
  | (.ok _, entered) => some entered
  | (.error _, _) => none

/-- The state which the body leaves: that at entry if it never starts. -/
def leftByBody (manager : ContextManager σ ω ρ ε) (argument : ω)
    (body : Effect σ ε α) (state : σ) : σ :=
  match manager.started argument state with
  | some entered => (body.run entered).2
  | none => state

theorem run_block (manager : ContextManager σ ω ρ ε) (argument : ω)
    (body : Effect σ ε α) (state : σ) :
    (manager.block argument body).run state =
      (Effect.tryFinally (manager.attempted argument body)
          (manager.leave (manager.save argument state))).run state :=
  rfl

/-- The body starts in the state in which entering has returned. -/
theorem started_eq_some_iff {manager : ContextManager σ ω ρ ε}
    {argument : ω} {state entered : σ} :
    manager.started argument state = some entered ↔
      (manager.enter argument).run state = (.ok ⟨⟩, entered) := by
  rw [started]
  rcases (manager.enter argument).run state with ⟨outcome, later⟩
  cases outcome with
  | ok _ => simp
  | error _ => simp

/-! ## The cells which a manager restores -/

/--
The manager restores the cells `touched argument` and leaves the others to
the body.
-/
structure Restores {κ : Type v} {τ : Type w}
    (manager : ContextManager σ ω ρ ε) (view : κ → σ → τ)
    (touched : ω → Set κ) : Prop where
  /-- The `finally` block restores a touched cell from any state. -/
  restored :
    ∀ argument, ∀ cell ∈ touched argument, ∀ entry later,
      view cell ((manager.leave (manager.save argument entry)).run later).2 =
        view cell entry
  /-- Entering a block does not change any other cell. -/
  enterKeeps :
    ∀ argument, ∀ cell ∉ touched argument,
      Effect.Preserves (view cell) (manager.enter argument)
  /-- Leaving a block does not change any other cell. -/
  leaveKeeps :
    ∀ argument, ∀ cell ∉ touched argument, ∀ entry,
      Effect.Preserves (view cell)
        (manager.leave (manager.save argument entry))

namespace Restores

variable {κ : Type v} {τ : Type w} {manager : ContextManager σ ω ρ ε}
  {view : κ → σ → τ} {touched : ω → Set κ}

/-- A touched cell is as at entry after the block, whatever the body does. -/
theorem preserves_of_mem (restores : manager.Restores view touched)
    {argument : ω} {cell : κ} (member : cell ∈ touched argument)
    (body : Effect σ ε α) :
    Effect.Preserves (view cell) (manager.block argument body) := by
  intro state
  rw [run_block, Effect.state_tryFinally]
  exact restores.restored argument cell member state _

/-- Any other cell is after the block as the body has left it. -/
theorem view_block_of_not_mem (restores : manager.Restores view touched)
    {argument : ω} {cell : κ} (absent : cell ∉ touched argument)
    (body : Effect σ ε α) (state : σ) :
    view cell ((manager.block argument body).run state).2 =
      view cell (manager.leftByBody argument body state) := by
  have entering := restores.enterKeeps argument cell absent state
  rw [run_block, Effect.Preserves.run_tryFinally
    (restores.leaveKeeps argument cell absent state)]
  rw [attempted, Effect.run_bind, leftByBody, started]
  rcases enterRun : (manager.enter argument).run state with ⟨outcome, later⟩
  rw [enterRun] at entering
  cases outcome with
  | ok _ => rfl
  | error _ => exact entering

/-- A block preserves a cell which its body may change only if touched. -/
theorem preserves_block (restores : manager.Restores view touched)
    {argument : ω} {cell : κ} {body : Effect σ ε α}
    (bodyKeeps :
      cell ∉ touched argument → Effect.Preserves (view cell) body) :
    Effect.Preserves (view cell) (manager.block argument body) := by
  by_cases member : cell ∈ touched argument
  · exact restores.preserves_of_mem member body
  · refine Effect.Preserves.bind Effect.Preserves.read fun entry => ?_
    refine
      Effect.Preserves.tryFinally ?_
        (restores.leaveKeeps argument cell member entry)
    exact
      Effect.Preserves.bind (restores.enterKeeps argument cell member)
        fun _ => bodyKeeps member

end Restores

end ContextManager

/-! ## Programs which open blocks inside each other -/

/--
A program of computations and blocks, which goes on according to how the last
of them has ended and to the state which it has left.
-/
inductive Script (σ ω ε : Type u) where
  | done (outcome : Except ε PUnit)
  | act (action : Effect σ ε PUnit)
      (next : Except ε PUnit → σ → Script σ ω ε)
  | block (argument : ω) (body : Script σ ω ε)
      (next : Except ε PUnit → σ → Script σ ω ε)

namespace Script

variable {σ ω ρ ε : Type u}

/-- Go on with the outcome of a step and the state which it has left. -/
def continueWith (step : Effect σ ε PUnit)
    (next : Except ε PUnit → σ → Effect σ ε PUnit) : Effect σ ε PUnit := do
  let outcome ← Effect.attempt step
  let state ← Effect.read
  next outcome state

theorem preserves_continueWith {τ : Type w} {view : σ → τ}
    {step : Effect σ ε PUnit}
    {next : Except ε PUnit → σ → Effect σ ε PUnit}
    (first : Effect.Preserves view step)
    (second :
      ∀ outcome state, Effect.Preserves view (next outcome state)) :
    Effect.Preserves view (continueWith step next) := by
  refine Effect.Preserves.bind first.attempt fun outcome => ?_
  exact Effect.Preserves.bind Effect.Preserves.read (second outcome)

/-- The computation of a program whose blocks run under the manager. -/
def computation (manager : ContextManager σ ω ρ ε) :
    Script σ ω ε → Effect σ ε PUnit
  | done outcome => Effect.ofExcept outcome
  | act action next =>
      continueWith action fun outcome state =>
        (next outcome state).computation manager
  | block argument body next =>
      continueWith (manager.block argument (body.computation manager))
        fun outcome state => (next outcome state).computation manager

/-- One run of a block: its argument, its body and the state at entry. -/
structure Visit (σ ω ε : Type u) where
  argument : ω
  body : Effect σ ε PUnit
  entry : σ

namespace Visit

/-- How the block ends. -/
def outcome (manager : ContextManager σ ω ρ ε) (visit : Visit σ ω ε) :
    Except ε PUnit :=
  ((manager.block visit.argument visit.body).run visit.entry).1

/-- The state after the block. -/
def exit (manager : ContextManager σ ω ρ ε) (visit : Visit σ ω ε) : σ :=
  ((manager.block visit.argument visit.body).run visit.entry).2

/-- The state which the body leaves. -/
def left (manager : ContextManager σ ω ρ ε) (visit : Visit σ ω ε) : σ :=
  manager.leftByBody visit.argument visit.body visit.entry

end Visit

/-- The runs of the blocks of a program at every depth, in order of entry. -/
def visits (manager : ContextManager σ ω ρ ε) :
    Script σ ω ε → σ → List (Visit σ ω ε)
  | done _, _ => []
  | act action next, state =>
      let (outcome, later) := action.run state
      (next outcome later).visits manager later
  | block argument body next, state =>
      let visit := ⟨argument, body.computation manager, state⟩
      let inner :=
        match manager.started argument state with
        | some entered => body.visits manager entered
        | none => []
      let later := visit.exit manager
      visit :: inner ++
        (next (visit.outcome manager) later).visits manager later

/--
The actions of the program change only the cells `scope`, and those which an
enclosing block of the program touches.
-/
def Confined {κ : Type v} {τ : Type w} (view : κ → σ → τ)
    (touched : ω → Set κ) : Set κ → Script σ ω ε → Prop
  | _, done _ => True
  | scope, act action next =>
      (∀ cell ∉ scope, Effect.Preserves (view cell) action) ∧
        ∀ outcome state, (next outcome state).Confined view touched scope
  | scope, block argument body next =>
      body.Confined view touched (scope ∪ touched argument) ∧
        ∀ outcome state, (next outcome state).Confined view touched scope

/-- What a block may change inside does not get out of it, at any depth. -/
theorem Confined.preserves {κ : Type v} {τ : Type w}
    {manager : ContextManager σ ω ρ ε} {view : κ → σ → τ}
    {touched : ω → Set κ} (restores : manager.Restores view touched)
    {scope : Set κ} {script : Script σ ω ε}
    (confined : script.Confined view touched scope) {cell : κ}
    (outside : cell ∉ scope) :
    Effect.Preserves (view cell) (script.computation manager) := by
  induction script generalizing scope with
  | done outcome => exact Effect.Preserves.ofExcept outcome
  | act action next induction =>
      refine
        preserves_continueWith (confined.1 cell outside)
          fun outcome state => ?_
      exact induction outcome state (confined.2 outcome state) outside
  | block argument body next bodyInduction induction =>
      have keeps :
          Effect.Preserves (view cell)
            (manager.block argument (body.computation manager)) := by
        refine restores.preserves_block fun untouched => ?_
        refine bodyInduction confined.1 ?_
        rintro (member | member)
        · exact outside member
        · exact untouched member
      refine preserves_continueWith keeps fun outcome state => ?_
      exact induction outcome state (confined.2 outcome state) outside

end Script

end FastapiCore.Library
