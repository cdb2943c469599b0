import Mathlib.Data.List.Basic

/-!
# Computations which change a state and may raise

`Effect σ ε α` is the meaning of a Python statement block over a mutable
state `σ`: it either returns a value or raises an exception, and in both
cases the changes made so far persist.  `tryExcept` and `tryFinally` follow
the Python statements of the same names.  In particular an exception raised
by a cleanup block replaces the outcome of the block it cleans up.

The second half is a Hoare logic for these computations.  A triple has two
postconditions, one for a normal return and one for a raise, so cleanup code
is specified on every way of leaving a block at once.
-/

namespace FastapiCore.Library

universe u v

/-- A computation on `σ` which returns an `α` or raises an `ε`. -/
def Effect (σ ε α : Type u) :=
  σ → Except ε α × σ

namespace Effect

variable {σ ε α β : Type u}

/-- Run a computation from a state. -/
def run (program : Effect σ ε α) (state : σ) : Except ε α × σ :=
  program state

@[ext]
theorem ext {left right : Effect σ ε α}
    (same : ∀ state, left.run state = right.run state) : left = right :=
  funext same

/-- Sequential composition: a raise skips the continuation. -/
def andThen (program : Effect σ ε α) (next : α → Effect σ ε β) :
    Effect σ ε β :=
  fun state =>
    match program state with
    | (.ok value, later) => next value later
    | (.error raised, later) => (.error raised, later)

instance : Monad (Effect σ ε) where
  pure value := fun state => (.ok value, state)
  bind := andThen

/-- Raise an exception. -/
def raise (exception : ε) : Effect σ ε α :=
  fun state => (.error exception, state)

/-- Return or raise as an already computed outcome says. -/
def ofExcept (outcome : Except ε α) : Effect σ ε α :=
  fun state => (outcome, state)

/-- Read the state. -/
def read : Effect σ ε σ :=
  fun state => (.ok state, state)

/-- Change the state. -/
def update (change : σ → σ) : Effect σ ε PUnit :=
  fun state => (.ok ⟨⟩, change state)

/-- `try: body  except BaseException as exception: handler(exception)`. -/
def tryExcept (body : Effect σ ε α) (handler : ε → Effect σ ε α) :
    Effect σ ε α :=
  fun state =>
    match body state with
    | (.ok value, later) => (.ok value, later)
    | (.error raised, later) => handler raised later

/-- `try: body  finally: cleanup`. -/
def tryFinally (body : Effect σ ε α) (cleanup : Effect σ ε PUnit) :
    Effect σ ε α :=
  fun state =>
    match body state with
    | (outcome, later) =>
        match cleanup later with
        | (.ok _, last) => (outcome, last)
        | (.error raised, last) => (.error raised, last)

/-- Go on with the outcome of a computation, also after a raise. -/
def attempt (program : Effect σ ε α) : Effect σ ε (Except ε α) :=
  fun state => (.ok (program state).1, (program state).2)

@[simp]
theorem run_pure (value : α) (state : σ) :
    (pure value : Effect σ ε α).run state = (.ok value, state) :=
  rfl

@[simp]
theorem run_raise (exception : ε) (state : σ) :
    (raise exception : Effect σ ε α).run state = (.error exception, state) :=
  rfl

@[simp]
theorem run_ofExcept (outcome : Except ε α) (state : σ) :
    (ofExcept outcome : Effect σ ε α).run state = (outcome, state) :=
  rfl

theorem run_bind
    (program : Effect σ ε α) (next : α → Effect σ ε β) (state : σ) :
    (program >>= next).run state =
      match program.run state with
      | (.ok value, later) => (next value).run later
      | (.error raised, later) => (.error raised, later) :=
  rfl

/-- Blocks may be grouped in any way. -/
theorem bind_assoc {γ : Type u} (program : Effect σ ε α)
    (next : α → Effect σ ε β) (last : β → Effect σ ε γ) :
    program >>= next >>= last =
      program >>= fun value => next value >>= last := by
  ext state : 1
  simp only [run_bind]
  rcases program.run state with ⟨result, later⟩
  cases result <;> rfl

theorem run_read_bind (next : σ → Effect σ ε β) (state : σ) :
    (read >>= next).run state = (next state).run state :=
  rfl

theorem run_update_bind
    (change : σ → σ) (next : PUnit → Effect σ ε β) (state : σ) :
    (update change >>= next).run state = (next ⟨⟩).run (change state) :=
  rfl

theorem run_tryExcept
    (body : Effect σ ε α) (handler : ε → Effect σ ε α) (state : σ) :
    (tryExcept body handler).run state =
      match body.run state with
      | (.ok value, later) => (.ok value, later)
      | (.error raised, later) => (handler raised).run later :=
  rfl

theorem run_tryFinally
    (body : Effect σ ε α) (cleanup : Effect σ ε PUnit) (state : σ) :
    (tryFinally body cleanup).run state =
      match body.run state with
      | (outcome, later) =>
          match cleanup.run later with
          | (.ok _, last) => (outcome, last)
          | (.error raised, last) => (.error raised, last) :=
  rfl

/-- The outcome of a block after its cleanup, whose own raise wins. -/
def afterCleanup : Except ε PUnit → Except ε α → Except ε α
  | .ok _, outcome => outcome
  | .error raised, _ => .error raised

/-- A block with its cleanup, from the runs of both. -/
theorem run_tryFinally_eq {body : Effect σ ε α}
    {cleanup : Effect σ ε PUnit} {state later last : σ}
    {outcome : Except ε α} {cleaned : Except ε PUnit}
    (bodyRun : body.run state = (outcome, later))
    (cleanupRun : cleanup.run later = (cleaned, last)) :
    (tryFinally body cleanup).run state =
      (afterCleanup cleaned outcome, last) := by
  rw [run_tryFinally, bodyRun]
  dsimp only
  rw [cleanupRun]
  cases cleaned <;> rfl

/-- The cleanup runs last, in the state which the block has left. -/
theorem state_tryFinally (body : Effect σ ε α)
    (cleanup : Effect σ ε PUnit) (state : σ) :
    ((tryFinally body cleanup).run state).2 =
      (cleanup.run (body.run state).2).2 := by
  rcases bodyRun : body.run state with ⟨outcome, later⟩
  rcases cleanupRun : cleanup.run later with ⟨cleaned, last⟩
  rw [run_tryFinally_eq bodyRun cleanupRun]

theorem run_attempt_bind (program : Effect σ ε α)
    (next : Except ε α → Effect σ ε β) (state : σ) :
    (attempt program >>= next).run state =
      (next (program.run state).1).run (program.run state).2 :=
  rfl

/-! ## What a computation leaves unchanged -/

/-- However the program ends, the part `view` of the state is unchanged. -/
def Preserves {τ : Type v} (view : σ → τ) (program : Effect σ ε α) :
    Prop :=
  ∀ state, view (program.run state).2 = view state

namespace Preserves

variable {τ : Type v} {view : σ → τ}

theorem pure (value : α) :
    Preserves view (Pure.pure value : Effect σ ε α) :=
  fun _ => rfl

theorem raise (exception : ε) :
    Preserves view (Effect.raise exception : Effect σ ε α) :=
  fun _ => rfl

theorem ofExcept (outcome : Except ε α) :
    Preserves view (Effect.ofExcept outcome) :=
  fun _ => rfl

theorem read : Preserves view (Effect.read : Effect σ ε σ) :=
  fun _ => rfl

theorem update {change : σ → σ}
    (unchanged : ∀ state, view (change state) = view state) :
    Preserves view (Effect.update change : Effect σ ε PUnit) :=
  unchanged

theorem bind {program : Effect σ ε α} {next : α → Effect σ ε β}
    (first : Preserves view program)
    (second : ∀ value, Preserves view (next value)) :
    Preserves view (program >>= next) := by
  intro state
  have kept := first state
  rw [run_bind]
  rcases programRun : program.run state with ⟨result, later⟩
  rw [programRun] at kept
  cases result with
  | ok value => exact (second value later).trans kept
  | error exception => exact kept

theorem tryExcept {body : Effect σ ε α} {handler : ε → Effect σ ε α}
    (bodyKeeps : Preserves view body)
    (handlerKeeps : ∀ exception, Preserves view (handler exception)) :
    Preserves view (Effect.tryExcept body handler) := by
  intro state
  have kept := bodyKeeps state
  rw [run_tryExcept]
  rcases bodyRun : body.run state with ⟨result, later⟩
  rw [bodyRun] at kept
  cases result with
  | ok value => exact kept
  | error exception => exact (handlerKeeps exception later).trans kept

theorem attempt {program : Effect σ ε α}
    (keeps : Preserves view program) :
    Preserves view (Effect.attempt program) :=
  keeps

theorem tryFinally {body : Effect σ ε α} {cleanup : Effect σ ε PUnit}
    (bodyKeeps : Preserves view body)
    (cleanupKeeps : Preserves view cleanup) :
    Preserves view (Effect.tryFinally body cleanup) := by
  intro state
  rw [state_tryFinally]
  exact (cleanupKeeps _).trans (bodyKeeps state)

theorem forM {ι : Type u} {step : ι → Effect σ ε PUnit}
    {elements : List ι}
    (stepKeeps : ∀ element ∈ elements, Preserves view (step element)) :
    Preserves view (ForM.forM elements step) := by
  induction elements with
  | nil => exact Preserves.pure PUnit.unit
  | cons element rest induction =>
      rw [List.forall_mem_cons] at stepKeeps
      rw [List.forM_cons]
      exact
        Preserves.bind stepKeeps.1 fun _ => induction stepKeeps.2

/-- A continuation which preserves the view leaves it to the program. -/
theorem run_bind {program : Effect σ ε α} {next : α → Effect σ ε β}
    (second : ∀ value, Preserves view (next value)) (state : σ) :
    view ((program >>= next).run state).2 =
      view (program.run state).2 := by
  rw [Effect.run_bind]
  rcases program.run state with ⟨result, later⟩
  cases result with
  | ok value => exact second value later
  | error exception => rfl

/-- A handler which preserves the view leaves it to the body. -/
theorem run_tryExcept {body : Effect σ ε α} {handler : ε → Effect σ ε α}
    (handlerKeeps : ∀ exception, Preserves view (handler exception))
    (state : σ) :
    view ((Effect.tryExcept body handler).run state).2 =
      view (body.run state).2 := by
  rw [Effect.run_tryExcept]
  rcases body.run state with ⟨result, later⟩
  cases result with
  | ok value => rfl
  | error exception => exact handlerKeeps exception later

/-- A cleanup which preserves the view leaves it to the body. -/
theorem run_tryFinally {body : Effect σ ε α} {cleanup : Effect σ ε PUnit}
    (cleanupKeeps : Preserves view cleanup) (state : σ) :
    view ((Effect.tryFinally body cleanup).run state).2 =
      view (body.run state).2 := by
  rw [state_tryFinally]
  exact cleanupKeeps _

end Preserves

/-! ## Two computations with the same outcomes -/

/-- From related states, both end alike and in related states. -/
def Simulates {τ : Type u} (related : σ → τ → Prop)
    (left : Effect σ ε α) (right : Effect τ ε α) : Prop :=
  ∀ state other, related state other →
    (left.run state).1 = (right.run other).1 ∧
      related (left.run state).2 (right.run other).2

namespace Simulates

variable {τ : Type u} {related : σ → τ → Prop}

theorem ofExcept (outcome : Except ε α) :
    Simulates related (Effect.ofExcept outcome)
      (Effect.ofExcept outcome) :=
  fun _ _ holds => ⟨rfl, holds⟩

/-- Programs which go on with equal outcomes in related states. -/
theorem attempt_bind {left : Effect σ ε α} {right : Effect τ ε α}
    {leftNext : Except ε α → Effect σ ε β}
    {rightNext : Except ε α → Effect τ ε β}
    (first : Simulates related left right)
    (second :
      ∀ outcome,
        Simulates related (leftNext outcome) (rightNext outcome)) :
    Simulates related (Effect.attempt left >>= leftNext)
      (Effect.attempt right >>= rightNext) := by
  intro state other holds
  have afterFirst := first state other holds
  simp only [run_attempt_bind, afterFirst.1]
  exact second _ _ _ afterFirst.2

end Simulates

/-! ## Triples with a postcondition for each way of leaving a block -/

/-- The outcome of a run satisfies the postcondition of its kind. -/
def Satisfies
    (returned : α → σ → Prop) (raised : ε → σ → Prop) :
    Except ε α × σ → Prop
  | (.ok value, state) => returned value state
  | (.error exception, state) => raised exception state

/--
From every state of `before`, the program returns into `returned` or raises
into `raised`.
-/
def Triple
    (before : σ → Prop) (program : Effect σ ε α)
    (returned : α → σ → Prop) (raised : ε → σ → Prop) : Prop :=
  ∀ state, before state → Satisfies returned raised (program.run state)

variable
    {before between : σ → Prop}
    {returned returned' : α → σ → Prop}
    {finished : β → σ → Prop}
    {raised raised' : ε → σ → Prop}

theorem Triple.pure (value : α)
    (holds : ∀ state, before state → returned value state) :
    Triple before (Pure.pure value : Effect σ ε α) returned raised :=
  holds

theorem Triple.ofExcept (outcome : Except ε α)
    (returns :
      ∀ value, outcome = .ok value →
        ∀ state, before state → returned value state)
    (raises :
      ∀ exception, outcome = .error exception →
        ∀ state, before state → raised exception state) :
    Triple before (Effect.ofExcept outcome) returned raised := by
  intro state holds
  cases outcome with
  | ok value => exact returns value rfl state holds
  | error exception => exact raises exception rfl state holds

theorem Triple.update {finished : PUnit → σ → Prop} (change : σ → σ)
    (holds : ∀ state, before state → finished ⟨⟩ (change state)) :
    Triple before (Effect.update change : Effect σ ε PUnit)
      finished raised :=
  holds

/-- Reading a state lets the continuation be specified for that state. -/
theorem Triple.read
    {next : σ → Effect σ ε β}
    (continues :
      ∀ current, before current →
        Triple (fun state => state = current) (next current)
          finished raised) :
    Triple before (Effect.read >>= next) finished raised := by
  intro state holds
  exact continues state holds state rfl

/-- A continuation which needs only what holds of the state it is given. -/
theorem Triple.read_keeping
    {next : σ → Effect σ ε β}
    (continues :
      ∀ current, Triple before (next current) finished raised) :
    Triple before (Effect.read >>= next) finished raised := by
  intro state holds
  exact continues state state holds

/-- A change of the state in front of a continuation. -/
theorem Triple.update_bind {next : PUnit → Effect σ ε β}
    (change : σ → σ)
    (continues : Triple between (next ⟨⟩) finished raised)
    (moves : ∀ state, before state → between (change state)) :
    Triple before (Effect.update change >>= next) finished raised :=
  fun state holds => continues (change state) (moves state holds)

theorem Triple.bind
    {program : Effect σ ε α} {next : α → Effect σ ε β}
    (first : Triple before program returned raised)
    (second :
      ∀ value, Triple (returned value) (next value) finished raised) :
    Triple before (program >>= next) finished raised := by
  intro state holds
  have outcome := first state holds
  rw [run_bind]
  rcases programRun : program.run state with ⟨result, later⟩
  rw [programRun] at outcome
  cases result with
  | ok value => exact second value later outcome
  | error exception => exact outcome

/-- A block which goes on with the outcome of another one. -/
theorem Triple.attempt_bind
    {program : Effect σ ε α} {next : Except ε α → Effect σ ε β}
    {onRaise : ε → σ → Prop}
    (first : Triple before program returned onRaise)
    (afterReturn :
      ∀ value, Triple (returned value) (next (.ok value)) finished raised)
    (afterRaise :
      ∀ exception,
        Triple (onRaise exception) (next (.error exception))
          finished raised) :
    Triple before (Effect.attempt program >>= next) finished raised := by
  intro state holds
  have outcome := first state holds
  rw [run_attempt_bind]
  rcases programRun : program.run state with ⟨result, later⟩
  rw [programRun] at outcome
  cases result with
  | ok value => exact afterReturn value later outcome
  | error exception => exact afterRaise exception later outcome

/-- A fact which does not depend on the state may be assumed. -/
theorem Triple.assume {program : Effect σ ε α} {fact : Prop}
    (triple :
      fact → Triple before program returned raised) :
    Triple (fun state => fact ∧ before state) program
      (fun value state => fact ∧ returned value state) raised := by
  rintro state ⟨known, holds⟩
  have outcome := triple known state holds
  rcases programRun : program.run state with ⟨result, later⟩
  rw [programRun] at outcome
  cases result with
  | ok value => exact ⟨known, outcome⟩
  | error exception => exact outcome

/-- Strengthen the precondition and weaken both postconditions. -/
theorem Triple.weaken
    {program : Effect σ ε α}
    (triple : Triple before program returned raised)
    (pre : ∀ state, between state → before state)
    (onReturn :
      ∀ value state, returned value state → returned' value state)
    (onRaise :
      ∀ exception state, raised exception state → raised' exception state) :
    Triple between program returned' raised' := by
  intro state holds
  have outcome := triple state (pre state holds)
  rcases programRun : program.run state with ⟨result, later⟩
  rw [programRun] at outcome
  cases result with
  | ok value => exact onReturn value later outcome
  | error exception => exact onRaise exception later outcome

/-- What holds after a raise may be weakened alone. -/
theorem Triple.weaken_raise
    {program : Effect σ ε α}
    (triple : Triple before program returned raised)
    (onRaise :
      ∀ exception state, raised exception state → raised' exception state) :
    Triple before program returned raised' :=
  triple.weaken (fun _ holds => holds) (fun _ _ holds => holds) onRaise

theorem Triple.tryExcept
    {body : Effect σ ε α} {handler : ε → Effect σ ε α}
    (bodyTriple : Triple before body returned raised)
    (handlerTriple :
      ∀ exception,
        Triple (raised exception) (handler exception) returned raised') :
    Triple before (Effect.tryExcept body handler) returned raised' := by
  intro state holds
  have outcome := bodyTriple state holds
  show Satisfies returned raised'
    (match body.run state with
    | (.ok value, later) => (.ok value, later)
    | (.error exception, later) => (handler exception).run later)
  rcases bodyRun : body.run state with ⟨result, later⟩
  rw [bodyRun] at outcome
  cases result with
  | ok value => exact outcome
  | error exception => exact handlerTriple exception later outcome

/-- One postcondition for both ways of leaving is about the last state. -/
theorem triple_iff_forall_run {program : Effect σ ε α} {after : σ → Prop} :
    Triple before program (fun _ => after) (fun _ => after) ↔
      ∀ state, before state → after (program.run state).2 := by
  have same (outcome : Except ε α × σ) :
      Satisfies (fun _ => after) (fun _ => after) outcome ↔
        after outcome.2 := by
    rcases outcome with ⟨result, last⟩
    cases result <;> exact Iff.rfl
  simp only [Triple, same]

/-- An assertion about a part of the state which the program preserves. -/
theorem Triple.of_preserves {τ : Type v} {view : σ → τ}
    {program : Effect σ ε α} (preserves : Preserves view program)
    (assertion : τ → Prop) :
    Triple (fun state => assertion (view state)) program
      (fun _ state => assertion (view state))
      (fun _ state => assertion (view state)) := by
  apply triple_iff_forall_run.mpr
  intro state holds
  rw [preserves state]
  exact holds

/--
A cleanup block is run on both ways of leaving the body.  Its own raise takes
precedence over the outcome of the body.
-/
theorem Triple.tryFinally
    {body : Effect σ ε α} {cleanup : Effect σ ε PUnit}
    (bodyTriple : Triple before body returned raised)
    (afterReturn :
      ∀ value,
        Triple (returned value) cleanup
          (fun _ => returned' value) raised')
    (afterRaise :
      ∀ exception,
        Triple (raised exception) cleanup
          (fun _ => raised' exception) raised') :
    Triple before (Effect.tryFinally body cleanup)
      returned' raised' := by
  intro state holds
  have outcome := bodyTriple state holds
  rcases bodyRun : body.run state with ⟨result, later⟩
  rcases cleanupRun : cleanup.run later with ⟨cleaned, last⟩
  rw [run_tryFinally_eq bodyRun cleanupRun]
  rw [bodyRun] at outcome
  cases result with
  | ok value =>
      have ended := afterReturn value later outcome
      rw [cleanupRun] at ended
      cases cleaned with
      | ok _ => exact ended
      | error _ => exact ended
  | error exception =>
      have ended := afterRaise exception later outcome
      rw [cleanupRun] at ended
      cases cleaned with
      | ok _ => exact ended
      | error _ => exact ended

/-! ## Loops -/

/--
A loop over a list, with an invariant indexed by the elements already
processed and the elements still to come.  A raise leaves the loop in the
middle of one element.
-/
theorem Triple.forM
    {ι : Type u} {step : ι → Effect σ ε PUnit}
    (invariant : List ι → List ι → σ → Prop)
    (stepTriple :
      ∀ done element rest,
        Triple (invariant done (element :: rest)) (step element)
          (fun _ => invariant (done ++ [element]) rest) raised)
    (elements : List ι) (done : List ι) :
    Triple (invariant done elements) (forM elements step)
      (fun _ => invariant (done ++ elements) []) raised := by
  induction elements generalizing done with
  | nil =>
      rw [List.append_nil]
      exact Triple.pure PUnit.unit (fun _ holds => holds)
  | cons element rest induction =>
      rw [List.forM_cons]
      refine Triple.bind (stepTriple done element rest) fun _ => ?_
      have remaining := induction (done ++ [element])
      simpa [List.append_assoc] using remaining

end Effect

end FastapiCore.Library
