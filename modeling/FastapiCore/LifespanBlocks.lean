import FastapiCore.Lifecycle

/-!
# What the blocks of a lifespan do

Closing never stops in the middle: the loop in `close` catches what every
closer raises.  Its effect is therefore a plain function of the state,
`AppState.closeAll`, and `close` and `rollback` are given by equations.  The
other blocks are described by what they leave unchanged.
-/

namespace FastapiCore

open Library
open Library.Effect

/-! ## Recorded steps -/

section Recorded

variable {α : Type} {step : LifespanStep} {block : Lifespan α}

theorem run_recorded (state : AppState) :
    (recorded step block).run state =
      match block.run state with
      | (.ok value, later) => (.ok value, later.record step none)
      | (.error exception, later) =>
          (.error exception, later.record step (some exception)) := by
  rw [recorded, run_tryExcept, run_bind]
  rcases block.run state with ⟨result, later⟩
  cases result <;> rfl

/-- A step ends as its block does. -/
theorem outcome_recorded (state : AppState) :
    ((recorded step block).run state).1 = (block.run state).1 := by
  rw [run_recorded]
  rcases block.run state with ⟨result, later⟩
  cases result <;> rfl

/-- A step is specified by its block and the two ways of recording it. -/
theorem triple_recorded
    {before : AppState → Prop} {returned : α → AppState → Prop}
    {raised : PyExc → AppState → Prop}
    (blockTriple :
      Triple before block
        (fun value state => returned value (state.record step none))
        (fun exception state =>
          raised exception (state.record step (some exception)))) :
    Triple before (recorded step block) returned raised := by
  intro state holds
  have outcome := blockTriple state holds
  rw [run_recorded]
  rcases blockRun : block.run state with ⟨result, later⟩
  rw [blockRun] at outcome
  cases result with
  | ok value => exact outcome
  | error exception => exact outcome

/-- A step whose outcome the environment gives. -/
theorem triple_recorded_ofExcept
    {before : AppState → Prop} {returned : α → AppState → Prop}
    {raised : PyExc → AppState → Prop} (outcome : Except PyExc α)
    (returns :
      ∀ value state, before state → returned value (state.record step none))
    (raises :
      ∀ exception state, before state →
        raised exception (state.record step (some exception))) :
    Triple before (recorded step (ofExcept outcome)) returned raised := by
  apply triple_recorded
  apply Triple.ofExcept
  · exact fun value _ => returns value
  · exact fun exception _ => raises exception

theorem preserves_recorded {τ : Type} {view : AppState → τ}
    (unrecorded :
      ∀ state raised, view (state.record step raised) = view state)
    (kept : Preserves view block) :
    Preserves view (recorded step block) := by
  apply Preserves.tryExcept
  · apply Preserves.bind kept
    intro value
    apply Preserves.bind (Preserves.update fun state => unrecorded state _)
    exact fun _ => Preserves.pure value
  · intro exception
    apply Preserves.bind (Preserves.update fun state => unrecorded state _)
    exact fun _ => Preserves.raise exception

end Recorded

theorem preserves_interrupt {τ : Type} {view : AppState → τ}
    (exception : Option PyExc) : Preserves view (interrupt exception) := by
  cases exception with
  | none => exact Preserves.pure _
  | some exception => exact Preserves.raise exception

/-! ## Blocks which neither record a step nor touch an instance -/

/-- The part of the state which follows the progress of a run. -/
structure Progress where
  events : List LifespanEvent
  instances : OrderedDict Name PyObject
  appRuntime : Option ServiceRuntime

/-- The progress of the current run. -/
def AppState.progress (state : AppState) : Progress where
  events := state.events
  instances := state.instances
  appRuntime := state.appRuntime

theorem preserves_registerSpec_of {τ : Type} {view : AppState → τ}
    (register :
      ∀ (state : AppState) (spec : ReadinessCheckSpec)
        (next : ReadinessRegistry),
        state.readinessRegistry.register spec = .ok next →
        view (state.setReadiness next) = view state)
    (spec : ReadinessCheckSpec) : Preserves view (registerSpec spec) := by
  intro state
  rw [registerSpec, run_read_bind, run_bind, run_ofExcept]
  cases registered : state.readinessRegistry.register spec with
  | error exception => rfl
  | ok next => exact register state spec next registered

theorem preserves_registerSpec (spec : ReadinessCheckSpec) :
    Preserves AppState.progress (registerSpec spec) :=
  preserves_registerSpec_of (fun _ _ _ _ => rfl) spec

theorem preserves_publishKeycloak {τ : Type} {view : AppState → τ}
    (publish :
      ∀ (state : AppState)
        (allowedAlgorithms : OrderedDict Nat (List String))
        (authProvider : Option PyObject),
        view { state with allowedAlgorithms, authProvider } = view state)
    (runtime : ServiceRuntime) :
    Preserves view (publishKeycloak runtime) := by
  apply Preserves.bind (Preserves.ofExcept _)
  intro client
  split
  · apply Preserves.bind (Preserves.ofExcept _)
    intro unwrapped
    split
    · exact Preserves.update fun state => publish state _ _
    · exact Preserves.pure _
  · exact Preserves.pure _

theorem preserves_refuseMissingChecks {τ : Type} {view : AppState → τ}
    (runtime : ServiceRuntime) :
    Preserves view (refuseMissingChecks runtime) := by
  rw [refuseMissingChecks]
  split
  · exact Preserves.pure _
  · exact Preserves.raise _

theorem preserves_refuseDuplicateNames {τ : Type} {view : AppState → τ}
    (runtime : ServiceRuntime) (registry : ReadinessRegistry) :
    Preserves view (refuseDuplicateNames runtime registry) := by
  rw [refuseDuplicateNames]
  split
  · exact Preserves.pure _
  · exact Preserves.raise _

/-- Connecting a runtime registers checks and publishes its clients. -/
theorem preserves_configureServiceRuntime_of {τ : Type}
    {view : AppState → τ}
    (register :
      ∀ (state : AppState) (spec : ReadinessCheckSpec)
        (next : ReadinessRegistry),
        state.readinessRegistry.register spec = .ok next →
        view (state.setReadiness next) = view state)
    (publish :
      ∀ (state : AppState)
        (allowedAlgorithms : OrderedDict Nat (List String))
        (authProvider : Option PyObject),
        view { state with allowedAlgorithms, authProvider } = view state)
    (connect :
      ∀ (state : AppState) (serviceRuntime : Option ServiceRuntime),
        view { state with serviceRuntime } = view state)
    (runtime : ServiceRuntime) :
    Preserves view (configureServiceRuntime runtime) := by
  apply Preserves.bind Preserves.read
  intro state
  apply Preserves.bind (preserves_refuseMissingChecks runtime)
  intro _
  apply Preserves.bind (preserves_refuseDuplicateNames runtime _)
  intro _
  apply Preserves.bind
    (Preserves.forM fun spec _ => preserves_registerSpec_of register spec)
  intro _
  apply Preserves.bind (preserves_publishKeycloak publish runtime)
  exact fun _ => Preserves.update fun state => connect state _

theorem preserves_configureServiceRuntime (runtime : ServiceRuntime) :
    Preserves AppState.progress (configureServiceRuntime runtime) :=
  preserves_configureServiceRuntime_of (fun _ _ _ _ => rfl)
    (fun _ _ _ => rfl) (fun _ _ => rfl) runtime

/-- The startup check of a runtime only stores its result. -/
theorem preserves_checkRuntimeOnStartup {τ : Type} {view : AppState → τ}
    (unread :
      ∀ (state : AppState)
        (startupHealthcheckResult : Option HealthCheckResult),
        view { state with startupHealthcheckResult } = view state)
    (environment : LifespanEnvironment) (config : AppConfig) :
    Preserves view (checkRuntimeOnStartup environment config) := by
  rw [checkRuntimeOnStartup]
  split
  · exact Preserves.update fun state => unread state _
  · apply Preserves.bind
    · exact Preserves.update fun state => unread state _
    · exact fun _ => Preserves.raise _
  · exact Preserves.raise _

theorem preserves_checkStartup {τ : Type} {view : AppState → τ}
    (registry : ResourceRegistry) (environment : LifespanEnvironment)
    (parallel : Bool) (overallTimeoutSeconds : Option ℚ) :
    Preserves view
      (registry.checkStartup environment parallel
        overallTimeoutSeconds) := by
  rw [ResourceRegistry.checkStartup]
  split
  · exact Preserves.pure _
  · apply Preserves.bind Preserves.read
    intro state
    split
    · exact Preserves.pure _
    · exact Preserves.raise _
    · exact Preserves.raise _

/-! ## Closing -/

/-- The readiness registry without the check of a closed resource. -/
def ReadinessRegistry.withoutOwnCheck (registry : ReadinessRegistry)
    (resource : ManagedResource) (value : PyObject) : ReadinessRegistry :=
  let name := resource.name.resolve
  match registry.specs.get? name with
  | none => registry
  | some spec =>
      if resource.ownsCheck value spec.check then registry.unregister name
      else registry

/-- How the close of a value fails, if it does. -/
def closerFailure (environment : LifespanEnvironment)
    (resource : ManagedResource) (value : PyObject) : Option PyExc :=
  match resource.closer value with
  | none => none
  | some _ =>
      match environment.closer resource.name.resolve with
      | .ok _ => none
      | .error exception => some exception

/-- How the close of a resource fails in a state, if it does. -/
def closeFailure (environment : LifespanEnvironment)
    (state : AppState) (resource : ManagedResource) : Option PyExc :=
  (state.instances.get? resource.name.resolve).bind
    (closerFailure environment resource)

namespace AppState

variable (environment : LifespanEnvironment)

/-- The state after a resource with this value is closed. -/
def closeValue (state : AppState) (resource : ManagedResource)
    (value : PyObject) : AppState :=
  let name := resource.name.resolve
  ((state.popInstance name).record
      (.closeResource name (resource.closer value))
      (closerFailure environment resource value)).setReadiness
    (state.readinessRegistry.withoutOwnCheck resource value)

/-- The state after one iteration of the loop in `close`. -/
def closeOne (state : AppState) (resource : ManagedResource) : AppState :=
  match state.instances.get? resource.name.resolve with
  | none => state
  | some value => state.closeValue environment resource value

/-- The state after `close`. -/
def closeAll (state : AppState) (resources : List ManagedResource) :
    AppState :=
  resources.reverse.foldl (closeOne environment) state

end AppState

/-- The exceptions which the loop in `close` collects. -/
def closeFailures (environment : LifespanEnvironment) :
    List ManagedResource → AppState → List PyExc
  | [], _ => []
  | resource :: rest, state =>
      (closeFailure environment state resource).toList ++
        closeFailures environment rest (state.closeOne environment resource)

theorem run_closeResource (environment : LifespanEnvironment)
    (resource : ManagedResource) (value : PyObject) (state : AppState) :
    (closeResource environment resource value).run state =
      ((match closerFailure environment resource value with
        | none => .ok ⟨⟩
        | some exception => .error exception),
        state.record
          (.closeResource resource.name.resolve (resource.closer value))
          (closerFailure environment resource value)) := by
  rw [closeResource, run_recorded, closerFailure]
  cases resource.closer value with
  | none => rfl
  | some closer =>
      cases environment.closer resource.name.resolve <;> rfl

theorem run_unregisterOwn (resource : ManagedResource) (value : PyObject)
    (state : AppState) :
    (unregisterOwn resource value).run state =
      (.ok ⟨⟩,
        state.setReadiness
          (state.readinessRegistry.withoutOwnCheck resource value)) := by
  rw [unregisterOwn, run_read_bind, ReadinessRegistry.withoutOwnCheck]
  cases state.readinessRegistry.specs.get? resource.name.resolve with
  | none => rfl
  | some spec =>
      dsimp only
      split <;> rfl

/-- One iteration of the loop in `close` never raises. -/
theorem run_closeInstance (environment : LifespanEnvironment)
    (failures : List PyExc) (resource : ManagedResource)
    (state : AppState) :
    (closeInstance environment failures resource).run state =
      (.ok
          (failures ++ (closeFailure environment state resource).toList),
        state.closeOne environment resource) := by
  rw [closeInstance, run_read_bind, closeFailure, AppState.closeOne]
  cases state.instances.get? resource.name.resolve with
  | none => simp
  | some value =>
      dsimp only [Option.bind]
      rw [run_update_bind, run_tryFinally, run_tryExcept, run_bind,
        run_closeResource]
      cases closerFailed : closerFailure environment resource value with
      | none =>
          simp [run_unregisterOwn, AppState.closeValue, closerFailed,
            AppState.popInstance, AppState.record]
      | some exception =>
          simp [run_unregisterOwn, AppState.closeValue, closerFailed,
            AppState.popInstance, AppState.record]

theorem run_foldlM_closeInstance (environment : LifespanEnvironment)
    (resources : List ManagedResource) (failures : List PyExc)
    (state : AppState) :
    (resources.foldlM (closeInstance environment) failures).run state =
      (.ok (failures ++ closeFailures environment resources state),
        resources.foldl (AppState.closeOne environment) state) := by
  induction resources generalizing failures state with
  | nil => simp [closeFailures]
  | cons resource rest induction =>
      rw [List.foldlM_cons, run_bind, run_closeInstance]
      dsimp only
      rw [induction, closeFailures, List.append_assoc, List.foldl_cons]

namespace ResourceRegistry

variable (registry : ResourceRegistry)
variable (environment : LifespanEnvironment)

/-- The exceptions which `close` collects in a state. -/
def failures (state : AppState) : List PyExc :=
  closeFailures environment registry.resources.reverse state

/-- `close` closes everything and then reports the failures. -/
theorem run_close (state : AppState) :
    (registry.close environment).run state =
      ((match registry.failures environment state with
        | [] => .ok ⟨⟩
        | failures =>
            .error (.group "managed resource shutdown failed" failures)),
        state.closeAll environment registry.resources) := by
  rw [close, run_bind, run_foldlM_closeInstance, List.nil_append,
    ← failures]
  cases registry.failures environment state <;> rfl

/-- The exception which a failed start raises. -/
def reported (exception : PyExc) (state : AppState) : PyExc :=
  match registry.failures environment state with
  | [] => exception
  | failures =>
      exception.addNote
        ("managed resource rollback failed: " ++
          (PyExc.group "managed resource shutdown failed" failures).str)

/-- `rollback` closes everything and raises the exception again. -/
theorem run_rollback (exception : PyExc) (state : AppState) :
    (registry.rollback environment exception).run state =
      (.error (registry.reported environment exception state),
        state.closeAll environment registry.resources) := by
  rw [rollback, run_bind, run_tryExcept, run_bind, run_close, reported]
  cases registry.failures environment state <;> rfl

end ResourceRegistry

end FastapiCore
