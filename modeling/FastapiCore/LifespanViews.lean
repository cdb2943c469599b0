import FastapiCore.RuntimeConnection

/-!
# What a run leaves to its runtime

Most blocks of a lifespan trace their steps and work on the resources.  A
part of the state which neither of them changes is, after a whole run, what
connecting the runtime at the beginning of the run has made of it.
-/

namespace FastapiCore

open Library
open Library.Effect

/-- A part of the state which no trace and no resource changes. -/
structure ResourceRegistry.Leaves {τ : Type} (registry : ResourceRegistry)
    (view : AppState → τ) : Prop where
  record :
    ∀ (state : AppState) (step : LifespanStep) (raised : Option PyExc),
      view (state.record step raised) = view state
  log :
    ∀ (state : AppState) (logs : List LogRecord),
      view { state with logs } = view state
  appRuntime :
    ∀ (state : AppState) (appRuntime : Option ServiceRuntime),
      view { state with appRuntime } = view state
  assignInstance :
    ∀ (state : AppState) (name : Name) (value : PyObject),
      view (state.assignInstance name value) = view state
  popInstance :
    ∀ (state : AppState) (name : Name),
      view (state.popInstance name) = view state
  register :
    ∀ (state : AppState) (spec : ReadinessCheckSpec)
      (next : ReadinessRegistry),
      spec.name ∈ registry.names →
      state.readinessRegistry.register spec = .ok next →
      view (state.setReadiness next) = view state
  unregister :
    ∀ (state : AppState) (name : Name), name ∈ registry.names →
      view
          (state.setReadiness (state.readinessRegistry.unregister name)) =
        view state

variable {τ : Type} {view : AppState → τ}
variable {environment : LifespanEnvironment}

namespace ResourceRegistry.Leaves

variable {registry : ResourceRegistry} {resource : ManagedResource}

theorem mem_names (member : resource ∈ registry.resources) :
    resource.name.resolve ∈ registry.names :=
  List.mem_map.mpr ⟨resource, member, rfl⟩

theorem preserves_recorded {α : Type} (leaves : registry.Leaves view)
    {step : LifespanStep} {block : Lifespan α}
    (kept : Preserves view block) : Preserves view (recorded step block) :=
  FastapiCore.preserves_recorded
    (fun state raised => leaves.record state step raised) kept

/-- A step leaves the view as its block does. -/
theorem view_recorded {α : Type} (leaves : registry.Leaves view)
    {step : LifespanStep} {block : Lifespan α} (state : AppState) :
    view ((recorded step block).run state).2 =
      view (block.run state).2 := by
  rw [run_recorded]
  rcases block.run state with ⟨result, later⟩
  cases result with
  | ok value => exact leaves.record later step none
  | error exception => exact leaves.record later step (some exception)

theorem preserves_registerSpec (leaves : registry.Leaves view)
    {spec : ReadinessCheckSpec} (owned : spec.name ∈ registry.names) :
    Preserves view (registerSpec spec) := by
  intro state
  rw [registerSpec, run_read_bind, Effect.run_bind, run_ofExcept]
  cases registered : state.readinessRegistry.register spec with
  | error exception => rfl
  | ok next => exact leaves.register state spec next owned registered

theorem preserves_startResource (leaves : registry.Leaves view)
    (member : resource ∈ registry.resources) :
    Preserves view (startResource environment resource) := by
  apply Preserves.bind
  · exact leaves.preserves_recorded (Preserves.ofExcept _)
  intro value
  apply Preserves.bind
  · exact
      Preserves.update fun state => leaves.assignInstance state _ value
  intro _
  split
  · exact Preserves.pure _
  · apply leaves.preserves_recorded
    apply Preserves.bind (preserves_interrupt _)
    intro _
    exact leaves.preserves_registerSpec (mem_names member)

theorem view_closeOne (leaves : registry.Leaves view)
    (member : resource ∈ registry.resources) (state : AppState) :
    view (state.closeOne environment resource) = view state := by
  rw [AppState.closeOne]
  split
  · rfl
  · next value live =>
      let closed :=
        (state.popInstance resource.name.resolve).record
          (.closeResource resource.name.resolve (resource.closer value))
          (closerFailure environment resource value)
      have kept : view closed = view state := by
        rw [leaves.record, leaves.popInstance]
      have released :
          view
              (closed.setReadiness
                (closed.readinessRegistry.withoutOwnCheck resource
                  value)) =
            view closed := by
        rw [ReadinessRegistry.withoutOwnCheck]
        split
        · rfl
        · split
          · exact leaves.unregister closed _ (mem_names member)
          · rfl
      exact released.trans kept

theorem view_foldl_closeOne (leaves : registry.Leaves view)
    {resources : List ManagedResource}
    (members : ∀ resource ∈ resources, resource ∈ registry.resources)
    (state : AppState) :
    view (resources.foldl (AppState.closeOne environment) state) =
      view state := by
  induction resources generalizing state with
  | nil => rfl
  | cons resource rest induction =>
      rw [List.forall_mem_cons] at members
      exact
        (induction members.2 _).trans (leaves.view_closeOne members.1 state)

theorem view_closeAll (leaves : registry.Leaves view) (state : AppState) :
    view (state.closeAll environment registry.resources) = view state :=
  leaves.view_foldl_closeOne (fun _ => List.mem_reverse.mp) state

theorem preserves_close (leaves : registry.Leaves view) :
    Preserves view (registry.close environment) := by
  intro state
  rw [run_close]
  exact leaves.view_closeAll state

theorem preserves_start (leaves : registry.Leaves view) :
    Preserves view (registry.start environment) := by
  apply Preserves.tryExcept
  · exact Preserves.forM fun _ => leaves.preserves_startResource
  · intro exception state
    rw [run_rollback]
    exact leaves.view_closeAll state

end ResourceRegistry.Leaves

/-! ## Startup -/

/-- The user lifespan up to its `yield`. -/
def enterUserLifespan (environment : LifespanEnvironment) :
    Option Callable → Lifespan PUnit
  | none => pure ⟨⟩
  | some _ => recorded .enterLifespan (ofExcept environment.enter)

/-- The application serves, and the user lifespan exits. -/
def serveUserLifespan (environment : LifespanEnvironment) :
    Option Callable → Lifespan PUnit
  | none => recorded .serve (ofExcept environment.serve)
  | some _ => do
      let served ←
        tryExcept
          (do
            recorded .serve (ofExcept environment.serve)
            pure none)
          fun exception => pure (some exception)
      let suppressed ←
        recorded .exitLifespan (ofExcept (environment.exit served))
      match served with
      | none => pure ⟨⟩
      | some exception =>
          if suppressed then pure ⟨⟩ else raise exception

theorem runUserLifespan_eq (environment : LifespanEnvironment)
    (lifespan : Option Callable) :
    runUserLifespan environment lifespan =
      enterUserLifespan environment lifespan >>= fun _ =>
        serveUserLifespan environment lifespan := by
  cases lifespan <;> rfl

namespace LifespanArguments

/-- `managed_lifespan` up to the point where the application serves. -/
def startup (arguments : LifespanArguments)
    (environment : LifespanEnvironment) : Lifespan PUnit := do
  arguments.startRuntime environment
  arguments.checkAuthProvider
  arguments.resources.start environment
  arguments.checkResources environment
  enterUserLifespan environment arguments.lifespan

/-- The state at the beginning of a run. -/
def entered (arguments : LifespanArguments) (state : AppState) : AppState :=
  { state with appRuntime := arguments.runtime }

/-- `managed_lifespan` up to the point where the resources are started. -/
def prepare (arguments : LifespanArguments)
    (environment : LifespanEnvironment) : Lifespan PUnit := do
  arguments.startRuntime environment
  arguments.checkAuthProvider

/-- The `try` block is the startup and the serving. -/
theorem startAndServe_eq (arguments : LifespanArguments)
    (environment : LifespanEnvironment) :
    arguments.startAndServe environment =
      arguments.startup environment >>= fun _ =>
        serveUserLifespan environment arguments.lifespan := by
  simp only [startAndServe, startup, runUserLifespan_eq, bind_assoc]

/-! ## The blocks of a lifespan -/

variable {arguments : LifespanArguments}

theorem preserves_checkAuthProvider
    (leaves : arguments.resources.Leaves view) :
    Preserves view arguments.checkAuthProvider := by
  apply Preserves.bind Preserves.read
  intro state
  split
  · exact leaves.preserves_recorded (Preserves.raise _)
  · exact Preserves.pure _

theorem preserves_checkResources
    (leaves : arguments.resources.Leaves view) :
    Preserves view (arguments.checkResources environment) := by
  rw [checkResources]
  split
  · apply leaves.preserves_recorded
    apply Preserves.bind (preserves_interrupt _)
    exact fun _ => preserves_checkStartup _ _ _ _
  · exact Preserves.pure _

theorem preserves_closeAppRuntime
    (leaves : arguments.resources.Leaves view) :
    Preserves view (closeAppRuntime environment) := by
  apply Preserves.bind Preserves.read
  intro state
  split
  · exact Preserves.pure _
  · apply Preserves.tryExcept
    · exact leaves.preserves_recorded (Preserves.ofExcept _)
    · intro exception
      rw [reportCloseFailure]
      split
      · apply Preserves.bind
        · exact Preserves.update fun state => leaves.log state _
        · exact fun _ => Preserves.raise _
      · exact Preserves.raise _

theorem preserves_enterUserLifespan
    (leaves : arguments.resources.Leaves view)
    (lifespan : Option Callable) :
    Preserves view (enterUserLifespan environment lifespan) := by
  cases lifespan with
  | none => exact Preserves.pure _
  | some lifespan =>
      exact leaves.preserves_recorded (Preserves.ofExcept _)

theorem preserves_serveUserLifespan
    (leaves : arguments.resources.Leaves view)
    (lifespan : Option Callable) :
    Preserves view (serveUserLifespan environment lifespan) := by
  cases lifespan with
  | none => exact leaves.preserves_recorded (Preserves.ofExcept _)
  | some lifespan =>
      apply Preserves.bind
      · apply Preserves.tryExcept
        · apply Preserves.bind
          · exact leaves.preserves_recorded (Preserves.ofExcept _)
          · exact fun _ => Preserves.pure _
        · exact fun _ => Preserves.pure _
      intro served
      apply Preserves.bind
      · exact leaves.preserves_recorded (Preserves.ofExcept _)
      intro suppressed
      split
      · exact Preserves.pure _
      · split
        · exact Preserves.pure _
        · exact Preserves.raise _

/-- The state in which an assembled runtime is connected. -/
def connectingState (state : AppState) (runtime : ServiceRuntime) :
    AppState :=
  { state.record .assembleRuntime none with appRuntime := some runtime }

/-- The runtime which a run with these steps tries to connect. -/
def connecting (arguments : LifespanArguments)
    (environment : LifespanEnvironment) : Option ServiceRuntime :=
  match assembleRuntime environment arguments.runtimePlan,
    environment.configureInterrupt with
  | .ok runtime, none => some runtime
  | _, _ => none

/-- A run with these steps connects the runtime which it assembles. -/
structure Connects (arguments : LifespanArguments)
    (environment : LifespanEnvironment) (state : AppState)
    (runtime : ServiceRuntime) : Prop where
  connecting : arguments.connecting environment = some runtime
  complete : runtime.missingChecks = []
  free : runtime.duplicateNames state.readinessRegistry = []

theorem Connects.accepted {state : AppState} {runtime : ServiceRuntime}
    (connects : arguments.Connects environment state runtime) :
    runtime.refusal (connectingState state runtime).readinessRegistry =
      none :=
  ServiceRuntime.refusal_eq_none_iff.mpr
    ⟨connects.complete, connects.free⟩

/-- Without a runtime, only the connection of one changes the view. -/
theorem view_startRuntime (leaves : arguments.resources.Leaves view)
    {state : AppState} (absent : state.appRuntime = none) :
    view ((arguments.startRuntime environment).run state).2 =
      match arguments.connecting environment with
      | none => view state
      | some runtime =>
          view
            ((configureServiceRuntime runtime).run
              (connectingState state runtime)).2 := by
  rw [startRuntime, run_read_bind, absent, connecting]
  dsimp only
  rw [Effect.run_bind, run_recorded, run_ofExcept]
  cases assembleRuntime environment arguments.runtimePlan with
  | error exception => exact leaves.record state _ _
  | ok runtime =>
      dsimp only
      rw [run_update_bind, leaves.view_recorded]
      cases environment.configureInterrupt with
      | none => rfl
      | some exception =>
          exact
            (leaves.appRuntime _ _).trans (leaves.record state _ _)

/-- After the startup, the view is what the first block has made of it. -/
theorem view_startup (leaves : arguments.resources.Leaves view)
    (state : AppState) :
    view ((arguments.startup environment).run state).2 =
      view ((arguments.startRuntime environment).run state).2 := by
  apply Preserves.run_bind
  intro _
  apply Preserves.bind (preserves_checkAuthProvider leaves)
  intro _
  apply Preserves.bind leaves.preserves_start
  intro _
  apply Preserves.bind (preserves_checkResources leaves)
  intro _
  exact preserves_enterUserLifespan leaves arguments.lifespan

/-- After a run, the view is what the startup has made of it. -/
theorem view_managedLifespan (leaves : arguments.resources.Leaves view)
    (state : AppState) :
    view ((arguments.managedLifespan environment).run state).2 =
      view
        ((arguments.startup environment).run
          { state with appRuntime := arguments.runtime }).2 := by
  rw [managedLifespan, run_update_bind, startAndServe_eq]
  rw [Preserves.run_tryFinally
    (Preserves.tryFinally leaves.preserves_close
      (preserves_closeAppRuntime leaves))]
  apply Preserves.run_bind
  intro _
  exact preserves_serveUserLifespan leaves arguments.lifespan

/-- A startup which has to assemble its runtime. -/
theorem view_startup_of_assembled
    (leaves : arguments.resources.Leaves view)
    (environment : LifespanEnvironment)
    (assembled : arguments.runtime = none) (state : AppState) :
    view
        ((arguments.startup environment).run
          { state with appRuntime := arguments.runtime }).2 =
      match arguments.connecting environment with
      | none => view state
      | some runtime =>
          view
            ((configureServiceRuntime runtime).run
              (connectingState state runtime)).2 := by
  rw [view_startup leaves, assembled, view_startRuntime leaves rfl]
  cases arguments.connecting environment with
  | none => exact leaves.appRuntime state none
  | some runtime => rfl

end LifespanArguments

end FastapiCore
