import FastapiCore.LifespanEvents
import FastapiCore.ResourceOwnership
import FastapiCore.RuntimeChecks

/-!
# The names registered by a first run

`createApp` checks the names of all extensions at once, and they are
registered later: those of the module checks and of an injected runtime by
`createApp` itself, those of an assembled runtime when a run connects it, and
those of the resources when the run starts them.  In the first run every one
of these names is free when its turn comes, so that no registration raises.
-/

namespace FastapiCore

open Library
open Library.Effect

/-! ## Steps which register checks -/

/-- The steps which call `ReadinessRegistry.register`. -/
def LifespanStep.registers : LifespanStep → Bool
  | .configureRuntime | .registerCheck _ => true
  | _ => false

/-- The events of a trace which have registered checks, or failed to. -/
def AppState.registrationEvents (state : AppState) : List LifespanEvent :=
  state.eventsOf LifespanStep.registers

section Calm

variable (arguments : LifespanArguments)
variable (environment : LifespanEnvironment)

/--
Why connecting the assembled runtime fails when all its names are free: it is
interrupted, or the Keycloak client raises.
-/
def LifespanArguments.connectionFailure : Option PyExc :=
  match environment.configureInterrupt,
    assembleRuntime environment arguments.runtimePlan with
  | some exception, _ => some exception
  | none, .error _ => none
  | none, .ok runtime =>
      match runtime.keycloakProvider with
      | .ok _ => none
      | .error exception => some exception

/-- The event did not raise because of a registered name. -/
def LifespanEvent.Calm (event : LifespanEvent) : Prop :=
  match event.step with
  | .configureRuntime =>
      event.raised = arguments.connectionFailure environment
  | .registerCheck spec =>
      event.raised = environment.registrationInterrupt spec.name
  | _ => True

/-- No registration has raised because of a registered name. -/
def AppState.Calm (state : AppState) : Prop :=
  ∀ event ∈ state.registrationEvents, event.Calm arguments environment

/-- The resources have names which are not registered. -/
def ResourceRegistry.Vacant (registry : ResourceRegistry)
    (state : AppState) : Prop :=
  ∀ name ∈ registry.names, name ∉ state.readinessRegistry.names

end Calm

variable {arguments : LifespanArguments}
variable {environment : LifespanEnvironment}

/-- One more event which did not raise because of a registered name. -/
theorem AppState.Calm.record {state : AppState}
    (calm : state.Calm arguments environment) {step : LifespanStep}
    {raised : Option PyExc}
    (expected :
      LifespanEvent.Calm arguments environment ⟨step, raised⟩) :
    (state.record step raised).Calm arguments environment := by
  intro event member
  rw [registrationEvents, eventsOf, AppState.record, List.filter_append,
    List.mem_append] at member
  rcases member with older | newest
  · exact calm event older
  · have same := List.mem_of_mem_filter newest
    cases List.mem_singleton.mp same
    exact expected

/-- A block which registers no check raises no event of this kind. -/
theorem triple_calm {α : Type} {block : Lifespan α}
    (kept : Preserves (AppState.eventsOf LifespanStep.registers) block) :
    Triple (AppState.Calm arguments environment) block
      (fun _ => AppState.Calm arguments environment)
      (fun _ => AppState.Calm arguments environment) :=
  Triple.of_preserves kept fun events =>
    ∀ event ∈ events, event.Calm arguments environment

/-! ## Connecting the runtime -/

/-- The names which a first run registers are distinct and free. -/
structure LifespanArguments.Composes (arguments : LifespanArguments)
    (environment : LifespanEnvironment) (state : AppState) : Prop where
  atRest : state.instances = .empty ∧ state.events = []
  vacant : arguments.resources.Vacant state
  complete :
    arguments.runtime = none →
      ∀ runtime,
        assembleRuntime environment arguments.runtimePlan = .ok runtime →
        runtime.missingChecks = []
  free :
    arguments.runtime = none →
      ∀ runtime,
        assembleRuntime environment arguments.runtimePlan = .ok runtime →
        ∀ service ∈ runtime.checks.keys,
          service ∉ state.readinessRegistry.names ∧
            service ∉ arguments.resources.names

/-- The runtime is connected and the resources can be started. -/
structure LifespanArguments.Ready (arguments : LifespanArguments)
    (environment : LifespanEnvironment) (state : AppState) : Prop where
  calm : state.Calm arguments environment
  vacant : arguments.resources.Vacant state
  atRest : state.instances = .empty

/-- What the readiness of the resources to start depends on. -/
def AppState.registrationView (state : AppState) :
    List LifespanEvent × ReadinessRegistry × OrderedDict Name PyObject :=
  (state.registrationEvents, state.readinessRegistry, state.instances)

theorem AppState.registrationView_record {step : LifespanStep}
    (other : step.registers = false) (state : AppState)
    (raised : Option PyExc) :
    (state.record step raised).registrationView = state.registrationView := by
  rw [registrationView, registrationEvents, eventsOf_record other]
  rfl

/-- A block which leaves this view alone leaves the resources ready. -/
theorem LifespanArguments.triple_ready {α : Type} {block : Lifespan α}
    (kept : Preserves AppState.registrationView block) :
    Triple (arguments.Ready environment) block
      (fun _ => arguments.Ready environment)
      (fun _ => AppState.Calm arguments environment) := by
  have run :
      Triple (arguments.Ready environment) block
        (fun _ => arguments.Ready environment)
        (fun _ => arguments.Ready environment) := by
    apply triple_iff_forall_run.mpr
    intro state ready
    have events := congrArg Prod.fst (kept state)
    have registry := congrArg (fun view => view.2.1) (kept state)
    have instances := congrArg (fun view => view.2.2) (kept state)
    dsimp only [AppState.registrationView] at events registry instances
    constructor
    · rw [AppState.Calm, events]
      exact ready.calm
    · rw [ResourceRegistry.Vacant, registry]
      exact ready.vacant
    · rw [instances]
      exact ready.atRest
  exact run.weaken_raise fun _ _ holds => holds.calm

/-- A runtime with free names fails to connect by its Keycloak client only. -/
theorem connects_of_free {runtime : ServiceRuntime} {state : AppState}
    (complete : runtime.missingChecks = [])
    (free :
      ∀ service ∈ runtime.checks.keys,
        service ∉ state.readinessRegistry.names) :
    ∃ later,
      (configureServiceRuntime runtime).run state =
        (runtime.keycloakProvider.map fun _ => ⟨⟩, later) ∧
        later.progress = state.progress := by
  have accepted : runtime.refusal state.readinessRegistry = none :=
    ServiceRuntime.refusal_eq_none_iff.mpr
      ⟨complete, runtime.duplicateNames_eq_nil_iff.mpr free⟩
  rcases run_configureServiceRuntime_of_accepted accepted with
    ⟨registry, -, run⟩
  have kept := preserves_configureServiceRuntime runtime state
  rw [run] at kept
  exact ⟨_, run, kept⟩

namespace LifespanArguments.Composes

variable {initial : AppState}

theorem ready (composes : arguments.Composes environment initial) :
    arguments.Ready environment (arguments.entered initial) where
  calm := by
    intro event member
    rw [AppState.registrationEvents, AppState.eventsOf] at member
    simp [entered, composes.atRest.2] at member
  vacant := composes.vacant
  atRest := composes.atRest.1

/-- An assembled runtime finds the names of its checks free. -/
theorem triple_connect (composes : arguments.Composes environment initial)
    (assembled : arguments.runtime = none) {runtime : ServiceRuntime}
    (made :
      assembleRuntime environment arguments.runtimePlan = .ok runtime)
    {state : AppState} (ready : arguments.Ready environment state)
    (same :
      state.readinessRegistry.names = initial.readinessRegistry.names) :
    Satisfies (fun _ => arguments.Ready environment)
      (fun _ => AppState.Calm arguments environment)
      ((recorded .configureRuntime do
          interrupt environment.configureInterrupt
          configureServiceRuntime runtime).run state) := by
  have complete := composes.complete assembled runtime made
  have free := composes.free assembled runtime made
  rw [run_recorded, run_bind]
  cases interrupted : environment.configureInterrupt with
  | some exception =>
      apply ready.calm.record
      simp [LifespanEvent.Calm, connectionFailure, interrupted]
  | none =>
      rcases connects_of_free complete
        fun service member => same ▸ (free service member).1 with
        ⟨later, run, kept⟩
      have events : later.events = state.events :=
        congrArg Progress.events kept
      have calm : later.Calm arguments environment := by
        rw [AppState.Calm, AppState.registrationEvents,
          AppState.eventsOf_congr events]
        exact ready.calm
      dsimp only [interrupt, run_pure]
      rw [run]
      cases provider : runtime.keycloakProvider with
      | error exception =>
          apply calm.record
          simp [LifespanEvent.Calm, connectionFailure, interrupted, made,
            provider]
      | ok client =>
          rw [provider] at run
          refine ⟨calm.record ?_, ?_, ?_⟩
          · simp [LifespanEvent.Calm, connectionFailure, interrupted, made,
              provider]
          · intro name member registered
            rw [AppState.record, names_of_configured run,
              List.mem_append] at registered
            rcases registered with older | connected
            · exact ready.vacant name member older
            · exact (free name connected).2 member
          · exact (congrArg Progress.instances kept).trans ready.atRest

/-- After its first block, a run can start the resources. -/
theorem triple_startRuntime
    (composes : arguments.Composes environment initial) :
    Triple (fun state => state = arguments.entered initial)
      (arguments.startRuntime environment)
      (fun _ => arguments.Ready environment)
      (fun _ => AppState.Calm arguments environment) := by
  have ready := composes.ready
  rintro _ rfl
  rw [startRuntime, run_read_bind]
  cases injected : (arguments.entered initial).appRuntime with
  | some runtime =>
      dsimp only
      split
      · apply triple_ready _ _ ready
        apply preserves_recorded
        · exact AppState.registrationView_record rfl
        · exact preserves_checkRuntimeOnStartup (fun _ _ => rfl) _ _
      · exact ready
  | none =>
      dsimp only
      rw [run_bind, run_recorded, run_ofExcept]
      cases made : assembleRuntime environment arguments.runtimePlan with
      | error exception => exact ready.calm.record trivial
      | ok runtime =>
          dsimp only
          rw [run_update_bind]
          apply composes.triple_connect injected made
          · exact ⟨ready.calm.record trivial, ready.vacant, ready.atRest⟩
          · rfl

end LifespanArguments.Composes

theorem preserves_registrationView_checkAuthProvider :
    Preserves AppState.registrationView arguments.checkAuthProvider := by
  apply Preserves.bind Preserves.read
  intro state
  split
  · apply preserves_recorded
    · exact AppState.registrationView_record rfl
    · exact Preserves.raise _
  · exact Preserves.pure _

theorem LifespanArguments.Composes.triple_prepare {initial : AppState}
    (composes : arguments.Composes environment initial) :
    Triple (fun state => state = arguments.entered initial)
      (arguments.prepare environment)
      (fun _ => arguments.Ready environment)
      (fun _ => AppState.Calm arguments environment) := by
  refine Triple.bind composes.triple_startRuntime fun _ => ?_
  exact
    LifespanArguments.triple_ready
      preserves_registrationView_checkAuthProvider

/-! ## Starting the resources -/

/-- The resources which are still to be started have free names. -/
structure Startable (arguments : LifespanArguments)
    (environment : LifespanEnvironment) (done rest : List ManagedResource)
    (state : AppState) : Prop where
  declared : done ++ rest = arguments.resources.resources
  calm : state.Calm arguments environment
  free :
    ∀ resource ∈ rest,
      resource.name.resolve ∉ state.readinessRegistry.names

namespace Startable

variable {done rest : List ManagedResource} {resource : ManagedResource}
variable {state : AppState}

/-- A resource without a check leaves the other names free. -/
theorem skip
    (startable :
      Startable arguments environment done (resource :: rest) state) :
    Startable arguments environment (done ++ [resource]) rest state where
  declared := by
    rw [← startable.declared, List.append_assoc]
    rfl
  calm := startable.calm
  free := (List.forall_mem_cons.mp startable.free).2

/-- The check of a resource is registered, unless it is interrupted. -/
theorem register
    (startable :
      Startable arguments environment done (resource :: rest) state)
    (healthcheck : Callable) (value : PyObject) :
    Satisfies
      (fun _ => Startable arguments environment (done ++ [resource]) rest)
      (fun _ => AppState.Calm arguments environment)
      ((registerResourceCheck environment
        (resource.readinessCheckSpec healthcheck value)).run state) := by
  have declared := startable.declared
  rcases List.forall_mem_cons.mp startable.free with ⟨free, restFree⟩
  have member : resource ∈ arguments.resources.resources := by
    rw [← declared]
    simp
  have accepted :=
    arguments.resources.registeredAs_readinessCheckSpec member healthcheck
      value
  rw [run_registerResourceCheck]
  cases interrupted :
    environment.registrationInterrupt
      (resource.readinessCheckSpec healthcheck value).name with
  | some exception => exact startable.calm.record interrupted.symm
  | none =>
      rcases
        (ReadinessRegistry.register_isOk_iff_of_registeredAs
          (accepted.named.symm ▸ accepted)).mpr free with
        ⟨next, registered⟩
      rw [registered]
      refine ⟨startable.skip.declared, ?_, ?_⟩
      · exact
          (show (state.setReadiness next).Calm arguments environment from
            startable.calm).record interrupted.symm
      · intro other otherMember taken
        rw [AppState.record, AppState.setReadiness,
          ReadinessRegistry.names_register registered,
          List.mem_append, List.mem_singleton] at taken
        rcases taken with older | same
        · exact restFree other otherMember older
        · have nodup := arguments.resources.nodup_names
          rw [ResourceRegistry.names, ← declared, resourceNames,
            List.map_append, List.map_cons, List.nodup_append,
            List.nodup_cons] at nodup
          apply nodup.2.1.1
          exact List.mem_map.mpr ⟨other, otherMember, same⟩

/-- One iteration of the loop in `start`. -/
theorem triple_startResource :
    Triple (Startable arguments environment done (resource :: rest))
      (startResource environment resource)
      (fun _ => Startable arguments environment (done ++ [resource]) rest)
      (fun _ => AppState.Calm arguments environment) := by
  have created :
      Triple (Startable arguments environment done (resource :: rest))
        (recorded (.createResource resource.name.resolve)
          (ofExcept (environment.factory resource.name.resolve)))
        (fun _ => Startable arguments environment done (resource :: rest))
        (fun _ => AppState.Calm arguments environment) := by
    apply triple_recorded_ofExcept
    · intro value state startable
      exact
        ⟨startable.declared, startable.calm.record trivial, startable.free⟩
    · intro exception state startable
      exact startable.calm.record trivial
  refine Triple.bind created fun value => ?_
  refine
    Triple.update_bind _
      (show
        Triple (Startable arguments environment done (resource :: rest))
          _ _ _ from ?_)
      fun state startable =>
        ⟨startable.declared, startable.calm, startable.free⟩
  split
  · exact Triple.pure _ fun _ startable => startable.skip
  · next healthcheck _ =>
      exact fun state startable => startable.register healthcheck value

end Startable

/-- No registration of a resource check finds its name taken. -/
theorem triple_start_calm :
    Triple (arguments.Ready environment)
      (arguments.resources.start environment)
      (fun _ => AppState.Calm arguments environment)
      (fun _ => AppState.Calm arguments environment) := by
  apply Triple.tryExcept
  · have loop :=
      Triple.forM (Startable arguments environment)
        (fun _ _ _ => Startable.triple_startResource)
        arguments.resources.resources []
    apply loop.weaken
    · intro state ready
      refine ⟨rfl, ready.calm, fun resource member => ?_⟩
      apply ready.vacant
      exact List.mem_map.mpr ⟨resource, member, rfl⟩
    · exact fun _ _ startable => startable.calm
    · exact fun _ _ calm => calm
  · intro exception
    exact triple_calm
        (preserves_eventsOf_rollback (fun _ _ => rfl) _ exception)

/-! ## The first run -/

theorem LifespanArguments.Composes.triple_managedLifespan
    {initial : AppState}
    (composes : arguments.Composes environment initial) :
    Triple (fun state => state = initial)
      (arguments.managedLifespan environment)
      (fun _ => AppState.Calm arguments environment)
      (fun _ => AppState.Calm arguments environment) := by
  have served :
      Triple (fun state => state = arguments.entered initial)
        (arguments.startAndServe environment)
        (fun _ => AppState.Calm arguments environment)
        (fun _ => AppState.Calm arguments environment) := by
    refine Triple.bind composes.triple_startRuntime fun _ => ?_
    refine
      Triple.bind
        (LifespanArguments.triple_ready
          preserves_registrationView_checkAuthProvider)
        fun _ => ?_
    refine Triple.bind triple_start_calm fun _ => ?_
    refine
      Triple.bind (triple_calm (preserves_eventsOf_checkResources rfl))
        fun _ => ?_
    rw [runUserLifespan_eq]
    apply triple_calm
    apply Preserves.bind (preserves_eventsOf_enterUserLifespan _ rfl)
    exact fun _ => preserves_eventsOf_serveUserLifespan _ rfl rfl
  have closed :
      Triple (AppState.Calm arguments environment)
        (tryFinally (arguments.resources.close environment)
          (closeAppRuntime environment))
        (fun _ => AppState.Calm arguments environment)
        (fun _ => AppState.Calm arguments environment) := by
    apply triple_calm
    exact
      Preserves.tryFinally (preserves_eventsOf_close (fun _ _ => rfl) _)
        (preserves_eventsOf_closeAppRuntime rfl)
  refine
    Triple.update_bind _
      (Triple.tryFinally served (fun _ => closed) fun _ => closed) ?_
  rintro _ rfl
  rfl

/-- The steps of a resource end as a start needs it. -/
structure LifespanEnvironment.Runs (environment : LifespanEnvironment)
    (resource : ManagedResource) : Prop where
  created :
    ∃ value, environment.factory resource.name.resolve = .ok value
  uninterrupted :
    resource.healthcheck.isSome = true →
      environment.registrationInterrupt resource.name.resolve = none

/-- Over free names, a start fails by a factory or an interrupt only. -/
theorem LifespanArguments.Ready.start_iff {state : AppState}
    (ready : arguments.Ready environment state) :
    (∃ started,
      (arguments.resources.start environment).run state =
        (.ok ⟨⟩, started)) ↔
      ∀ resource ∈ arguments.resources.resources,
        environment.Runs resource := by
  have starts_iff (resource : ManagedResource)
      (member : resource ∈ arguments.resources.resources) :
      Starts environment state.readinessRegistry resource ↔
        environment.Runs resource := by
    constructor
    · intro starts
      exact ⟨starts.created, starts.uninterrupted⟩
    · intro runs
      refine ⟨runs.created, runs.uninterrupted, fun _ => ?_⟩
      apply ready.vacant
      exact List.mem_map.mpr ⟨resource, member, rfl⟩
  rcases arguments.resources.run_start environment ready.atRest with
    ⟨started, run, starts, -⟩ |
      ⟨done, resource, rest, exception, stopped, declared, -, fails, run⟩
  · constructor
    · exact fun _ resource member =>
        (starts_iff resource member).mp (starts resource member)
    · exact fun _ => ⟨started, run⟩
  · constructor
    · rintro ⟨started, returned⟩
      rw [run] at returned
      cases returned
    · intro runs
      have member : resource ∈ arguments.resources.resources := by
        rw [declared]
        simp
      exact
        (fails.not_starts
          ((starts_iff resource member).mpr (runs resource member))).elim

/-- The state of an application before its first run. -/
theorem AppRequest.state_of_createApp {sdk : ServiceSdk}
    {request : AppRequest} {app : App}
    (created : request.createApp sdk = .ok app) :
    app.state.progress = ⟨[], .empty, none⟩ ∧
      app.state.readinessRegistry.names =
        request.moduleChecks.map ReadinessCheckSpec.name ++
          (request.runtime.map fun injected =>
            injected.checks.keys).getD [] := by
  rcases request.exists_steps_of_createApp sdk created with
    ⟨_, readiness, _, connected, -, -, registered, -, connects, state, -⟩
  have moduleNames := ReadinessRegistry.names_foldlM_register registered
  have published :
      app.state.progress = connected.progress ∧
        app.state.readinessRegistry = connected.readinessRegistry := by
    rw [state, publishAuthProvider]
    split <;> exact ⟨rfl, rfl⟩
  rw [published.1, published.2]
  rw [connectInjected] at connects
  cases injected : request.runtime with
  | none =>
      rw [injected] at connects
      cases connects
      exact ⟨rfl, by simpa [newState] using moduleNames⟩
  | some runtime =>
      rw [injected] at connects
      dsimp only at connects
      have kept :=
        preserves_configureServiceRuntime runtime
          (request.newState readiness)
      rcases run :
        (configureServiceRuntime runtime).run
          (request.newState readiness) with ⟨result, later⟩
      rw [run] at connects kept
      cases result with
      | error exception => cases connects
      | ok _ =>
          cases connects
          refine ⟨kept, (names_of_configured run).trans ?_⟩
          rw [newState, moduleNames]
          simp

/-- The check of an assembled runtime has a free name in the first run. -/
theorem AppRequest.free_of_createApp {sdk : ServiceSdk}
    {request : AppRequest} {app : App}
    (created : request.createApp sdk = .ok app)
    (assembled : app.arguments.runtime = none) {runtime : ServiceRuntime}
    (planned : app.arguments.Plans runtime) {service : Name}
    (member : service ∈ runtime.checks.keys) :
    service ∉ app.state.readinessRegistry.names ∧
      service ∉ app.arguments.resources.names := by
  have passed := request.created_of_createApp sdk created
  rcases planned service member with ⟨plan, chosen, selected⟩
  refine ⟨?_, passed.not_mem_names chosen selected⟩
  rw [passed.runtime] at assembled
  rw [(state_of_createApp created).2, assembled]
  intro registered
  have valid := passed.namesValid
  rw [chosen] at valid
  apply
    not_mem_selectedServices_of_mem_extensionNames valid ?_ selected
  rw [extensionNames, List.append_assoc, assembled]
  exact List.mem_append_right _ registered

theorem AppRequest.composes_of_createApp {sdk : ServiceSdk}
    {request : AppRequest} {app : App}
    (created : request.createApp sdk = .ok app)
    (planned :
      app.arguments.runtime = none →
        ∀ runtime,
          assembleRuntime environment app.arguments.runtimePlan =
            .ok runtime →
          app.arguments.Plans runtime ∧ runtime.missingChecks = []) :
    app.arguments.Composes environment app.state := by
  have passed := request.created_of_createApp sdk created
  have state := state_of_createApp created
  refine
    { atRest :=
        ⟨congrArg Progress.instances state.1,
          congrArg Progress.events state.1⟩
      vacant := ?_
      complete := fun assembled runtime made =>
        (planned assembled runtime made).2
      free := fun assembled runtime made service member =>
        free_of_createApp created assembled
          (planned assembled runtime made).1 member }
  intro name resource registered
  have nodup :=
    nodup_extensionNames_of_validateExtensionNames passed.namesValid
  rw [extensionNames, List.append_assoc, List.nodup_append] at nodup
  rw [ResourceRegistry.names_of_new passed.resources] at resource
  rw [state.2] at registered
  exact nodup.2.2 name resource name registered rfl

/--
In the first run of an application, no registration finds its name taken:
connecting the runtime and registering a check raise only what the
environment lets them raise, and the resources start if their factories
return.
-/
structure App.StartsWithoutCollision (app : App)
    (environment : LifespanEnvironment) : Prop where
  connects :
    ∀ event ∈ (app.afterRun app.state environment).events,
      event.step = .configureRuntime →
      event.raised = app.arguments.connectionFailure environment
  registers :
    ∀ event ∈ (app.afterRun app.state environment).events,
      ∀ spec, event.step = .registerCheck spec →
        event.raised = environment.registrationInterrupt spec.name
  starts :
    ∀ prepared,
      (app.arguments.prepare environment).run
          (app.arguments.entered app.state) =
        (.ok ⟨⟩, prepared) →
      ((∃ started,
        (app.arguments.resources.start environment).run prepared =
          (.ok ⟨⟩, started)) ↔
        ∀ resource ∈ app.arguments.resources.resources,
          environment.Runs resource)

/--
No registration of the first run of an accepted application finds its name
taken, if an assembled runtime checks services of the plan only and has a
check for each service it selects.
-/
theorem App.startsWithoutCollision {sdk : ServiceSdk}
    {request : AppRequest} {app : App}
    (created : request.createApp sdk = .ok app)
    (environment : LifespanEnvironment)
    (planned :
      app.arguments.runtime = none →
        ∀ runtime,
          assembleRuntime environment app.arguments.runtimePlan =
            .ok runtime →
          app.arguments.Plans runtime ∧ runtime.missingChecks = []) :
    app.StartsWithoutCollision environment := by
  have composes := AppRequest.composes_of_createApp created planned
  have calm :
      (app.afterRun app.state environment).Calm app.arguments
        environment :=
    triple_iff_forall_run.mp composes.triple_managedLifespan app.state rfl
  have registration (event : LifespanEvent)
      (member : event ∈ (app.afterRun app.state environment).events)
      (registers : event.step.registers = true) :
      event.Calm app.arguments environment :=
    calm event (List.mem_filter.mpr ⟨member, registers⟩)
  constructor
  · rintro ⟨step, raised⟩ member rfl
    exact registration _ member rfl
  · rintro ⟨step, raised⟩ member spec rfl
    exact registration _ member rfl
  · intro prepared run
    have ready := composes.triple_prepare _ rfl
    rw [run] at ready
    exact ready.start_iff

/-- An application with one service starts without a collision. -/
theorem postgresApp_startsWithoutCollision :
    postgresApp.StartsWithoutCollision (.quiet postgresRuntime) := by
  have created :
      ({ config := .enabling ["postgres"] } : AppRequest).createApp
          .accepting =
        .ok postgresApp :=
    rfl
  apply App.startsWithoutCollision created
  rintro - runtime ⟨⟩
  refine ⟨?_, by decide⟩
  intro service member
  exact ⟨_, rfl, member⟩

end FastapiCore
