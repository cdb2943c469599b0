import FastapiCore.Factory
import FastapiCore.Library.Transition
import FastapiCore.LifespanViews

/-!
# The checks of an assembled runtime

`configure_service_runtime` registers the checks of a runtime, and closing
the runtime does not unregister them.  No resource has the name of a planned
service, so the part of the readiness registry outside the resource names is
changed by the connection alone.  It is the invariant of consecutive runs as
long as no run connects a runtime with a check.
-/

namespace FastapiCore

open Library
open Library.Effect

/-! ## The entries outside the resource names -/

/-- The entries of the registry which stand under no resource name. -/
def ResourceRegistry.otherEntries (registry : ResourceRegistry)
    (state : AppState) : List (Name × ReadinessCheckSpec) :=
  state.readinessRegistry.specs.entries.filter fun entry =>
    entry.1 ∉ registry.names

theorem ResourceRegistry.mem_otherEntries {registry : ResourceRegistry}
    {state : AppState} {entry : Name × ReadinessCheckSpec} :
    entry ∈ registry.otherEntries state ↔
      entry ∈ state.readinessRegistry.specs.entries ∧
        entry.1 ∉ registry.names := by
  simp [otherEntries]

/-- A name outside the resources is registered by one of these entries. -/
theorem ResourceRegistry.mem_names_iff_otherEntries
    {registry : ResourceRegistry} {state : AppState} {name : Name}
    (other : name ∉ registry.names) :
    name ∈ state.readinessRegistry.names ↔
      name ∈ (registry.otherEntries state).map Prod.fst := by
  constructor
  · intro member
    rcases OrderedDict.exists_mem_entries_of_mem_keys member with
      ⟨spec, stored⟩
    exact
      List.mem_map.mpr
        ⟨(name, spec), mem_otherEntries.mpr ⟨stored, other⟩, rfl⟩
  · intro member
    rcases List.mem_map.mp member with ⟨⟨stored, spec⟩, entry, rfl⟩
    exact
      OrderedDict.mem_keys_of_mem_entries (mem_otherEntries.mp entry).1

/-- Starting and closing resources leaves the other entries alone. -/
theorem ResourceRegistry.leaves_otherEntries
    (registry : ResourceRegistry) : registry.Leaves registry.otherEntries where
  record _ _ _ := rfl
  log _ _ := rfl
  assignInstance _ _ _ := rfl
  appRuntime _ _ := rfl
  popInstance _ _ := rfl
  register := by
    intro state spec next owned registered
    show next.specs.entries.filter _ = _
    rw [ReadinessRegistry.entries_register registered, List.filter_append]
    simp [otherEntries, owned]
  unregister := by
    intro state name owned
    show (state.readinessRegistry.specs.erase name).entries.filter _ = _
    rw [OrderedDict.entries_erase, List.filter_filter, otherEntries]
    apply List.filter_congr
    intro entry _
    by_cases same : entry.1 = name
    · simp [same, owned]
    · simp [same]

/-! ## The connection of an assembled runtime -/

/-- The spec stands under the name of a check of the runtime, and runs it. -/
def ServiceRuntime.Binds (runtime : ServiceRuntime)
    (spec : ReadinessCheckSpec) : Prop :=
  (spec.name, spec.check) ∈ runtime.checks.entries

namespace LifespanArguments

variable (arguments : LifespanArguments)

/-- A run with these steps connects a runtime which has a check. -/
structure ConnectsChecks (environment : LifespanEnvironment)
    (state : AppState) (runtime : ServiceRuntime) : Prop
    extends arguments.Connects environment state runtime where
  checks : runtime.checks.entries ≠ []

/-- The checks of a runtime are those of services which the plan selects. -/
def Plans (runtime : ServiceRuntime) : Prop :=
  ∀ service ∈ runtime.checks.keys,
    ∃ plan, arguments.runtimePlan = some plan ∧
      service ∈ plan.selectedServices

variable {arguments}
variable {environment : LifespanEnvironment} {state : AppState}
variable {runtime : ServiceRuntime}

/-- A connected check outside the resource names outlives the run. -/
theorem ConnectsChecks.mem_specList
    (connects : arguments.ConnectsChecks environment state runtime)
    (assembled : arguments.runtime = none) {spec : ReadinessCheckSpec}
    (registered : spec ∈ runtime.readinessSpecs)
    (other : spec.name ∉ arguments.resources.names) :
    spec ∈
      ((arguments.managedLifespan environment).run
        state).2.readinessRegistry.specList := by
  have leaves := arguments.resources.leaves_otherEntries
  have view :=
    (view_managedLifespan leaves state).trans
      (view_startup_of_assembled leaves environment assembled state)
  rw [connects.connecting] at view
  dsimp only at view
  rcases
    run_configureServiceRuntime_of_accepted connects.accepted
  with
    ⟨registry, entries, configured⟩
  have stored :
      (spec.name, spec) ∈
        arguments.resources.otherEntries
          ((configureServiceRuntime runtime).run
            (connectingState state runtime)).2 := by
    rw [configured, ResourceRegistry.mem_otherEntries,
      AppState.readinessRegistry_connect, entries]
    refine ⟨List.mem_append_right _ ?_, other⟩
    exact List.mem_map.mpr ⟨spec, registered, rfl⟩
  rw [← view] at stored
  exact
    ReadinessRegistry.mem_specList.mpr
      (ResourceRegistry.mem_otherEntries.mp stored).1

/-- A run which connects no check leaves the other entries as they were. -/
theorem otherEntries_managedLifespan
    (assembled : arguments.runtime = none)
    (disconnected :
      ∀ runtime, ¬arguments.ConnectsChecks environment state runtime) :
    arguments.resources.otherEntries
        ((arguments.managedLifespan environment).run state).2 =
      arguments.resources.otherEntries state := by
  have leaves := arguments.resources.leaves_otherEntries
  rw [view_managedLifespan leaves,
    view_startup_of_assembled leaves environment assembled]
  cases connecting : arguments.connecting environment with
  | none => rfl
  | some runtime =>
      dsimp only
      cases refused :
          runtime.refusal
            (connectingState state runtime).readinessRegistry with
      | some exception =>
          rw [run_configureServiceRuntime_of_refused refused]
          rfl
      | none =>
          rcases run_configureServiceRuntime_of_accepted refused with
            ⟨registry, entries, configured⟩
          rcases ServiceRuntime.refusal_eq_none_iff.mp refused with
            ⟨complete, free⟩
          have uncheckedRuntime : runtime.checks.entries = [] := by
            by_contra checks
            exact
              disconnected runtime ⟨⟨connecting, complete, free⟩, checks⟩
          rw [configured, ResourceRegistry.otherEntries,
            AppState.readinessRegistry_connect, entries,
            ServiceRuntime.readinessSpecs, uncheckedRuntime]
          simp [ResourceRegistry.otherEntries, connectingState,
            AppState.record]

/-- How a planned runtime is connected depends on the other entries only. -/
theorem outcome_eq_of_otherEntries
    (planned :
      ∀ service ∈ runtime.checks.keys,
        service ∉ arguments.resources.names)
    {left right : AppState}
    (same :
      arguments.resources.otherEntries left =
        arguments.resources.otherEntries right) :
    ((configureServiceRuntime runtime).run left).1 =
      ((configureServiceRuntime runtime).run right).1 := by
  have duplicates :
      runtime.duplicateNames left.readinessRegistry =
        runtime.duplicateNames right.readinessRegistry := by
    rw [ServiceRuntime.duplicateNames, ServiceRuntime.duplicateNames,
      ServiceRuntime.names_readinessSpecs]
    apply List.filter_congr
    intro service member
    have other := planned service member
    rw [decide_eq_decide,
      ResourceRegistry.mem_names_iff_otherEntries other,
      ResourceRegistry.mem_names_iff_otherEntries other, same]
  apply outcome_configureServiceRuntime
  rw [ServiceRuntime.refusal, ServiceRuntime.refusal, duplicates]

end LifespanArguments

/-! ## Consecutive runs -/

namespace App

variable (app : App)

/--
What the service SDK promises of an assembled runtime: it checks services of
the plan, and nothing has been registered which is bound to it.
-/
structure Assembles (state : AppState)
    (environment : LifespanEnvironment) : Prop where
  planned :
    ∀ runtime,
      assembleRuntime environment app.arguments.runtimePlan =
        .ok runtime →
      app.arguments.Plans runtime
  fresh :
    ∀ runtime,
      assembleRuntime environment app.arguments.runtimePlan =
        .ok runtime →
      ∀ spec ∈ state.readinessRegistry.specList, ¬runtime.Binds spec

/--
A run leaves no check of the runtime it has assembled, and a runtime is
connected after it as it would have been before the first run.
-/
structure Restores (state : AppState)
    (environment : LifespanEnvironment) : Prop where
  released :
    ∀ runtime,
      assembleRuntime environment app.arguments.runtimePlan =
        .ok runtime →
      ∀ spec ∈ (app.afterRun state environment).readinessRegistry.specList,
        ¬runtime.Binds spec
  reconnects :
    ∀ runtime, app.arguments.Plans runtime →
      ((configureServiceRuntime runtime).run
          (app.afterRun state environment)).1 =
        ((configureServiceRuntime runtime).run app.state).1

/-- No runtime with a check is connected in a run with these steps. -/
def ConnectsNoCheck (state : AppState)
    (environment : LifespanEnvironment) : Prop :=
  ∀ runtime, ¬app.arguments.ConnectsChecks environment state runtime

variable {app}
variable {state : AppState} {environment : LifespanEnvironment}

/-- An assembled runtime which is connected has been assembled. -/
theorem assembled_of_connecting {arguments : LifespanArguments}
    {runtime : ServiceRuntime}
    (connecting : arguments.connecting environment = some runtime) :
    assembleRuntime environment arguments.runtimePlan = .ok runtime := by
  rw [LifespanArguments.connecting] at connecting
  split at connecting
  · next made _ =>
      cases connecting
      exact made
  · cases connecting

/-- A run which restores the registry has connected no check. -/
theorem Restores.connectsNoCheck
    (restores : app.Restores state environment)
    (assembled : app.arguments.runtime = none)
    (outside :
      ∀ runtime, app.arguments.Plans runtime →
        ∀ service ∈ runtime.checks.keys,
          service ∉ app.arguments.resources.names)
    (assembles : app.Assembles state environment) :
    app.ConnectsNoCheck state environment := by
  intro runtime connects
  have made := assembled_of_connecting connects.connecting
  rcases List.exists_mem_of_ne_nil _ connects.checks with
    ⟨⟨service, check⟩, member⟩
  have other :=
    outside runtime (assembles.planned runtime made) service
      (OrderedDict.mem_keys_of_mem_entries member)
  have registered :
      runtime.readinessSpec service check ∈ runtime.readinessSpecs :=
    List.mem_map.mpr ⟨(service, check), member, rfl⟩
  have stored := connects.mem_specList assembled registered other
  exact restores.released runtime made _ stored member

/-- A run which connects no check restores the registry. -/
theorem ConnectsNoCheck.restores
    (disconnected : app.ConnectsNoCheck state environment)
    (assembled : app.arguments.runtime = none)
    (outside :
      ∀ runtime, app.arguments.Plans runtime →
        ∀ service ∈ runtime.checks.keys,
          service ∉ app.arguments.resources.names)
    (assembles : app.Assembles state environment)
    (unchanged :
      app.arguments.resources.otherEntries state =
        app.arguments.resources.otherEntries app.state) :
    app.Restores state environment := by
  have kept :
      app.arguments.resources.otherEntries
          (app.afterRun state environment) =
        app.arguments.resources.otherEntries state :=
    LifespanArguments.otherEntries_managedLifespan assembled disconnected
  constructor
  · intro runtime made spec member binds
    have other :=
      outside runtime (assembles.planned runtime made) spec.name
        (OrderedDict.mem_keys_of_mem_entries binds)
    have stored :
        (spec.name, spec) ∈
          app.arguments.resources.otherEntries
            (app.afterRun state environment) :=
      ResourceRegistry.mem_otherEntries.mpr
        ⟨ReadinessRegistry.mem_specList.mp member, other⟩
    rw [kept] at stored
    have before :=
      ReadinessRegistry.mem_specList.mpr
        (ResourceRegistry.mem_otherEntries.mp stored).1
    exact assembles.fresh runtime made spec before binds
  · intro runtime planned
    apply
      LifespanArguments.outcome_eq_of_otherEntries
        (outside runtime planned)
    exact kept.trans unchanged

end App

/-- The planned services of a created application are no resources. -/
theorem AppRequest.Created.outside {request : AppRequest} {app : App}
    (created : request.Created app) :
    ∀ runtime, app.arguments.Plans runtime →
      ∀ service ∈ runtime.checks.keys,
        service ∉ app.arguments.resources.names := by
  intro runtime planned service member
  rcases planned service member with ⟨plan, chosen, selected⟩
  exact created.not_mem_names chosen selected

/--
Every one of some consecutive runs restores the readiness registry, and the
next run connects its runtime as the first one did, exactly if none of them
connects a runtime which has a check.
-/
theorem App.along_restores_iff {sdk : ServiceSdk} {request : AppRequest}
    {app : App} (createdApp : request.createApp sdk = .ok app)
    (assembled : request.runtime = none)
    {environments : List LifespanEnvironment}
    (assembles :
      Along app.afterRun app.Assembles app.state environments) :
    Along app.afterRun app.Restores app.state environments ↔
      Along app.afterRun app.ConnectsNoCheck app.state environments := by
  have created := request.created_of_createApp sdk createdApp
  have notInjected : app.arguments.runtime = none :=
    created.runtime.trans assembled
  refine
    Along.congr
      (fun state =>
        app.arguments.resources.otherEntries state =
          app.arguments.resources.otherEntries app.state)
      rfl assembles ?_ ?_
  · intro state environment unchanged promised
    constructor
    · intro restores
      exact
        restores.connectsNoCheck notInjected created.outside promised
    · intro disconnected
      exact
        disconnected.restores notInjected created.outside promised
          unchanged
  · intro state environment unchanged _ disconnected
    exact
      (LifespanArguments.otherEntries_managedLifespan notInjected
        disconnected).trans unchanged

/-! ## Refused, cancelled and accepted connections -/

/-- An application with two services. -/
def storesApp : App where
  state := { readinessRegistry := .new none }
  arguments :=
    { config := .enabling ["postgres", "redis"]
      runtimePlan :=
        some
          { services :=
              [{ service := "postgres", required := false },
                { service := "redis", required := false }]
            oneOf := []
            healthcheck :=
              buildHealthcheckPolicy (.enabling ["postgres", "redis"]) }
      resources := .empty }

/-- The runtime of these services, with checks of some of them. -/
def storesRuntime (checks : OrderedDict Name Callable)
    (notBlank : ∀ service ∈ checks.keys, isBlank service = false) :
    ServiceRuntime where
  selectedServices := ["postgres", "redis"]
  checks
  notBlank

/-- Both services have a check. -/
def checkedStores : ServiceRuntime :=
  storesRuntime
    { entries := [("postgres", .function 1), ("redis", .function 2)]
      nodup := by decide }
    (by decide)

/-- A service has no check, so that the connection is refused. -/
def uncheckedStore : ServiceRuntime :=
  storesRuntime
    { entries := [("postgres", .function 3)], nodup := by decide }
    (by decide)

/-- A run which is cancelled before it connects its runtime. -/
def cancelledConnection : LifespanEnvironment :=
  { LifespanEnvironment.quiet checkedStores with
    configureInterrupt := some .cancelledError }

/-- A cancelled and a refused connection restore the registry. -/
theorem storesApp_restores :
    Along storesApp.afterRun storesApp.Restores storesApp.state
      [cancelledConnection, .quiet uncheckedStore] := by
  have created :
      ({ config := .enabling ["postgres", "redis"] } :
          AppRequest).createApp .accepting =
        .ok storesApp :=
    rfl
  have cancelled :
      storesApp.Assembles storesApp.state cancelledConnection := by
    constructor
    · rintro runtime ⟨⟩ service member
      exact ⟨_, rfl, member⟩
    · rintro runtime - spec member
      cases member
  have refused :
      storesApp.Assembles
        (storesApp.afterRun storesApp.state cancelledConnection)
        (.quiet uncheckedStore) := by
    constructor
    · rintro runtime ⟨⟩ service member
      exact ⟨_, rfl, List.mem_cons.mpr (.inl (List.mem_singleton.mp member))⟩
    · rintro runtime - spec member
      cases member
  have notConnecting (state : AppState) :
      storesApp.ConnectsNoCheck state cancelledConnection := by
    intro runtime connects
    cases connects.connecting
  have incomplete (state : AppState) :
      storesApp.ConnectsNoCheck state (.quiet uncheckedStore) := by
    intro runtime connects
    have complete := connects.complete
    rcases connects.connecting with ⟨⟩
    cases complete
  have promised :
      Along storesApp.afterRun storesApp.Assembles storesApp.state
        [cancelledConnection, .quiet uncheckedStore] :=
    ⟨cancelled, refused, trivial⟩
  exact
    (App.along_restores_iff created rfl promised).mpr
      ⟨notConnecting _, incomplete _, trivial⟩

/-- An application with one service. -/
def postgresApp : App where
  state := { readinessRegistry := .new none }
  arguments :=
    { config := .enabling ["postgres"]
      runtimePlan :=
        some
          { services := [{ service := "postgres", required := false }]
            oneOf := []
            healthcheck :=
              buildHealthcheckPolicy (.enabling ["postgres"]) }
      resources := .empty }

/-- The runtime of this service. -/
def postgresRuntime : ServiceRuntime where
  selectedServices := ["postgres"]
  checks := { entries := [("postgres", .function 1)], nodup := by decide }

/-- After one run with a service, connecting it again is refused. -/
theorem not_forall_along_restores :
    ¬∀ (sdk : ServiceSdk) (request : AppRequest) (app : App)
        (environments : List LifespanEnvironment),
      request.createApp sdk = .ok app → request.runtime = none →
      Along app.afterRun app.Assembles app.state environments →
      Along app.afterRun app.Restores app.state environments := by
  intro restores
  have planned : postgresApp.arguments.Plans postgresRuntime := by
    intro service member
    exact ⟨_, rfl, member⟩
  have assembles :
      postgresApp.Assembles postgresApp.state
        (.quiet postgresRuntime) := by
    constructor
    · rintro runtime ⟨⟩
      exact planned
    · intro runtime _ spec member
      cases member
  have restored :=
    (restores .accepting { config := .enabling ["postgres"] }
      postgresApp [.quiet postgresRuntime] rfl rfl
      ⟨assembles, trivial⟩).1
  have refused :
      Except.error
          (PyExc.valueError
            "readiness check 'postgres' is already registered") =
        (Except.ok PUnit.unit : Except PyExc PUnit) :=
    restored.reconnects postgresRuntime planned
  cases refused

end FastapiCore
