import FastapiCore.Factory
import FastapiCore.ForeignChecks
import FastapiCore.LifecycleTrace
import FastapiCore.LifespanEvents
import FastapiCore.ReadinessCheckLaw

/-!
# Startup checks which only report

With the failure mode `REPORT`, the check of the runtime stores a failed
result and the startup goes on.  The check of the required resources takes no
account of the failure mode.  A lifespan therefore gets as far as it would
without startup checks exactly if the required resources pass theirs.
-/

namespace FastapiCore

open Library
open Library.Effect

/-! ## The check of a selection -/

/-- A call does not return before its checks unless its timeout fires. -/
def HealthSdk.Waits (sdk : HealthSdk) : Prop :=
  ∀ parallel overall required (checks : List SdkCheck),
    sdk.overruns parallel overall (sdkTimings checks) = false →
    (∃ check ∈ checks, check.2.value? = none) →
    sdk.asyncCheckAllServices parallel overall required checks = none

theorem HealthSdk.documented_waits : documented.Waits := by
  rintro parallel overall required checks inTime ⟨check, member, pending⟩
  have unsettled :
      ¬(checks.all fun check => check.2.value?.isSome) = true := by
    intro settled
    have settles := List.all_eq_true.mp settled check member
    rw [pending] at settles
    cases settles
  exact
    (if_neg (ne_true_of_eq_false inTime)).trans (if_neg unsettled)

namespace ReadinessRegistry

variable (registry : ReadinessRegistry) (environment : CheckEnvironment)

/-- The check of a spec completes without a failure. -/
def CheckPasses (spec : ReadinessCheckSpec) : Prop :=
  ∃ elapsed report,
    registry.report environment spec = .settles elapsed report ∧
      ¬ReportsFailure report

variable {registry environment} {sdk : HealthSdk}

theorem checkPasses_iff {spec : ReadinessCheckSpec} :
    registry.CheckPasses environment spec ↔
      (registry.report environment spec).value?.isSome ∧
        ¬registry.CheckFails environment spec := by
  rw [CheckPasses, CheckFails]
  cases registry.report environment spec with
  | pending => simp [Completion.value?]
  | settles elapsed report => simp [Completion.value?]

/-- A check which does not complete is one of the unsettled ones. -/
theorem exists_unsettled_of_not_completes
    {specs : List ReadinessCheckSpec}
    (pending : ¬registry.Completes environment specs) :
    ∃ spec ∈ specs,
      ¬registry.CheckPasses environment spec ∧
        ∃ check ∈ registry.sdkChecks environment specs,
          check.2.value? = none := by
  rw [Completes, not_forall] at pending
  rcases pending with ⟨spec, pending⟩
  rw [Classical.not_imp] at pending
  rcases pending with ⟨member, pending⟩
  refine ⟨spec, member, ?_, _, List.mem_map.mpr ⟨spec, member, rfl⟩, ?_⟩
  · exact fun passes => pending (checkPasses_iff.mp passes).1
  · rw [run]
    cases settled : registry.report environment spec with
    | pending => rfl
    | settles elapsed report =>
        rw [settled] at pending
        exact (pending rfl).elim

/-- Required specs which complete are all passed or make a failure. -/
theorem mergedResult_passes_iff (contract : sdk.Contract)
    {specs : List ReadinessCheckSpec}
    (completes : registry.Completes environment specs)
    (required : ∀ spec ∈ specs, spec.required = true) :
    (registry.mergedResult environment sdk specs).requiredFailure? = none ↔
      ∀ spec ∈ specs, registry.CheckPasses environment spec := by
  have failure := mergedResult_requiredFailure_iff contract completes
  simp only [checkPasses_iff]
  cases shown :
    (registry.mergedResult environment sdk specs).requiredFailure? with
  | none =>
      rw [shown] at failure
      refine iff_of_true rfl fun spec member => ?_
      refine ⟨completes spec member, fun fails => ?_⟩
      have found := failure.mpr ⟨spec, member, required spec member, fails⟩
      cases found
  | some status =>
      rw [shown] at failure
      rcases failure.mp rfl with ⟨spec, member, -, fails⟩
      apply iff_of_false (Option.some_ne_none status)
      exact fun passes => (passes spec member).2 fails

/-- A check of required specs returns if they all pass within the timeout. -/
theorem check_returns_iff (contract : sdk.Contract) (waits : sdk.Waits)
    {names : Option (List Name)} {parallel : Bool} {overall : Option ℚ}
    (required : ∀ spec ∈ registry.selected names, spec.required = true) :
    (∃ result,
      registry.check sdk environment names parallel overall =
        some (.ok result)) ↔
      sdk.overruns parallel overall
          (sdkTimings
            (registry.sdkChecks environment (registry.selected names))) =
        false ∧
      ∀ spec ∈ registry.selected names,
        registry.CheckPasses environment spec := by
  cases inTime :
    sdk.overruns parallel overall
      (sdkTimings
        (registry.sdkChecks environment (registry.selected names))) with
  | true =>
      simp only [check]
      rw [contract.timeout parallel overall _ _ inTime]
      simp
  | false =>
      by_cases completes :
        registry.Completes environment (registry.selected names)
      · rw [check_eq contract completes inTime,
          ← mergedResult_passes_iff contract completes required]
        cases (registry.mergedResult environment sdk
          (registry.selected names)).requiredFailure? <;> simp
      · rcases exists_unsettled_of_not_completes completes with
          ⟨spec, member, notPassed, unsettled⟩
        simp only [check]
        rw [waits parallel overall _ _ inTime unsettled]
        simp only [reduceCtorEq, exists_false, true_and, false_iff]
        exact fun passes => notPassed (passes spec member)

end ReadinessRegistry

/-! ## The check of the required resources -/

/-- The specs of the required resources, as a start registers them. -/
def ResourceRegistry.requiredSpecs (registry : ResourceRegistry)
    (environment : LifespanEnvironment) : List ReadinessCheckSpec :=
  (registry.resources.filter fun resource =>
    resource.healthcheck.isSome && resource.required).filterMap
      (startedSpec environment)

section DefaultTimeout

variable {left right : ReadinessRegistry}

/-- A report depends on the registry through its default timeout. -/
theorem report_eq_of_timeout
    (same : left.defaultTimeoutSeconds = right.defaultTimeoutSeconds)
    (environment : CheckEnvironment) :
    left.report environment = right.report environment := by
  ext spec : 1
  rw [ReadinessRegistry.report, ReadinessRegistry.report,
    ReadinessRegistry.effectiveTimeout, ReadinessRegistry.effectiveTimeout,
    same]

theorem sdkChecks_eq_of_timeout
    (same : left.defaultTimeoutSeconds = right.defaultTimeoutSeconds)
    (environment : CheckEnvironment) (specs : List ReadinessCheckSpec) :
    left.sdkChecks environment specs =
      right.sdkChecks environment specs := by
  simp only [ReadinessRegistry.sdkChecks, ReadinessRegistry.run,
    report_eq_of_timeout same]

theorem checkPasses_iff_of_timeout
    (same : left.defaultTimeoutSeconds = right.defaultTimeoutSeconds)
    {environment : CheckEnvironment} {spec : ReadinessCheckSpec} :
    left.CheckPasses environment spec ↔
      right.CheckPasses environment spec := by
  rw [ReadinessRegistry.CheckPasses, ReadinessRegistry.CheckPasses,
    report_eq_of_timeout same]

end DefaultTimeout

/--
The startup check of the resources passes over a registry with this default
timeout: it is not interrupted, and the required resources pass their health
checks before the overall timeout.
-/
structure LifespanArguments.ResourcesPass (arguments : LifespanArguments)
    (environment : LifespanEnvironment) (registry : ReadinessRegistry) :
    Prop where
  uninterrupted : environment.startupInterrupt = none
  inTime :
    arguments.resources.requiredNames ≠ [] →
      environment.healthSdk.overruns arguments.config.readinessParallel
          arguments.config.readinessOverallTimeoutSeconds
          (sdkTimings
            (registry.sdkChecks environment.checks
              (arguments.resources.requiredSpecs environment))) =
        false
  passes :
    ∀ spec ∈ arguments.resources.requiredSpecs environment,
      registry.CheckPasses environment.checks spec

variable {arguments : LifespanArguments}
variable {environment : LifespanEnvironment}

theorem LifespanArguments.ResourcesPass.of_timeout
    {left right : ReadinessRegistry}
    (pass : arguments.ResourcesPass environment left)
    (same : left.defaultTimeoutSeconds = right.defaultTimeoutSeconds) :
    arguments.ResourcesPass environment right where
  uninterrupted := pass.uninterrupted
  inTime := by
    rw [← sdkChecks_eq_of_timeout same]
    exact pass.inTime
  passes spec member :=
    (checkPasses_iff_of_timeout same).mp (pass.passes spec member)

theorem required_of_startedSpec {resource : ManagedResource}
    {spec : ReadinessCheckSpec}
    (started : startedSpec environment resource = some spec) :
    resource.healthcheck.isSome = true ∧
      spec.required = resource.required := by
  rw [startedSpec] at started
  split at started
  · next value healthcheck created declared =>
      cases started
      exact ⟨by simp [declared], rfl⟩
  · cases started

theorem ResourceRegistry.mem_requiredNames_iff
    {registry : ResourceRegistry} {resource : ManagedResource}
    (member : resource ∈ registry.resources) :
    resource.name.resolve ∈ registry.requiredNames ↔
      resource.healthcheck.isSome = true ∧ resource.required = true := by
  rw [requiredNames, resourceNames, List.mem_map]
  constructor
  · rintro ⟨other, otherMember, same⟩
    rw [List.mem_filter, Bool.and_eq_true] at otherMember
    cases registry.eq_of_resolve_eq otherMember.1 member same
    exact otherMember.2
  · intro required
    refine ⟨resource, List.mem_filter.mpr ⟨member, ?_⟩, rfl⟩
    rw [Bool.and_eq_true]
    exact required

section Selection

variable {registry : ResourceRegistry} {prepared started : AppState}

/-- No check registered before a start has the name of a resource check. -/
theorem filter_specList_prepared
    (starts :
      ∀ resource ∈ registry.resources,
        Starts environment prepared.readinessRegistry resource) :
    (prepared.readinessRegistry.specList.filter fun spec =>
        spec.name ∈ registry.requiredNames) =
      [] := by
  apply List.filter_eq_nil_iff.mpr
  intro spec member
  rw [decide_eq_true_eq, ResourceRegistry.requiredNames, resourceNames,
    List.mem_map]
  rintro ⟨resource, required, same⟩
  rw [List.mem_filter, Bool.and_eq_true] at required
  apply (starts resource required.1).free required.2.1
  rw [same, ReadinessRegistry.names_eq_map]
  exact List.mem_map_of_mem member

/-- Of the checks registered by a start, the required ones are selected. -/
theorem filter_startedSpecs :
    ((registry.resources.filterMap (startedSpec environment)).filter
        fun spec => spec.name ∈ registry.requiredNames) =
      registry.requiredSpecs environment := by
  rw [ResourceRegistry.requiredSpecs, List.filter_filterMap,
    List.filterMap_filter]
  apply List.filterMap_congr
  intro resource member
  cases own : startedSpec environment resource with
  | none => simp
  | some spec =>
      have required :=
        ResourceRegistry.mem_requiredNames_iff member
      rw [← name_of_startedSpec own] at required
      rw [Option.filter_some]
      simp [required]

/-- The startup check selects the checks of the required resources. -/
theorem selected_requiredNames
    (starts :
      ∀ resource ∈ registry.resources,
        Starts environment prepared.readinessRegistry resource)
    (isStarted :
      Started environment prepared registry.resources registry.resources
        started) :
    started.readinessRegistry.selected (some registry.requiredNames) =
      registry.requiredSpecs environment := by
  have specs :
      started.readinessRegistry.specList =
        prepared.readinessRegistry.specList ++
          registry.resources.filterMap (startedSpec environment) := by
    rw [ReadinessRegistry.specList, OrderedDict.values, isStarted.checks,
      List.map_append, List.map_map]
    exact congrArg _ (List.map_id _)
  rw [ReadinessRegistry.selected, specs, List.filter_append,
    filter_specList_prepared starts, List.nil_append, filter_startedSpecs]

end Selection

/-- A startup check of the resources ends as the checks themselves do. -/
theorem checkStartup_returns_iff {registry : ResourceRegistry}
    {prepared started : AppState} {parallel : Bool} {overall : Option ℚ}
    (contract : environment.healthSdk.Contract)
    (waits : environment.healthSdk.Waits)
    (starts :
      ∀ resource ∈ registry.resources,
        Starts environment prepared.readinessRegistry resource)
    (isStarted :
      Started environment prepared registry.resources registry.resources
        started) :
    ((registry.checkStartup environment parallel overall).run
        started).1 = .ok ⟨⟩ ↔
      (registry.requiredNames ≠ [] →
        environment.healthSdk.overruns parallel overall
            (sdkTimings
              (prepared.readinessRegistry.sdkChecks environment.checks
                (registry.requiredSpecs environment))) =
          false) ∧
      ∀ spec ∈ registry.requiredSpecs environment,
        prepared.readinessRegistry.CheckPasses environment.checks spec := by
  have selection := selected_requiredNames starts isStarted
  rw [ResourceRegistry.checkStartup]
  cases names : registry.requiredNames with
  | nil =>
      have empty : registry.requiredSpecs environment = [] := by
        rw [ResourceRegistry.requiredNames, resourceNames,
          List.map_eq_nil_iff] at names
        rw [ResourceRegistry.requiredSpecs, names]
        rfl
      simp [empty]
  | cons name rest =>
      rw [names] at selection
      have required :
          ∀ spec ∈
              started.readinessRegistry.selected (some (name :: rest)),
            spec.required = true := by
        intro spec member
        rw [selection] at member
        rcases List.mem_filterMap.mp member with ⟨resource, chosen, own⟩
        rw [List.mem_filter, Bool.and_eq_true] at chosen
        rw [(required_of_startedSpec own).2]
        exact chosen.2.2
      have returns :=
        @ReadinessRegistry.check_returns_iff started.readinessRegistry
          environment.checks _ contract waits _ parallel overall required
      rw [selection] at returns
      simp only [sdkChecks_eq_of_timeout isStarted.timeout,
        checkPasses_iff_of_timeout isStarted.timeout] at returns
      simp only [ne_eq, reduceCtorEq, not_false_eq_true, forall_const]
      rw [← returns, run_read_bind]
      cases started.readinessRegistry.check environment.healthSdk
        environment.checks (some (name :: rest)) parallel overall with
      | none => simp
      | some outcome => cases outcome <;> simp

theorem checkResources_returns_iff {prepared started : AppState}
    (on : arguments.config.startupHealthcheck = true)
    (contract : environment.healthSdk.Contract)
    (waits : environment.healthSdk.Waits)
    (starts :
      ∀ resource ∈ arguments.resources.resources,
        Starts environment prepared.readinessRegistry resource)
    (isStarted :
      Started environment prepared arguments.resources.resources
        arguments.resources.resources started) :
    ((arguments.checkResources environment).run started).1 = .ok ⟨⟩ ↔
      arguments.ResourcesPass environment prepared.readinessRegistry := by
  have returns :=
    @checkStartup_returns_iff environment arguments.resources _ _
      arguments.config.readinessParallel
      arguments.config.readinessOverallTimeoutSeconds contract waits starts
      isStarted
  rw [LifespanArguments.checkResources, if_pos on, outcome_recorded,
    run_bind]
  cases interrupted : environment.startupInterrupt with
  | some exception =>
      constructor
      · rintro ⟨⟩
      · intro pass
        have uninterrupted := pass.uninterrupted
        rw [interrupted] at uninterrupted
        cases uninterrupted
  | none =>
      constructor
      · intro returned
        rcases returns.mp returned with ⟨inTime, passes⟩
        exact ⟨interrupted, inTime, passes⟩
      · intro pass
        exact returns.mpr ⟨pass.inTime, pass.passes⟩

/-! ## Reaching the user lifespan -/

namespace LifespanArguments

/-- The first step of the user lifespan. -/
def userStep (arguments : LifespanArguments) : LifespanStep :=
  match arguments.lifespan with
  | none => .serve
  | some _ => .enterLifespan

/-- A run over this state reaches the user lifespan. -/
def ReachesUserLifespan (arguments : LifespanArguments)
    (environment : LifespanEnvironment) (state : AppState) : Prop :=
  ∃ event ∈ ((arguments.managedLifespan environment).run
      state.atRest).2.events,
    event.step = arguments.userStep

/-- `managed_lifespan` up to the user lifespan. -/
def launch (arguments : LifespanArguments)
    (environment : LifespanEnvironment) : Lifespan PUnit := do
  arguments.prepare environment
  arguments.resources.start environment
  arguments.checkResources environment

theorem startAndServe_eq_launch (arguments : LifespanArguments)
    (environment : LifespanEnvironment) :
    arguments.startAndServe environment =
      arguments.launch environment >>= fun _ =>
        runUserLifespan environment arguments.lifespan := by
  simp only [startAndServe, launch, prepare, bind_assoc]

/-- The step by which a run reaches the user lifespan. -/
def isUserStep (arguments : LifespanArguments) (step : LifespanStep) :
    Bool :=
  step = arguments.userStep

theorem isUserStep_eq_false {step : LifespanStep}
    (notEnter : step ≠ .enterLifespan) (notServe : step ≠ .serve) :
    arguments.isUserStep step = false := by
  rw [isUserStep, decide_eq_false_iff_not, userStep]
  cases arguments.lifespan with
  | none => exact notServe
  | some lifespan => exact notEnter

theorem preserves_eventsOf_launch :
    Preserves (AppState.eventsOf arguments.isUserStep)
      (arguments.launch environment) := by
  have other {step : LifespanStep} (notEnter : step ≠ .enterLifespan)
      (notServe : step ≠ .serve) : arguments.isUserStep step = false :=
    isUserStep_eq_false notEnter notServe
  apply Preserves.bind
  · apply Preserves.bind
    · apply preserves_eventsOf_startRuntime
      · exact other nofun nofun
      · exact other nofun nofun
      · exact other nofun nofun
    · exact fun _ =>
        preserves_eventsOf_checkAuthProvider (other nofun nofun)
  intro _
  apply Preserves.bind
  · apply preserves_eventsOf_start
    · exact fun _ _ => other nofun nofun
    · exact fun _ => other nofun nofun
    · exact fun _ => other nofun nofun
  · exact fun _ => preserves_eventsOf_checkResources (other nofun nofun)

/-- The user lifespan records its first step. -/
theorem mem_eventsOf_runUserLifespan (state : AppState) :
    ∃ event,
      event ∈
        ((runUserLifespan environment arguments.lifespan).run
          state).2.eventsOf arguments.isUserStep := by
  cases lifespan : arguments.lifespan with
  | none =>
      apply exists_mem_eventsOf_recorded
      simp [isUserStep, userStep, lifespan]
  | some callable =>
      have other {step : LifespanStep} (notEnter : step ≠ .enterLifespan) :
          arguments.isUserStep step = false := by
        simp [isUserStep, userStep, lifespan, notEnter]
      rw [runUserLifespan_eq]
      rw [Preserves.run_bind fun _ =>
        preserves_eventsOf_serveUserLifespan (some callable)
          (other nofun) (other nofun)]
      apply exists_mem_eventsOf_recorded
      simp [isUserStep, userStep, lifespan]

/-- A run reaches the user lifespan if everything before it returns. -/
theorem reachesUserLifespan_iff {state : AppState} :
    arguments.ReachesUserLifespan environment state ↔
      ((arguments.launch environment).run
        (arguments.entered state.atRest)).1 = .ok ⟨⟩ := by
  have cleanup :
      Preserves (AppState.eventsOf arguments.isUserStep)
        (tryFinally (arguments.resources.close environment)
          (closeAppRuntime environment)) := by
    apply Preserves.tryFinally
    · apply preserves_eventsOf_close
      exact fun _ _ => isUserStep_eq_false nofun nofun
    · apply preserves_eventsOf_closeAppRuntime
      exact isUserStep_eq_false nofun nofun
  have served :
      arguments.ReachesUserLifespan environment state ↔
        ∃ event,
          event ∈
            ((arguments.startAndServe environment).run
              (arguments.entered state.atRest)).2.eventsOf
              arguments.isUserStep := by
    rw [← Preserves.run_tryFinally cleanup]
    apply exists_congr
    intro event
    rw [AppState.mem_eventsOf, isUserStep, decide_eq_true_iff]
    exact Iff.rfl
  have launched :=
    @preserves_eventsOf_launch arguments environment
      (arguments.entered state.atRest)
  rw [served, startAndServe_eq_launch, run_bind]
  rcases run :
    (arguments.launch environment).run
      (arguments.entered state.atRest) with ⟨result, later⟩
  rw [run] at launched
  cases result with
  | ok _ =>
      have reached :=
        @mem_eventsOf_runUserLifespan arguments environment later
      simpa using reached
  | error exception =>
      dsimp only at launched ⊢
      rw [launched]
      simp [AppState.eventsOf, AppState.atRest, entered]

end LifespanArguments

/-! ## The same lifespan without startup checks -/

/-- The settings with the startup checks switched off. -/
def AppConfig.withoutStartupHealthcheck (config : AppConfig) : AppConfig :=
  { config with startupHealthcheck := false }

/-- The plan which these settings make. -/
def RuntimePlan.withoutStartupHealthcheck (plan : RuntimePlan) :
    RuntimePlan :=
  { plan with healthcheck := { plan.healthcheck with onStartup := false } }

/-- The same application with the startup checks switched off. -/
def AppRequest.withoutStartupHealthcheck (request : AppRequest) :
    AppRequest :=
  { request with config := request.config.withoutStartupHealthcheck }

/-- Two lifespans which differ in their startup checks only. -/
structure LifespanArguments.Unchecked (unchecked checked : LifespanArguments) :
    Prop where
  lifespan : unchecked.lifespan = checked.lifespan
  config : unchecked.config = checked.config.withoutStartupHealthcheck
  runtime : unchecked.runtime = checked.runtime
  runtimePlan :
    unchecked.runtimePlan =
      checked.runtimePlan.map RuntimePlan.withoutStartupHealthcheck
  policy :
    ∀ plan, checked.runtimePlan = some plan →
      plan.healthcheck = buildHealthcheckPolicy checked.config
  resources : unchecked.resources = checked.resources
  requireAuthProvider :
    unchecked.requireAuthProvider = checked.requireAuthProvider

theorem buildRuntimePlan_withoutStartupHealthcheck {sdk : ServiceSdk}
    {config : AppConfig} {plan unchecked : RuntimePlan}
    (built : buildRuntimePlan sdk config = .ok plan)
    (uncheckedBuilt :
      buildRuntimePlan sdk config.withoutStartupHealthcheck =
        .ok unchecked) :
    plan.healthcheck = buildHealthcheckPolicy config ∧
      unchecked = plan.withoutStartupHealthcheck := by
  rcases bind_eq_ok_iff.mp built with ⟨services, parsed, rest⟩
  rcases bind_eq_ok_iff.mp rest with ⟨oneOf, grouped, rest⟩
  rcases bind_eq_ok_iff.mp rest with ⟨_, -, returned⟩
  rcases bind_eq_ok_iff.mp uncheckedBuilt with
    ⟨otherServices, otherParsed, rest⟩
  rcases bind_eq_ok_iff.mp rest with ⟨otherOneOf, otherGrouped, rest⟩
  rcases bind_eq_ok_iff.mp rest with ⟨_, -, otherReturned⟩
  cases returned
  cases otherReturned
  have sameServices := parsed.symm.trans otherParsed
  have sameOneOf := grouped.symm.trans otherGrouped
  cases sameServices
  cases sameOneOf
  exact ⟨rfl, rfl⟩

theorem AppRequest.buildPlan_withoutStartupHealthcheck {sdk : ServiceSdk}
    {request : AppRequest} {plan unchecked : Option RuntimePlan}
    (built : request.buildPlan sdk = .ok plan)
    (uncheckedBuilt :
      request.withoutStartupHealthcheck.buildPlan sdk = .ok unchecked) :
    unchecked = plan.map RuntimePlan.withoutStartupHealthcheck ∧
      ∀ chosen, plan = some chosen →
        chosen.healthcheck = buildHealthcheckPolicy request.config := by
  rw [buildPlan] at built uncheckedBuilt
  by_cases assembled :
    request.runtime.isNone ∧ request.config.enabledServices ≠ []
  · rw [if_pos assembled] at built
    have uncheckedAssembled :
        request.withoutStartupHealthcheck.runtime.isNone ∧
          request.withoutStartupHealthcheck.config.enabledServices ≠ [] :=
      assembled
    rw [if_pos uncheckedAssembled] at uncheckedBuilt
    cases first : buildRuntimePlan sdk request.config with
    | error exception =>
        rw [first] at built
        cases built
    | ok chosen =>
        cases second :
          buildRuntimePlan sdk
            request.withoutStartupHealthcheck.config with
        | error exception =>
            rw [second] at uncheckedBuilt
            cases uncheckedBuilt
        | ok other =>
            have same :=
              buildRuntimePlan_withoutStartupHealthcheck first second
            rw [first] at built
            rw [second] at uncheckedBuilt
            cases built
            cases uncheckedBuilt
            refine ⟨congrArg some same.2, ?_⟩
            rintro _ ⟨⟩
            exact same.1
  · rw [if_neg assembled] at built
    have uncheckedInjected :
        ¬(request.withoutStartupHealthcheck.runtime.isNone ∧
          request.withoutStartupHealthcheck.config.enabledServices ≠ []) :=
      assembled
    rw [if_neg uncheckedInjected] at uncheckedBuilt
    cases built
    cases uncheckedBuilt
    exact ⟨rfl, by simp⟩

/-- `createApp` makes the same application but for the startup checks. -/
theorem AppRequest.unchecked_of_createApp {sdk : ServiceSdk}
    {request : AppRequest} {app unchecked : App}
    (created : request.createApp sdk = .ok app)
    (uncheckedCreated :
      request.withoutStartupHealthcheck.createApp sdk = .ok unchecked) :
    unchecked.state = app.state ∧
      unchecked.arguments.Unchecked app.arguments := by
  rcases request.exists_steps_of_createApp sdk created with
    ⟨plan, readiness, resources, connected, buildPlan, -, registered,
      bound, connects, state, arguments⟩
  rcases request.withoutStartupHealthcheck.exists_steps_of_createApp sdk
      uncheckedCreated with
    ⟨otherPlan, otherReadiness, otherResources, otherConnected,
      otherBuildPlan, -, otherRegistered, otherBound, otherConnects,
      otherState, otherArguments⟩
  cases registered.symm.trans otherRegistered
  cases bound.symm.trans otherBound
  cases connects.symm.trans otherConnects
  refine ⟨otherState.trans state.symm, ?_⟩
  rw [arguments, otherArguments]
  have plans :=
    buildPlan_withoutStartupHealthcheck buildPlan otherBuildPlan
  exact
    { lifespan := rfl
      config := rfl
      runtime := rfl
      runtimePlan := plans.1
      policy := plans.2
      resources := rfl
      requireAuthProvider := rfl }

/--
What the SDK documents for the mode `REPORT`: a failed check of a runtime is
returned, and a startup check does not keep an assembly from returning what
it returns without one.
-/
structure LifespanEnvironment.Reports (environment : LifespanEnvironment) :
    Prop where
  checkWithPolicy :
    ∀ policy, policy.failureMode = .report →
      ∃ result, environment.checkWithPolicy policy = .ok result
  assembleServiceRuntime :
    ∀ plan runtime, plan.healthcheck.failureMode = .report →
      environment.assembleServiceRuntime plan.withoutStartupHealthcheck =
        .ok runtime →
      environment.assembleServiceRuntime plan = .ok runtime

/-- What starting the resources depends on. -/
def AppState.launchView (state : AppState) :
    ReadinessRegistry × OrderedDict Name PyObject × Option PyObject :=
  (state.readinessRegistry, state.instances, state.authProvider)

namespace LifespanArguments.Unchecked

variable {checked unchecked : LifespanArguments}

theorem assembleRuntime (same : unchecked.Unchecked checked)
    (report : checked.config.startupFailureMode = .report)
    (reports : environment.Reports) {runtime : ServiceRuntime}
    (assembled :
      FastapiCore.assembleRuntime environment unchecked.runtimePlan =
        .ok runtime) :
    FastapiCore.assembleRuntime environment checked.runtimePlan =
      .ok runtime := by
  rw [same.runtimePlan] at assembled
  cases planned : checked.runtimePlan with
  | none =>
      rw [planned] at assembled
      exact assembled
  | some plan =>
      rw [planned] at assembled
      apply reports.assembleServiceRuntime plan runtime ?_ assembled
      rw [same.policy plan planned]
      exact report

/-- If a runtime is connected without startup checks, it is with them. -/
theorem startRuntime (same : unchecked.Unchecked checked)
    (report : checked.config.startupFailureMode = .report)
    (reports : environment.Reports) {state later : AppState}
    (returned :
      (unchecked.startRuntime environment).run state =
        (.ok ⟨⟩, later)) :
    ∃ other,
      (checked.startRuntime environment).run state = (.ok ⟨⟩, other) ∧
        other.launchView = later.launchView := by
  rw [LifespanArguments.startRuntime, run_read_bind] at returned ⊢
  cases injected : state.appRuntime with
  | none =>
      rw [injected] at returned
      dsimp only at returned ⊢
      rw [run_bind, run_recorded, run_ofExcept] at returned ⊢
      cases assembled :
        FastapiCore.assembleRuntime environment unchecked.runtimePlan with
      | error exception =>
          rw [assembled] at returned
          cases returned
      | ok runtime =>
          rw [same.assembleRuntime report reports assembled]
          rw [assembled] at returned
          exact ⟨later, returned, rfl⟩
  | some runtime =>
      have off : unchecked.config.startupHealthcheck = false := by
        rw [same.config]
        rfl
      rw [injected] at returned
      simp only [off, Bool.false_eq_true, if_false] at returned ⊢
      cases returned
      split
      · rcases
          reports.checkWithPolicy (buildHealthcheckPolicy checked.config)
            report with ⟨result, passed⟩
        rw [run_recorded, checkRuntimeOnStartup, passed]
        exact ⟨_, rfl, rfl⟩
      · exact ⟨_, rfl, rfl⟩

theorem checkAuthProvider (same : unchecked.Unchecked checked)
    {left right later : AppState}
    (sameView : left.launchView = right.launchView)
    (returned : unchecked.checkAuthProvider.run right = (.ok ⟨⟩, later)) :
    ∃ other,
      checked.checkAuthProvider.run left = (.ok ⟨⟩, other) ∧
        other.launchView = later.launchView := by
  have provider : left.authProvider = right.authProvider :=
    congrArg (fun view => view.2.2) sameView
  rw [LifespanArguments.checkAuthProvider, run_read_bind,
    same.requireAuthProvider] at returned
  rw [LifespanArguments.checkAuthProvider, run_read_bind, provider]
  split at returned
  · cases returned
  · next present =>
      cases returned
      rw [if_neg present]
      exact ⟨left, rfl, sameView⟩

theorem prepare (same : unchecked.Unchecked checked)
    (report : checked.config.startupFailureMode = .report)
    (reports : environment.Reports) {state prepared : AppState}
    (returned :
      (unchecked.prepare environment).run state = (.ok ⟨⟩, prepared)) :
    ∃ other,
      (checked.prepare environment).run state = (.ok ⟨⟩, other) ∧
        other.launchView = prepared.launchView := by
  rw [LifespanArguments.prepare, run_bind] at returned ⊢
  rcases started :
    (unchecked.startRuntime environment).run state with ⟨result, later⟩
  rw [started] at returned
  cases result with
  | error exception => cases returned
  | ok _ =>
      rcases same.startRuntime report reports started with
        ⟨other, checkedStarted, sameView⟩
      rw [checkedStarted]
      exact same.checkAuthProvider sameView returned

end LifespanArguments.Unchecked

/-! ## What the startup checks change -/

namespace LifespanArguments

/-- What preparing a start leaves alone. -/
def keptView (state : AppState) : Option ℚ × OrderedDict Name PyObject :=
  (state.readinessRegistry.defaultTimeoutSeconds, state.instances)

theorem preserves_prepare :
    Preserves keptView (arguments.prepare environment) := by
  have connects (runtime : ServiceRuntime) :
      Preserves keptView (configureServiceRuntime runtime) := by
    apply preserves_configureServiceRuntime_of
    · intro state spec next registered
      have timeout :=
        (ReadinessRegistry.register_eq_ok_iff.mp registered).2.2.2.1
      rw [keptView, keptView, AppState.setReadiness, timeout]
    · exact fun _ _ _ => rfl
    · exact fun _ _ => rfl
  apply Preserves.bind
  · apply Preserves.bind Preserves.read
    intro state
    split
    · apply Preserves.bind
      · exact preserves_recorded (fun _ _ => rfl) (Preserves.ofExcept _)
      intro runtime
      apply Preserves.bind
      · exact Preserves.update fun _ => rfl
      intro _
      apply preserves_recorded (fun _ _ => rfl)
      apply Preserves.bind (preserves_interrupt _)
      exact fun _ => connects runtime
    · split
      · apply preserves_recorded (fun _ _ => rfl)
        exact preserves_checkRuntimeOnStartup (fun _ _ => rfl) _ _
      · exact Preserves.pure _
  · intro _
    apply Preserves.bind Preserves.read
    intro state
    split
    · exact preserves_recorded (fun _ _ => rfl) (Preserves.raise _)
    · exact Preserves.pure _

/-- The startup gets to the resources, and they can be started. -/
structure CanStart (arguments : LifespanArguments)
    (environment : LifespanEnvironment) (state prepared : AppState) :
    Prop where
  prepares :
    (arguments.prepare environment).run (arguments.entered state.atRest) =
      (.ok ⟨⟩, prepared)
  starts :
    ∀ resource ∈ arguments.resources.resources,
      Starts environment prepared.readinessRegistry resource

/-- What can start does start. -/
theorem CanStart.exists_started {state prepared : AppState}
    (can : arguments.CanStart environment state prepared) :
    ∃ started,
      (arguments.resources.start environment).run prepared =
        (.ok ⟨⟩, started) ∧
      Started environment prepared arguments.resources.resources
        arguments.resources.resources started := by
  have kept :=
    @preserves_prepare arguments environment
      (arguments.entered state.atRest)
  rw [can.prepares] at kept
  have atRest : prepared.instances = .empty := congrArg Prod.snd kept
  rcases arguments.resources.run_start environment atRest with
    ⟨started, run, -, isStarted⟩ |
      ⟨done, resource, rest, exception, stopped, declared, -, fails, -⟩
  · exact ⟨started, run, isStarted⟩
  · have member : resource ∈ arguments.resources.resources := by
      rw [declared]
      simp
    exact (fails.not_starts (can.starts resource member)).elim

/-- A run which reaches the user lifespan has started its resources. -/
theorem exists_canStart {state : AppState}
    (reaches : arguments.ReachesUserLifespan environment state) :
    ∃ prepared, arguments.CanStart environment state prepared := by
  have kept :=
    @preserves_prepare arguments environment
      (arguments.entered state.atRest)
  rw [reachesUserLifespan_iff, launch, run_bind] at reaches
  rcases run :
    (arguments.prepare environment).run
      (arguments.entered state.atRest) with ⟨result, prepared⟩
  rw [run] at reaches kept
  cases result with
  | error exception => cases reaches
  | ok _ =>
      have atRest : prepared.instances = .empty := congrArg Prod.snd kept
      dsimp only at reaches
      rw [run_bind] at reaches
      rcases arguments.resources.run_start environment atRest with
        ⟨started, -, starts, -⟩ |
          ⟨done, resource, rest, exception, stopped, -, -, -, startRun⟩
      · exact ⟨prepared, run, starts⟩
      · rw [startRun] at reaches
        cases reaches

/-- After the resources have started, their check decides. -/
theorem CanStart.reaches_iff {state prepared started : AppState}
    (can : arguments.CanStart environment state prepared)
    (started_ :
      (arguments.resources.start environment).run prepared =
        (.ok ⟨⟩, started)) :
    arguments.ReachesUserLifespan environment state ↔
      ((arguments.checkResources environment).run started).1 =
        .ok ⟨⟩ := by
  rw [reachesUserLifespan_iff, launch, run_bind, can.prepares]
  dsimp only
  rw [run_bind, started_]

/-- Without startup checks, the resources only have to start. -/
theorem CanStart.reaches_of_unchecked {state prepared : AppState}
    (can : arguments.CanStart environment state prepared)
    (off : arguments.config.startupHealthcheck = false) :
    arguments.ReachesUserLifespan environment state := by
  rcases can.exists_started with ⟨started, run, -⟩
  apply (can.reaches_iff run).mpr
  rw [checkResources, if_neg (by simp [off])]
  rfl

/-- With startup checks, the required resources have to pass theirs. -/
theorem CanStart.reaches_iff_of_checked {state prepared : AppState}
    (can : arguments.CanStart environment state prepared)
    (on : arguments.config.startupHealthcheck = true)
    (contract : environment.healthSdk.Contract)
    (waits : environment.healthSdk.Waits) :
    arguments.ReachesUserLifespan environment state ↔
      arguments.ResourcesPass environment state.readinessRegistry := by
  rcases can.exists_started with ⟨started, run, isStarted⟩
  rw [can.reaches_iff run,
    checkResources_returns_iff on contract waits can.starts isStarted]
  have kept :=
    @preserves_prepare arguments environment
      (arguments.entered state.atRest)
  rw [can.prepares] at kept
  have timeout :
      prepared.readinessRegistry.defaultTimeoutSeconds =
        state.readinessRegistry.defaultTimeoutSeconds :=
    congrArg Prod.fst kept
  constructor
  · exact fun pass => pass.of_timeout timeout
  · exact fun pass => pass.of_timeout timeout.symm

/-- The startup gets to the resources with and without startup checks. -/
theorem Unchecked.exists_canStart
    {checked unchecked : LifespanArguments}
    (same : unchecked.Unchecked checked)
    (report : checked.config.startupFailureMode = .report)
    (reports : environment.Reports) {state prepared : AppState}
    (can : unchecked.CanStart environment state prepared) :
    ∃ prepared, checked.CanStart environment state prepared := by
  have entered :
      unchecked.entered state.atRest = checked.entered state.atRest := by
    rw [LifespanArguments.entered, same.runtime]
    rfl
  have uncheckedRun := can.prepares
  rw [entered] at uncheckedRun
  rcases same.prepare report reports uncheckedRun with
    ⟨other, run, sameView⟩
  refine ⟨other, run, ?_⟩
  have registry :
      other.readinessRegistry = prepared.readinessRegistry :=
    congrArg Prod.fst sameView
  rw [registry, ← same.resources]
  exact can.starts

end LifespanArguments

/--
In the mode `REPORT`, an application with startup checks reaches the user
lifespan whenever it would without them, exactly if its required resources
pass their startup check whenever it would.
-/
theorem App.reportsFailures_iff {sdk : ServiceSdk}
    {request : AppRequest} {app unchecked : App}
    (created : request.createApp sdk = .ok app)
    (uncheckedCreated :
      request.withoutStartupHealthcheck.createApp sdk = .ok unchecked)
    (on : request.config.startupHealthcheck = true)
    (report : request.config.startupFailureMode = .report)
    {environment : LifespanEnvironment} (reports : environment.Reports)
    (contract : environment.healthSdk.Contract)
    (waits : environment.healthSdk.Waits) (state : AppState) :
    (unchecked.arguments.ReachesUserLifespan environment state →
        app.arguments.ReachesUserLifespan environment state) ↔
      (unchecked.arguments.ReachesUserLifespan environment state →
        app.arguments.ResourcesPass environment
          state.readinessRegistry) := by
  have same :=
    (AppRequest.unchecked_of_createApp created uncheckedCreated).2
  have config : app.arguments.config = request.config := by
    rcases request.exists_steps_of_createApp sdk created with ⟨steps⟩
    rw [steps.arguments]
    rfl
  rw [← config] at on report
  apply imp_congr_right
  intro reaches
  rcases LifespanArguments.exists_canStart reaches with ⟨_, uncheckedCan⟩
  rcases same.exists_canStart report reports uncheckedCan with
    ⟨prepared, can⟩
  exact can.reaches_iff_of_checked on contract waits

/-! ## A required database -/

/-- Settings which report failing startup checks. -/
def AppConfig.reporting : AppConfig :=
  { AppConfig.enabling [] with
    startupHealthcheck := true
    startupFailureMode := .report }

/-- An application which reports failing startup checks, with a database. -/
def reportingRequest : AppRequest where
  config := .reporting
  resources :=
    [.resourceBinding
      { key := .database
        factory := .function 1
        healthcheck := some (.function 2) }]

/-- The application made for this request. -/
def reportingApp : App where
  state := { readinessRegistry := .new none }
  arguments :=
    { config := .reporting
      resources := .checkedDatabase }

/-- The same application without startup checks. -/
def silentApp : App where
  state := { readinessRegistry := .new none }
  arguments :=
    { config := AppConfig.reporting.withoutStartupHealthcheck
      resources := .checkedDatabase }

theorem createApp_reportingRequest :
    reportingRequest.createApp .accepting = .ok reportingApp ∧
      reportingRequest.withoutStartupHealthcheck.createApp .accepting =
        .ok silentApp :=
  ⟨rfl, rfl⟩

/-- Every step returns, and every check returns this value. -/
def LifespanEnvironment.checking (value : CheckValue) :
    LifespanEnvironment :=
  { LifespanEnvironment.quiet .empty with
    checks :=
      { check := fun _ => .syncFunction (.settles 0 (.ok (.value value)))
        adapter := fun _ value => .ok (.value value) } }

theorem reports_checking (value : CheckValue) :
    (LifespanEnvironment.checking value).Reports where
  checkWithPolicy _ _ := ⟨_, rfl⟩
  assembleServiceRuntime _ _ _ assembled := assembled

theorem silentApp_canStart (value : CheckValue) :
    ∃ prepared,
      silentApp.arguments.CanStart (.checking value) silentApp.state
        prepared := by
  refine ⟨_, rfl, ?_⟩
  intro resource member
  cases List.mem_singleton.mp member
  exact ⟨⟨_, rfl⟩, fun _ => rfl, by decide⟩

/-- A passing database does not keep the application from its lifespan. -/
theorem reportingApp_reachesUserLifespan :
    reportingApp.arguments.ReachesUserLifespan (.checking .none)
      reportingApp.state := by
  rcases silentApp_canStart .none with ⟨prepared, can⟩
  refine
    (App.reportsFailures_iff createApp_reportingRequest.1
      createApp_reportingRequest.2 rfl rfl (reports_checking .none)
      HealthSdk.documented_contract HealthSdk.documented_waits _).mpr
      (fun _ => ⟨rfl, fun _ => rfl, ?_⟩) (can.reaches_of_unchecked rfl)
  intro spec member
  cases List.mem_singleton.mp member
  exact ⟨_, _, rfl, nofun⟩

/-- A failing check of a required resource ends the startup. -/
theorem not_forall_reachesUserLifespan :
    ¬∀ (sdk : ServiceSdk) (request : AppRequest) (app unchecked : App)
        (environment : LifespanEnvironment) (state : AppState),
      request.createApp sdk = .ok app →
      request.withoutStartupHealthcheck.createApp sdk = .ok unchecked →
      request.config.startupHealthcheck = true →
      request.config.startupFailureMode = .report →
      environment.Reports →
      environment.healthSdk.Contract → environment.healthSdk.Waits →
      unchecked.arguments.ReachesUserLifespan environment state →
      app.arguments.ReachesUserLifespan environment state := by
  intro reaches
  rcases silentApp_canStart (.bool false) with ⟨prepared, can⟩
  have reached :=
    reaches .accepting reportingRequest reportingApp silentApp
      (.checking (.bool false)) reportingApp.state
      createApp_reportingRequest.1 createApp_reportingRequest.2 rfl rfl
      (reports_checking _) HealthSdk.documented_contract
      HealthSdk.documented_waits (can.reaches_of_unchecked rfl)
  have same :=
    (AppRequest.unchecked_of_createApp createApp_reportingRequest.1
      createApp_reportingRequest.2).2
  rcases same.exists_canStart rfl (reports_checking _) can with
    ⟨checkedPrepared, checkedCan⟩
  have pass :=
    (checkedCan.reaches_iff_of_checked rfl HealthSdk.documented_contract
      HealthSdk.documented_waits).mp reached
  rcases pass.passes _ (List.mem_singleton_self _) with
    ⟨elapsed, report, settles, success⟩
  cases settles
  exact success .returnedFalse

end FastapiCore
