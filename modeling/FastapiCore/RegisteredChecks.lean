import FastapiCore.ApplicationOrder
import FastapiCore.HealthStatusLaw
import FastapiCore.ServiceClients
import FastapiCore.StaleChecks
import FastapiCore.StartupNames

/-!
# The readiness checks of an application over its runs

An application is created with the checks of its modules and of an injected
runtime.  Every run adds the checks of the runtime which it connects, and
these stay when the run is over.  The checks of the resources stand behind
them while the run serves, and are gone when it has ended.

The readiness endpoint reports on exactly these checks, so its verdict while
a run serves is one about them.
-/

namespace FastapiCore

open Library
open Library.Effect

/-! ## Blocks which neither touch the checks nor the instances -/

/-- The checks and the live instances. -/
def AppState.checksView (state : AppState) :
    List (Name × ReadinessCheckSpec) × OrderedDict Name PyObject :=
  (state.readinessRegistry.specs.entries, state.instances)

section Kept

variable {environment : LifespanEnvironment} {arguments : LifespanArguments}

theorem preserves_checksView_recorded {α : Type} {step : LifespanStep}
    {block : Lifespan α} (kept : Preserves AppState.checksView block) :
    Preserves AppState.checksView (recorded step block) :=
  preserves_recorded (fun _ _ => Eq.refl _) kept

theorem checksView_recorded {α : Type} {step : LifespanStep}
    {block : Lifespan α} (state : AppState) :
    ((recorded step block).run state).2.checksView =
      (block.run state).2.checksView := by
  rw [run_recorded]
  rcases block.run state with ⟨result, later⟩
  cases result <;> exact Eq.refl _

theorem preserves_checksView_checkAuthProvider :
    Preserves AppState.checksView arguments.checkAuthProvider := by
  apply Preserves.bind Preserves.read
  intro state
  split
  · exact preserves_checksView_recorded (Preserves.raise _)
  · exact Preserves.pure _

theorem preserves_checksView_checkResources :
    Preserves AppState.checksView
      (arguments.checkResources environment) := by
  simp only [LifespanArguments.checkResources]
  split
  · apply preserves_checksView_recorded
    apply Preserves.bind (preserves_interrupt _)
    exact fun _ => preserves_checkStartup _ _ _ _
  · exact Preserves.pure _

theorem preserves_checksView_enterUserLifespan
    (lifespan : Option Callable) :
    Preserves AppState.checksView
      (enterUserLifespan environment lifespan) := by
  cases lifespan with
  | none => exact Preserves.pure _
  | some lifespan =>
      exact preserves_checksView_recorded (Preserves.ofExcept _)

theorem preserves_checksView_serveUserLifespan
    (lifespan : Option Callable) :
    Preserves AppState.checksView
      (serveUserLifespan environment lifespan) := by
  cases lifespan with
  | none => exact preserves_checksView_recorded (Preserves.ofExcept _)
  | some lifespan =>
      apply Preserves.bind
      · apply Preserves.tryExcept
        · apply Preserves.bind
          · exact preserves_checksView_recorded (Preserves.ofExcept _)
          · exact fun _ => Preserves.pure _
        · exact fun _ => Preserves.pure _
      intro served
      apply Preserves.bind
      · exact preserves_checksView_recorded (Preserves.ofExcept _)
      intro suppressed
      split
      · exact Preserves.pure _
      · split
        · exact Preserves.pure _
        · exact Preserves.raise _

theorem preserves_checksView_closeAppRuntime :
    Preserves AppState.checksView (closeAppRuntime environment) := by
  apply Preserves.bind Preserves.read
  intro state
  split
  · exact Preserves.pure _
  · apply Preserves.tryExcept
    · exact preserves_checksView_recorded (Preserves.ofExcept _)
    · intro exception
      simp only [reportCloseFailure]
      split
      · apply Preserves.bind
        · exact Preserves.update fun _ => Eq.refl _
        · exact fun _ => Preserves.raise _
      · exact Preserves.raise _

end Kept

/-! ## What a connection adds -/

namespace LifespanArguments

variable (arguments : LifespanArguments)

/-- The runtime whose checks a run adds to those of a state. -/
def attaches (state : AppState) (environment : LifespanEnvironment) :
    Option ServiceRuntime :=
  match arguments.runtime with
  | some _ => none
  | none =>
      (arguments.connecting environment).filter fun runtime =>
        (runtime.refusal state.readinessRegistry).isNone

/-- The checks which a run adds to those of a state. -/
def attachedChecks (state : AppState) (environment : LifespanEnvironment) :
    List ReadinessCheckSpec :=
  ((arguments.attaches state environment).map
    ServiceRuntime.readinessSpecs).getD []

variable {arguments} {state : AppState} {environment : LifespanEnvironment}

/-- Connecting a runtime adds its checks, or nothing if it is refused. -/
theorem checksView_configureServiceRuntime (runtime : ServiceRuntime)
    (state : AppState) :
    ((configureServiceRuntime runtime).run state).2.checksView =
      (state.readinessRegistry.specs.entries ++
          ((((some runtime).filter fun runtime =>
            (runtime.refusal state.readinessRegistry).isNone).map
              ServiceRuntime.readinessSpecs).getD []).map
            ReadinessCheckSpec.entry,
        state.instances) := by
  have instances := congrArg Progress.instances
    (preserves_configureServiceRuntime runtime state)
  refine Prod.ext ?_ instances
  cases refused : runtime.refusal state.readinessRegistry with
  | some exception =>
      simp [AppState.checksView, Option.filter, refused,
        run_configureServiceRuntime_of_refused refused]
  | none =>
      rcases run_configureServiceRuntime_of_accepted refused with
        ⟨registry, entries, run⟩
      simp only [AppState.checksView, Option.filter, refused, run,
        AppState.readinessRegistry_connect, entries]
      exact Eq.refl _

/-- The first block of a run adds the checks of the runtime. -/
theorem checksView_startRuntime :
    ((arguments.startRuntime environment).run
        (arguments.entered state)).2.checksView =
      (state.readinessRegistry.specs.entries ++
          (arguments.attachedChecks state environment).map
            ReadinessCheckSpec.entry,
        state.instances) := by
  cases injected : arguments.runtime with
  | some runtime =>
      have none : arguments.attachedChecks state environment = [] := by
        simp only [attachedChecks, attaches, injected, Option.map_none,
          Option.getD_none]
      rw [startRuntime, run_read_bind, entered, injected, none,
        List.map_nil, List.append_nil]
      dsimp only
      split
      · exact
          preserves_checksView_recorded
            (preserves_checkRuntimeOnStartup (fun _ _ => Eq.refl _) _ _) _
      · exact Eq.refl _
  | none =>
      rw [startRuntime, run_read_bind, entered, injected]
      dsimp only
      rw [run_bind, run_recorded, run_ofExcept, attachedChecks, attaches,
        injected, connecting]
      cases assembleRuntime environment arguments.runtimePlan with
      | error exception =>
          simp [AppState.checksView, AppState.record]
      | ok runtime =>
          dsimp only
          rw [run_update_bind]
          refine (checksView_recorded _).trans ?_
          cases environment.configureInterrupt with
          | some exception =>
              simp [AppState.checksView, AppState.record, interrupt,
                run_bind]
          | none =>
              exact
                checksView_configureServiceRuntime runtime
                  (connectingState { state with appRuntime := none }
                    runtime)

end LifespanArguments

/-! ## What a run leaves of the checks of the resources -/

namespace ResourceRegistry

variable {registry : ResourceRegistry} {environment : LifespanEnvironment}
variable {initial state : AppState}

/-- No check stands under a resource name, and no instance is live. -/
structure AtRest (registry : ResourceRegistry) (state : AppState) : Prop where
  vacant : registry.Vacant state
  instances : state.instances = .empty

/-- What a close would make a state at rest. -/
structure Closable (registry : ResourceRegistry) (state : AppState) :
    Prop where
  releasable : ∀ name ∈ registry.names, registry.Releasable state name
  live : state.instances.keys ⊆ registry.names

theorem AtRest.closable (atRest : registry.AtRest state) :
    registry.Closable state where
  releasable name member :=
    releasable_of_not_mem_names (atRest.vacant name member)
  live := by
    rw [atRest.instances]
    exact List.nil_subset _

theorem Closable.congr (closable : registry.Closable initial)
    (same : state.checksView = initial.checksView) :
    registry.Closable state := by
  have entries := congrArg Prod.fst same
  have instances := congrArg Prod.snd same
  simp only [AppState.checksView] at entries instances
  constructor
  · intro name member spec stored
    rw [entries] at stored
    have released := closable.releasable name member spec stored
    simpa only [AppState.releases, instances] using released
  · rw [instances]
    exact closable.live

theorem AtRest.congr (atRest : registry.AtRest initial)
    (same : state.checksView = initial.checksView) :
    registry.AtRest state := by
  have entries := congrArg Prod.fst same
  have instances := congrArg Prod.snd same
  simp only [AppState.checksView] at entries instances
  refine ⟨?_, instances.trans atRest.instances⟩
  simp only [Vacant, ReadinessRegistry.names, OrderedDict.keys, entries]
  exact atRest.vacant

/-- Closing leaves a state at rest. -/
theorem Closable.atRest_closeAll (closable : registry.Closable state) :
    registry.AtRest (state.closeAll environment registry.resources) := by
  constructor
  · intro name member
    exact not_mem_names_closeAll (closable.releasable name member)
  · ext : 1
    rw [(registry.closedAll environment state).instances,
      List.filter_eq_nil_iff.mpr]
    · exact Eq.refl _
    · rintro entry stored
      simp only [decide_eq_true_eq, not_not]
      exact closable.live (List.mem_map_of_mem stored)

theorem otherEntries_of_vacant (vacant : registry.Vacant state) :
    registry.otherEntries state =
      state.readinessRegistry.specs.entries := by
  apply List.filter_eq_self.mpr
  intro entry stored
  simp only [decide_eq_true_eq]
  intro member
  exact vacant entry.1 member (List.mem_map_of_mem stored)

theorem keys_of_started {live checked : List ManagedResource}
    (started : Started environment initial live checked state)
    (declared : ∀ resource ∈ live, resource ∈ registry.resources) :
    state.instances.keys ⊆ registry.names := by
  intro name member
  rw [OrderedDict.keys, started.instances] at member
  rcases List.mem_map.mp member with ⟨entry, stored, rfl⟩
  rcases List.mem_filterMap.mp stored with ⟨resource, among, made⟩
  simp only [instanceEntry] at made
  split at made
  · cases made
    exact List.mem_map_of_mem (declared resource among)
  · cases made

/-- However a start ends, a close would make a state at rest. -/
theorem AtRest.closable_start (plain : registry.PlainHealthchecks)
    (atRest : registry.AtRest state) :
    registry.Closable ((registry.start environment).run state).2 := by
  constructor
  · intro name member
    exact
      releasable_step plain (.start environment atRest.instances)
        (atRest.closable.releasable name member)
  · rcases registry.run_start environment atRest.instances with
      ⟨started, run, -, holds⟩ |
        ⟨done, resource, rest, exception, stopped, split, -, fails, run⟩
    · rw [run]
      exact keys_of_started holds fun _ member => member
    · have among : ∀ other ∈ done ++ [resource],
          other ∈ registry.resources := by
        intro other member
        rw [split]
        rcases List.mem_append.mp member with earlier | last
        · exact List.mem_append_left _ earlier
        · cases List.mem_singleton.mp last
          exact List.mem_append_right _ (.head _)
      have live : stopped.instances.keys ⊆ registry.names := by
        rcases fails with ⟨-, started⟩ | ⟨value, -, started⟩
        · exact keys_of_started started fun other member =>
            among other (List.mem_append_left _ member)
        · exact keys_of_started started among
      intro name member
      rw [run] at member
      apply live
      simp only [OrderedDict.keys,
        (registry.closedAll environment stopped).instances] at member ⊢
      exact (List.filter_sublist.map Prod.fst).subset member

end ResourceRegistry

/-! ## One run -/

namespace LifespanArguments

variable {arguments : LifespanArguments} {environment : LifespanEnvironment}
variable {state : AppState}

/-- The checks of a run stand under no resource name. -/
def AttachesOutside (arguments : LifespanArguments) (state : AppState)
    (environment : LifespanEnvironment) : Prop :=
  ∀ spec ∈ arguments.attachedChecks state environment,
    spec.name ∉ arguments.resources.names

theorem atRest_startRuntime (atRest : arguments.resources.AtRest state)
    (outside : arguments.AttachesOutside state environment) :
    arguments.resources.AtRest
      ((arguments.startRuntime environment).run
        (arguments.entered state)).2 := by
  have view := @checksView_startRuntime arguments state environment
  have entries := congrArg Prod.fst view
  have instances := congrArg Prod.snd view
  simp only [AppState.checksView] at entries instances
  refine ⟨?_, instances.trans atRest.instances⟩
  intro name member registered
  rw [ReadinessRegistry.names, OrderedDict.keys, entries, List.map_append,
    List.mem_append, map_entry_fst] at registered
  rcases registered with earlier | attached
  · exact atRest.vacant name member earlier
  · rcases List.mem_map.mp attached with ⟨spec, among, rfl⟩
    exact outside spec among member

/-- However a run gets on, a close would make a state at rest. -/
theorem closable_startAndServe
    (plain : arguments.resources.PlainHealthchecks)
    (atRest : arguments.resources.AtRest state)
    (outside : arguments.AttachesOutside state environment) :
    arguments.resources.Closable
      ((arguments.startAndServe environment).run
        (arguments.entered state)).2 := by
  have closing {α : Type} {block : Lifespan α}
      (kept : Preserves AppState.checksView block) :
      Triple arguments.resources.Closable block
        (fun _ => arguments.resources.Closable)
        (fun _ => arguments.resources.Closable) :=
    triple_iff_forall_run.mpr fun before closable =>
      closable.congr (kept before)
  have resting {α : Type} {block : Lifespan α}
      (kept : Preserves AppState.checksView block) :
      Triple arguments.resources.AtRest block
        (fun _ => arguments.resources.AtRest)
        (fun _ => arguments.resources.Closable) :=
    (triple_iff_forall_run.mpr fun before atRest =>
      atRest.congr (kept before)).weaken_raise fun _ _ atRest =>
        atRest.closable
  have start :
      Triple (fun current => current = arguments.entered state)
        (arguments.startRuntime environment)
        (fun _ => arguments.resources.AtRest)
        (fun _ => arguments.resources.Closable) := by
    refine (triple_iff_forall_run.mpr ?_).weaken_raise fun _ _ atRest =>
      ResourceRegistry.AtRest.closable atRest
    rintro _ rfl
    exact atRest_startRuntime atRest outside
  have run :
      Triple (fun current => current = arguments.entered state)
        (arguments.startAndServe environment)
        (fun _ => arguments.resources.Closable)
        (fun _ => arguments.resources.Closable) := by
    rw [startAndServe_eq]
    refine Triple.bind (Triple.bind start fun _ => ?_) fun _ => closing
      (preserves_checksView_serveUserLifespan arguments.lifespan)
    refine Triple.bind (resting preserves_checksView_checkAuthProvider)
      fun _ => ?_
    refine Triple.bind (triple_iff_forall_run.mpr fun _ atRest =>
      atRest.closable_start plain) fun _ => ?_
    refine Triple.bind (closing preserves_checksView_checkResources)
      fun _ => ?_
    exact closing
      (preserves_checksView_enterUserLifespan arguments.lifespan)
  exact triple_iff_forall_run.mp run _ (Eq.refl _)

/-- A run which has ended leaves a state at rest. -/
theorem atRest_managedLifespan
    (plain : arguments.resources.PlainHealthchecks)
    (atRest : arguments.resources.AtRest state)
    (outside : arguments.AttachesOutside state environment) :
    arguments.resources.AtRest
      ((arguments.managedLifespan environment).run state).2 := by
  rw [managedLifespan, run_update_bind, state_tryFinally]
  refine ResourceRegistry.AtRest.congr ?_
    (Preserves.run_tryFinally preserves_checksView_closeAppRuntime _)
  rw [ResourceRegistry.run_close]
  exact (closable_startAndServe plain atRest outside).atRest_closeAll

/-- A run which has ended leaves the checks of the runtime it connected. -/
theorem entries_managedLifespan
    (plain : arguments.resources.PlainHealthchecks)
    (atRest : arguments.resources.AtRest state)
    (outside : arguments.AttachesOutside state environment) :
    ((arguments.managedLifespan environment).run
        state).2.readinessRegistry.specs.entries =
      state.readinessRegistry.specs.entries ++
        (arguments.attachedChecks state environment).map
          ReadinessCheckSpec.entry := by
  have leaves := arguments.resources.leaves_otherEntries
  have started := @atRest_startRuntime arguments environment state atRest
    outside
  have ended := atRest_managedLifespan plain atRest outside
  calc
    _ = arguments.resources.otherEntries
          ((arguments.managedLifespan environment).run state).2 :=
      (ResourceRegistry.otherEntries_of_vacant ended.vacant).symm
    _ = arguments.resources.otherEntries
          ((arguments.startRuntime environment).run
            (arguments.entered state)).2 :=
      (view_managedLifespan leaves state).trans (view_startup leaves _)
    _ = ((arguments.startRuntime environment).run
          (arguments.entered state)).2.readinessRegistry.specs.entries :=
      ResourceRegistry.otherEntries_of_vacant started.vacant
    _ = _ := congrArg Prod.fst checksView_startRuntime

/-- A block which preserves the view keeps what holds of it. -/
theorem triple_of_preserves_checksView {α : Type} {block : Lifespan α}
    (kept : Preserves AppState.checksView block)
    (holds :
      List (Name × ReadinessCheckSpec) × OrderedDict Name PyObject → Prop) :
    Triple (fun current => holds current.checksView) block
      (fun _ current => holds current.checksView) (fun _ _ => True) :=
  (Triple.of_preserves kept holds).weaken_raise fun _ _ _ => trivial

/-- A start which returns appends the checks of the resources. -/
theorem triple_start_checksView (registry : ResourceRegistry)
    (checks : List (Name × ReadinessCheckSpec)) :
    Triple (fun current => current.checksView = (checks, .empty))
      (registry.start environment)
      (fun _ current =>
        current.checksView.1 =
          checks ++
            (registry.resources.filterMap (startedSpec environment)).map
              ReadinessCheckSpec.entry)
      (fun _ _ => True) := by
  intro current view
  have entries := congrArg Prod.fst view
  have instances := congrArg Prod.snd view
  simp only [AppState.checksView] at entries instances
  rcases registry.run_start environment instances with
    ⟨started, run, -, holds⟩ | ⟨_, _, _, _, _, -, -, -, run⟩
  · rw [run]
    exact holds.checks.trans (congrArg (· ++ _) entries)
  · rw [run]
    exact trivial

/-- While a run serves, the checks of the resources stand behind the others. -/
theorem entries_startup (atRest : arguments.resources.AtRest state)
    {served : AppState}
    (starts :
      (arguments.startup environment).run (arguments.entered state) =
        (.ok ⟨⟩, served)) :
    served.readinessRegistry.specs.entries =
      state.readinessRegistry.specs.entries ++
        (arguments.attachedChecks state environment ++
            arguments.resources.resources.filterMap
              (startedSpec environment)).map
          ReadinessCheckSpec.entry := by
  let before :=
    state.readinessRegistry.specs.entries ++
      (arguments.attachedChecks state environment).map
        ReadinessCheckSpec.entry
  let after :=
    before ++
      (arguments.resources.resources.filterMap
        (startedSpec environment)).map ReadinessCheckSpec.entry
  have connects :
      Triple (fun current => current = arguments.entered state)
        (arguments.startRuntime environment)
        (fun _ current => current.checksView = (before, .empty))
        (fun _ _ => True) := by
    refine (triple_iff_forall_run.mpr ?_).weaken_raise fun _ _ _ => trivial
    rintro _ rfl
    rw [checksView_startRuntime, atRest.instances]
  have run :
      Triple (fun current => current = arguments.entered state)
        (arguments.startup environment)
        (fun _ current => current.checksView.1 = after)
        (fun _ _ => True) := by
    refine Triple.bind connects fun _ => ?_
    refine Triple.bind
      (triple_of_preserves_checksView preserves_checksView_checkAuthProvider
        (· = (before, .empty))) fun _ => ?_
    refine Triple.bind
      (triple_start_checksView arguments.resources before) fun _ => ?_
    refine Triple.bind
      (triple_of_preserves_checksView preserves_checksView_checkResources
        (·.1 = after)) fun _ => ?_
    exact
      triple_of_preserves_checksView
        (preserves_checksView_enterUserLifespan arguments.lifespan)
        (·.1 = after)
  have holds := run _ (Eq.refl _)
  rw [starts] at holds
  rw [List.map_append, ← List.append_assoc]
  exact holds

end LifespanArguments

/-! ## All runs of an application -/

theorem ReadinessRegistry.specList_of_entries
    {registry : ReadinessRegistry} {specs : List ReadinessCheckSpec}
    (entries :
      registry.specs.entries = specs.map ReadinessCheckSpec.entry) :
    registry.specList = specs := by
  rw [ReadinessRegistry.specList, OrderedDict.values, entries,
    List.map_map]
  exact List.map_id specs

namespace App

variable (app : App)

/-- What the service SDK promises of the runtime which a run assembles. -/
def Planned (environment : LifespanEnvironment) : Prop :=
  ∀ runtime,
    assembleRuntime environment app.arguments.runtimePlan = .ok runtime →
      app.arguments.Plans runtime

/-- The checks which some runs have added to those of a state. -/
def checksOfRuns (state : AppState)
    (environments : List LifespanEnvironment) : List ReadinessCheckSpec :=
  (written app.afterRun app.arguments.attaches state environments).flatMap
    ServiceRuntime.readinessSpecs

variable {app} {state : AppState} {environment : LifespanEnvironment}
variable {environments : List LifespanEnvironment}

theorem checksOfRuns_cons :
    app.checksOfRuns state (environment :: environments) =
      app.arguments.attachedChecks state environment ++
        app.checksOfRuns (app.afterRun state environment) environments := by
  simp only [checksOfRuns, written, List.flatMap_append,
    LifespanArguments.attachedChecks]
  cases app.arguments.attaches state environment with
  | none => exact Eq.refl _
  | some runtime =>
      simp only [Option.toList_some, List.flatMap_singleton,
        Option.map_some, Option.getD_some]

theorem attachesOutside_of_planned (planned : app.Planned environment)
    (outside :
      ∀ runtime, app.arguments.Plans runtime →
        ∀ service ∈ runtime.checks.keys,
          service ∉ app.arguments.resources.names) :
    app.arguments.AttachesOutside state environment := by
  intro spec member
  simp only [LifespanArguments.attachedChecks,
    LifespanArguments.attaches] at member
  split at member
  · cases member
  · cases connecting : app.arguments.connecting environment with
    | none =>
        rw [connecting] at member
        cases member
    | some runtime =>
        have made := App.assembled_of_connecting connecting
        apply outside runtime (planned runtime made)
        rw [← runtime.names_readinessSpecs]
        apply List.mem_map_of_mem
        rw [connecting, Option.filter] at member
        split at member
        · exact member
        · cases member

/-- After any runs, only the checks of connected runtimes have come. -/
theorem entries_afterRuns
    (plain : app.arguments.resources.PlainHealthchecks)
    (outside :
      ∀ runtime, app.arguments.Plans runtime →
        ∀ service ∈ runtime.checks.keys,
          service ∉ app.arguments.resources.names)
    (atRest : app.arguments.resources.AtRest state)
    (planned : ∀ environment ∈ environments, app.Planned environment) :
    app.arguments.resources.AtRest (environments.foldl app.afterRun state) ∧
      (environments.foldl app.afterRun
          state).readinessRegistry.specs.entries =
        state.readinessRegistry.specs.entries ++
          (app.checksOfRuns state environments).map
            ReadinessCheckSpec.entry := by
  induction environments generalizing state with
  | nil => exact ⟨atRest, (List.append_nil _).symm⟩
  | cons environment rest induction =>
      rw [List.forall_mem_cons] at planned
      have apart : app.arguments.AttachesOutside state environment :=
        attachesOutside_of_planned planned.1 outside
      have ended :
          app.arguments.resources.AtRest (app.afterRun state environment) :=
        LifespanArguments.atRest_managedLifespan plain atRest apart
      have left :
          (app.afterRun state environment).readinessRegistry.specs.entries =
            _ :=
        LifespanArguments.entries_managedLifespan plain atRest apart
      rcases induction ended planned.2 with ⟨last, entries⟩
      refine ⟨last, entries.trans ?_⟩
      rw [left, checksOfRuns_cons, List.map_append, List.append_assoc]

end App

/-- A created application is at rest. -/
theorem AppRequest.atRest_of_createApp {sdk : ServiceSdk}
    {request : AppRequest} {app : App}
    (created : request.createApp sdk = .ok app) :
    app.arguments.resources.AtRest app.state := by
  have passed := request.created_of_createApp sdk created
  have state := state_of_createApp created
  refine ⟨?_, congrArg Progress.instances state.1⟩
  intro name resource registered
  have nodup :=
    nodup_extensionNames_of_validateExtensionNames passed.namesValid
  rw [extensionNames, List.append_assoc, List.nodup_append] at nodup
  rw [ResourceRegistry.names_of_new passed.resources] at resource
  rw [state.2] at registered
  exact nodup.2.2 name resource name registered (Eq.refl _)

/-- The readiness endpoint reports on exactly these checks. -/
structure AppState.ReportsOn (state : AppState) (config : AppConfig)
    (specs : List ReadinessCheckSpec) : Prop where
  checks : state.readinessRegistry.specList = specs
  verdict :
    (∀ spec ∈ specs, '.' ∉ spec.name.toList) →
      ∀ (sdk : HealthSdk) (environment : CheckEnvironment), sdk.Contract →
        state.readinessRegistry.TimeoutFires config sdk environment ∨
          state.readinessRegistry.Completes environment specs →
        ∃ reply,
          readiness state.readinessRegistry config sdk environment =
              some (.ok reply) ∧
            state.readinessRegistry.ReadinessVerdict config sdk environment
              reply

theorem AppState.reportsOn_of_entries {state : AppState}
    {specs : List ReadinessCheckSpec}
    (entries :
      state.readinessRegistry.specs.entries =
        specs.map ReadinessCheckSpec.entry)
    (config : AppConfig) : state.ReportsOn config specs := by
  have checks := ReadinessRegistry.specList_of_entries entries
  refine ⟨checks, ?_⟩
  intro dotFree sdk environment contract settled
  rw [← checks] at dotFree settled
  apply (ReadinessRegistry.readiness_verdict_iff contract settled).mpr
  exact settled.imp_right fun completes =>
    ReadinessRegistry.governedAsProduced_of_dotFree contract completes
      dotFree

/--
Between two runs the endpoint reports on the checks of the modules and of all
runtimes connected so far.  While a run serves, the checks of its own runtime
and of its resources have come behind them.
-/
theorem ApplicationRequest.reportsOn_over_runs {sdk : ServiceSdk}
    {hierarchy : ClassHierarchy ExcClass} {framework : Framework}
    {request : ApplicationRequest} {application : Application}
    (created : request.create sdk hierarchy framework = .ok application)
    (plain : application.app.arguments.resources.PlainHealthchecks)
    (earlier : List LifespanEnvironment)
    (planned :
      ∀ environment ∈ earlier, application.app.Planned environment) :
    (earlier.foldl application.app.afterRun
        application.app.state).ReportsOn request.config
        (request.initialChecks ++
          application.app.checksOfRuns application.app.state earlier) ∧
      ∀ environment served,
        (application.app.arguments.startup environment).run
            (application.app.arguments.entered
              (earlier.foldl application.app.afterRun
                application.app.state)) =
          (.ok ⟨⟩, served) →
        served.ReportsOn request.config
          (request.initialChecks ++
            application.app.checksOfRuns application.app.state earlier ++
            application.app.arguments.attachedChecks
              (earlier.foldl application.app.afterRun
                application.app.state)
              environment ++
            application.app.arguments.resources.resources.filterMap
              (startedSpec environment)) := by
  have createdApp :=
    (ApplicationRequest.create_eq_ok_iff_parts.mp created).1
  have outside := (AppRequest.created_of_createApp sdk _ createdApp).outside
  rcases App.entries_afterRuns plain outside
    (AppRequest.atRest_of_createApp createdApp) planned with
    ⟨atRest, entries⟩
  rw [(ApplicationRequest.state_of_create created).2] at entries
  have ran :
      (earlier.foldl application.app.afterRun
          application.app.state).readinessRegistry.specs.entries =
        (request.initialChecks ++
          application.app.checksOfRuns application.app.state earlier).map
          ReadinessCheckSpec.entry :=
    entries.trans List.map_append.symm
  refine ⟨AppState.reportsOn_of_entries ran _, ?_⟩
  intro environment served starts
  apply AppState.reportsOn_of_entries
  rw [LifespanArguments.entries_startup atRest starts, ran,
    ← List.map_append, ← List.append_assoc]

/-- A module with a check, and a resource with another one. -/
def jobsRequest : ApplicationRequest where
  config := .enabling []
  modules :=
    [{ name := "jobs"
       readinessChecks := [{ name := "queue", check := .function 1 }] }]
  resources :=
    [.managedResource
      { name := .str "store"
        factory := .function 2
        healthcheck := some (.function 3) }]

/-- In a second run the endpoint reports on the module and the resource. -/
theorem reportsOn_jobsRequest :
    ∃ application served specs,
      jobsRequest.create .accepting family .accepting = .ok application ∧
        (application.app.arguments.startup (.quiet .empty)).run
            (application.app.arguments.entered
              (application.app.afterRun application.app.state
                (.quiet .empty))) =
          (.ok ⟨⟩, served) ∧
        specs.map ReadinessCheckSpec.name = ["queue", "store"] ∧
          served.ReportsOn jobsRequest.config specs := by
  have planned (app : App) :
      ∀ environment ∈ [LifespanEnvironment.quiet .empty],
        app.Planned environment := by
    intro environment member runtime made
    cases List.mem_singleton.mp member
    have empty : runtime = .empty := by
      simp only [assembleRuntime] at made
      split at made <;> exact (Except.ok.inj made).symm
    rw [empty]
    nofun
  have created : ∃ application served,
      jobsRequest.create .accepting family .accepting = .ok application ∧
        (application.app.arguments.startup (.quiet .empty)).run
            (application.app.arguments.entered
              (application.app.afterRun application.app.state
                (.quiet .empty))) =
          (.ok ⟨⟩, served) ∧
        served.readinessRegistry.specList.map ReadinessCheckSpec.name =
            ["queue", "store"] ∧
          application.app.arguments.resources.PlainHealthchecks := by
    refine ⟨_, _, rfl, rfl, rfl, ?_⟩
    intro resource member healthcheck check
    cases List.mem_singleton.mp member
    cases check
    exact Eq.refl _
  rcases created with
    ⟨application, served, created, starts, names, plain⟩
  have reports :=
    (ApplicationRequest.reportsOn_over_runs created plain [.quiet .empty]
      (planned application.app)).2 (.quiet .empty) served starts
  exact
    ⟨application, served, _, created, starts, reports.checks ▸ names,
      reports⟩

end FastapiCore
