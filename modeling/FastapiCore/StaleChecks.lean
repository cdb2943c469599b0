import FastapiCore.Library.Transition
import FastapiCore.ResourceOwnership

/-!
# Stale readiness checks

A check is stale when the resource registry which registered it has closed
the instance it is bound to, and the check still stands in the readiness
registry.  `close` recognises the check it has registered unless the health
check of the resource is itself a `functools.partial`: the `partial` which
`start` makes of it is flattened, and its function is no longer the health
check of the resource.

The invariant of all runs is that every name under which this registry has
registered a check is free, or holds a check which `close` would release.
-/

namespace FastapiCore

open Library
open Library.Effect

/-! ## Runs of a resource registry -/

/-- A call on a resource registry. -/
inductive ResourceAction where
  | start (environment : LifespanEnvironment)
  | close (environment : LifespanEnvironment)

/-- The effect of a call; a start finds no live instance. -/
inductive ResourceStep (registry : ResourceRegistry) :
    AppState → ResourceAction → AppState → Prop where
  | start {state : AppState} (environment : LifespanEnvironment)
      (atRest : state.instances = .empty) :
      ResourceStep registry state (.start environment)
        ((registry.start environment).run state).2
  | close {state : AppState} (environment : LifespanEnvironment) :
      ResourceStep registry state (.close environment)
        ((registry.close environment).run state).2

/-- No spec which the trace has registered is still in the registry. -/
def NoStaleCheck (state : AppState) : Prop :=
  ∀ spec ∈ registrations state.events,
    spec ∉ state.readinessRegistry.specList

namespace ResourceRegistry

variable (registry : ResourceRegistry)

/-- The calls on a registry, from a state without live instances. -/
def Reaches (initial state : AppState) : Prop :=
  ∃ actions, Run (ResourceStep registry) initial.atRest actions state

/-- No check is stale after a close, or after a start which failed. -/
def LeavesNoStaleCheck : Prop :=
  ∀ initial state, registry.Reaches initial state →
    (∀ environment,
      NoStaleCheck ((registry.close environment).run state).2) ∧
    ∀ environment exception,
      state.instances = .empty →
      ((registry.start environment).run state).1 = .error exception →
      NoStaleCheck ((registry.start environment).run state).2

/-- The exception is one which a factory or an interrupt has raised. -/
def RaisedFrom (environment : LifespanEnvironment)
    (exception : PyExc) : Prop :=
  ∃ resource ∈ registry.resources, ∃ cause,
    (environment.factory resource.name.resolve = .error cause ∨
      environment.registrationInterrupt resource.name.resolve =
        some cause) ∧
    exception.cls = cause.cls ∧ exception.message = cause.message

/-- If the names are free at first, no start is refused for a name. -/
def NeverRefused : Prop :=
  ∀ initial state,
    (∀ name ∈ registry.names, name ∉ initial.readinessRegistry.names) →
    registry.Reaches initial state → state.instances = .empty →
    ∀ environment exception,
      ((registry.start environment).run state).1 = .error exception →
      registry.RaisedFrom environment exception

/-- No health check of a resource is itself a `functools.partial`. -/
def PlainHealthchecks : Prop :=
  ∀ resource ∈ registry.resources, ∀ healthcheck,
    resource.healthcheck = some healthcheck →
      healthcheck.isFunctoolsPartial = false

/-- Whatever stands under a name is released by `close`. -/
def Releasable (state : AppState) (name : Name) : Prop :=
  ∀ spec, (name, spec) ∈ state.readinessRegistry.specs.entries →
    state.releases registry.resources (name, spec) = true

/-- The names of the registered specs are releasable. -/
def OwnsRegistered (state : AppState) : Prop :=
  ∀ spec ∈ registrations state.events,
    registry.Releasable state spec.name

end ResourceRegistry

/-! ## One call keeps the invariant -/

section Steps

variable {registry : ResourceRegistry} {environment : LifespanEnvironment}
variable {initial state : AppState} {name : Name}

/-- Without live instances a releasable name is free. -/
theorem not_mem_names_of_atRest
    (releasable : registry.Releasable state name)
    (atRest : state.instances = .empty) :
    name ∉ state.readinessRegistry.names := by
  intro member
  rcases OrderedDict.exists_mem_entries_of_mem_keys member with
    ⟨spec, stored⟩
  rcases AppState.releases_iff.mp (releasable spec stored) with
    ⟨resource, -, value, live, -⟩
  rw [atRest, OrderedDict.get?_empty] at live
  cases live

theorem releasable_of_not_mem_names
    (free : name ∉ state.readinessRegistry.names) :
    registry.Releasable state name :=
  fun _ stored =>
    (free (OrderedDict.mem_keys_of_mem_entries stored)).elim

/-- `close` frees every releasable name. -/
theorem not_mem_names_closeAll
    (releasable : registry.Releasable state name) :
    name ∉
      (state.closeAll environment
        registry.resources).readinessRegistry.names := by
  intro member
  rcases OrderedDict.exists_mem_entries_of_mem_keys member with
    ⟨spec, stored⟩
  rw [(registry.closedAll environment state).entries,
    List.mem_filter] at stored
  rw [releasable spec stored.1] at stored
  cases stored.2

theorem ownsRegistered_closeAll
    (owns : registry.OwnsRegistered state) :
    registry.OwnsRegistered
      (state.closeAll environment registry.resources) := by
  intro spec registered
  rw [(registry.closedAll environment state).registered] at registered
  exact
    releasable_of_not_mem_names
      (not_mem_names_closeAll (owns spec registered))

theorem noStaleCheck_closeAll
    (owns : registry.OwnsRegistered state) :
    NoStaleCheck (state.closeAll environment registry.resources) := by
  intro spec registered stored
  rw [(registry.closedAll environment state).registered] at registered
  have free :
      spec.name ∉
        (state.closeAll environment
          registry.resources).readinessRegistry.names :=
    not_mem_names_closeAll (owns spec registered)
  apply free
  rw [ReadinessRegistry.names_eq_map]
  exact List.mem_map_of_mem (f := ReadinessCheckSpec.name) stored

variable {live checked : List ManagedResource}

/-- Between two resources of a start the invariant holds. -/
theorem releasable_started (plain : registry.PlainHealthchecks)
    (started : Started environment initial live checked state)
    (checkedLive : ∀ resource ∈ checked, resource ∈ live)
    (declared : ∀ resource ∈ checked, resource ∈ registry.resources)
    (free : name ∉ initial.readinessRegistry.names) :
    registry.Releasable state name := by
  intro spec stored
  rw [started.checks, List.mem_append] at stored
  rcases stored with older | new
  · exact (free (OrderedDict.mem_keys_of_mem_entries older)).elim
  · rcases List.mem_map.mp new with ⟨_, specMember, entry⟩
    cases entry
    rcases List.mem_filterMap.mp specMember with
      ⟨resource, member, own⟩
    cases check : resource.healthcheck with
    | none => simp [startedSpec, check] at own
    | some healthcheck =>
        exact
          (registry.releases_startedSpec_iff started
            (checkedLive resource member) (declared resource member) check
            own).mpr
            (plain resource (declared resource member) healthcheck check)

theorem ownsRegistered_started (plain : registry.PlainHealthchecks)
    (started : Started environment initial live checked state)
    (checkedLive : ∀ resource ∈ checked, resource ∈ live)
    (declared : ∀ resource ∈ checked, resource ∈ registry.resources)
    (starts :
      ∀ resource ∈ checked,
        Starts environment initial.readinessRegistry resource)
    (atRest : initial.instances = .empty)
    (owns : registry.OwnsRegistered initial) :
    registry.OwnsRegistered state := by
  intro spec registered
  apply releasable_started plain started checkedLive declared
  rw [started.registered, List.mem_append] at registered
  rcases registered with older | new
  · exact not_mem_names_of_atRest (owns spec older) atRest
  · rcases List.mem_filterMap.mp new with ⟨resource, member, own⟩
    rw [name_of_startedSpec own]
    apply (starts resource member).free
    rw [startedSpec] at own
    split at own
    · next check => simp [check]
    · cases own

/-- Where the loop in `start` stops, `done` has started. -/
theorem StartFails.started {done : List ManagedResource}
    {resource : ManagedResource} {exception : PyExc}
    (fails :
      StartFails environment initial done resource exception state) :
    ∃ live,
      (∀ earlier ∈ done, earlier ∈ live) ∧
        Started environment initial live done state := by
  rcases fails with ⟨-, started⟩ | ⟨value, -, started⟩
  · exact ⟨done, fun _ member => member, started⟩
  · exact
      ⟨done ++ [resource], fun _ => List.mem_append_left _, started⟩

/--
Every start passes through a state where `checked` has registered, and ends
there or after closing that state.
-/
theorem start_stages (registry : ResourceRegistry)
    (environment : LifespanEnvironment)
    (atRest : state.instances = .empty) :
    ∃ live checked stage,
      Started environment state live checked stage ∧
        (∀ resource ∈ checked, resource ∈ live) ∧
        (∀ resource ∈ checked, resource ∈ registry.resources) ∧
        (∀ resource ∈ checked,
          Starts environment state.readinessRegistry resource) ∧
        ((registry.start environment).run state = (.ok ⟨⟩, stage) ∨
          ((registry.start environment).run state).2 =
            stage.closeAll environment registry.resources) := by
  rcases registry.run_start environment atRest with
    ⟨stage, ran, starts, started⟩ |
    ⟨done, resource, rest, exception, stage, declared, starts, fails, ran⟩
  · exact
      ⟨_, _, stage, started, fun _ member => member,
        fun _ member => member, starts, Or.inl ran⟩
  · rcases fails.started with ⟨live, earlierLive, started⟩
    refine
      ⟨live, done, stage, started, earlierLive, ?_, starts,
        Or.inr (by rw [ran])⟩
    intro earlier member
    rw [declared]
    exact List.mem_append_left _ member

/-- A call keeps a name releasable. -/
theorem releasable_step (plain : registry.PlainHealthchecks)
    {action : ResourceAction} {next : AppState}
    (step : ResourceStep registry state action next)
    (releasable : registry.Releasable state name) :
    registry.Releasable next name := by
  cases step with
  | start environment atRest =>
      rcases start_stages registry environment atRest with
        ⟨live, checked, stage, started, checkedLive, declared, -, ran⟩
      have reached :=
        releasable_started plain started checkedLive declared
          (not_mem_names_of_atRest releasable atRest)
      rcases ran with ran | ran
      · rw [ran]
        exact reached
      · rw [ran]
        exact releasable_of_not_mem_names (not_mem_names_closeAll reached)
  | close environment =>
      rw [ResourceRegistry.run_close]
      exact releasable_of_not_mem_names (not_mem_names_closeAll releasable)

/-- A call keeps the registered names releasable. -/
theorem ownsRegistered_step (plain : registry.PlainHealthchecks)
    {action : ResourceAction} {next : AppState}
    (step : ResourceStep registry state action next)
    (owns : registry.OwnsRegistered state) :
    registry.OwnsRegistered next := by
  cases step with
  | start environment atRest =>
      rcases start_stages registry environment atRest with
        ⟨live, checked, stage, started, checkedLive, declared, starts,
          ran⟩
      have reached :=
        ownsRegistered_started plain started checkedLive declared starts
          atRest owns
      rcases ran with ran | ran
      · rw [ran]
        exact reached
      · rw [ran]
        exact ownsRegistered_closeAll reached
  | close environment =>
      rw [ResourceRegistry.run_close]
      exact ownsRegistered_closeAll owns

end Steps

/-! ## All runs -/

namespace ResourceRegistry

variable {registry : ResourceRegistry}

theorem ownsRegistered_of_reaches (plain : registry.PlainHealthchecks)
    {initial state : AppState}
    (reaches : registry.Reaches initial state) :
    registry.OwnsRegistered state := by
  rcases reaches with ⟨actions, run⟩
  apply run.invariant
  · nofun
  · exact fun _ _ _ step => ownsRegistered_step plain step

theorem releasable_of_reaches (plain : registry.PlainHealthchecks)
    {initial state : AppState}
    (reaches : registry.Reaches initial state) {name : Name}
    (free : name ∉ initial.readinessRegistry.names) :
    registry.Releasable state name := by
  rcases reaches with ⟨actions, run⟩
  apply run.invariant
  · exact releasable_of_not_mem_names free
  · exact fun _ _ _ step => releasable_step plain step

theorem leavesNoStaleCheck_of_plain (plain : registry.PlainHealthchecks) :
    registry.LeavesNoStaleCheck := by
  intro initial state reaches
  have owns := ownsRegistered_of_reaches plain reaches
  constructor
  · intro environment
    rw [run_close]
    exact noStaleCheck_closeAll owns
  · intro environment exception atRest failed
    rcases start_stages registry environment atRest with
      ⟨live, checked, stage, started, checkedLive, declared, starts, ran⟩
    rcases ran with ran | ran
    · rw [ran] at failed
      cases failed
    · rw [ran]
      exact
        noStaleCheck_closeAll
          (ownsRegistered_started plain started checkedLive declared starts
            atRest owns)

theorem neverRefused_of_plain (plain : registry.PlainHealthchecks) :
    registry.NeverRefused := by
  intro initial state free reaches atRest environment exception failed
  rcases registry.run_start environment atRest with
    ⟨stage, ran, -, -⟩ |
    ⟨done, resource, rest, cause, stage, declared, -, fails, ran⟩
  · rw [ran] at failed
    cases failed
  · rw [ran] at failed
    cases failed
    have member : resource ∈ registry.resources := by
      rw [declared]
      simp
    have unrefused :
        resource.name.resolve ∉ state.readinessRegistry.names := by
      have releasable :
          registry.Releasable state resource.name.resolve :=
        releasable_of_reaches plain reaches
          (free _ (List.mem_map_of_mem member))
      exact not_mem_names_of_atRest releasable atRest
    refine ⟨resource, member, cause, ?_, ?_⟩
    · rcases fails with ⟨created, -⟩ | ⟨value, refused, -⟩
      · exact Or.inl created
      · rcases refused.cause with interrupted | ⟨taken, -⟩
        · exact Or.inr interrupted
        · exact (unrefused taken.taken).elim
    · rw [reported]
      cases registry.failures environment stage with
      | nil => exact ⟨rfl, rfl⟩
      | cons failure failures => exact ⟨rfl, rfl⟩

/-- A check whose health check is a `partial` is left behind by the close. -/
theorem plain_of_leavesNoStaleCheck
    (clean : registry.LeavesNoStaleCheck) :
    registry.PlainHealthchecks := by
  intro resource declared healthcheck check
  let environment :=
    LifespanEnvironment.quiet
      { selectedServices := [], checks := .empty }
  let initial : AppState := { readinessRegistry := .new none }
  have starts :
      ∀ other ∈ registry.resources,
        Starts environment initial.readinessRegistry other :=
    fun other _ =>
      ⟨⟨{ ref := 0 }, rfl⟩, fun _ => rfl, fun _ => List.not_mem_nil⟩
  have atRest : initial.instances = .empty := rfl
  rcases registry.run_start environment atRest with
    ⟨stage, ran, -, started⟩ |
    ⟨done, stopped, rest, exception, stage, split, -, fails, -⟩
  · have reaches : registry.Reaches initial stage := by
      refine ⟨[.start environment], Run.snoc Run.nil ?_⟩
      have step :
          ResourceStep registry initial (.start environment)
            ((registry.start environment).run initial).2 :=
        ResourceStep.start environment atRest
      rw [ran] at step
      exact step
    have noStale := (clean initial stage reaches).1 environment
    rw [run_close] at noStale
    have own :
        startedSpec environment resource =
          some
            (resource.readinessCheckSpec healthcheck { ref := 0 }) := by
      simp [startedSpec, check, environment, LifespanEnvironment.quiet]
    have added :=
      List.mem_filterMap.mpr ⟨resource, declared, own⟩
    have registered := List.mem_append_right
      (registrations initial.events) added
    rw [← started.registered,
      ← (registry.closedAll environment stage).registered] at registered
    have entry := List.mem_append_right
      initial.readinessRegistry.specs.entries
      (List.mem_map_of_mem (f := ReadinessCheckSpec.entry) added)
    rw [← started.checks] at entry
    cases kind : healthcheck.isFunctoolsPartial with
    | false => rfl
    | true =>
        refine (noStale _ registered ?_).elim
        have kept :
            stage.releases registry.resources
              (resource.readinessCheckSpec healthcheck
                { ref := 0 }).entry = false := by
          rw [← Bool.not_eq_true,
            registry.releases_startedSpec_iff started declared declared
              check own, kind]
          exact Bool.false_ne_true.symm
        rw [ReadinessRegistry.mem_specList,
          (registry.closedAll environment stage).entries,
          List.mem_filter]
        exact ⟨entry, by rw [← ReadinessCheckSpec.entry, kept]; rfl⟩
  · have member : stopped ∈ registry.resources := by
      rw [split]
      simp
    exact (fails.not_starts (starts stopped member)).elim

/-- Nothing is left behind, and no later start is refused. -/
def CleansUp (registry : ResourceRegistry) : Prop :=
  registry.LeavesNoStaleCheck ∧ registry.NeverRefused

/--
A registry cleans up after itself in all its runs exactly when no health
check of its resources is itself a `functools.partial`.
-/
theorem cleansUp_iff (registry : ResourceRegistry) :
    registry.CleansUp ↔ registry.PlainHealthchecks := by
  constructor
  · exact fun clean => plain_of_leavesNoStaleCheck clean.1
  · exact fun plain =>
      ⟨leavesNoStaleCheck_of_plain plain, neverRefused_of_plain plain⟩

/-- One resource whose health check is a `partial` over one argument. -/
def boundHealthcheck : ResourceRegistry where
  bindings :=
    [{ key := .database
       factory := .function 1
       healthcheck := some (.functoolsPartial 2 [{ ref := 3 }] []) }]
  valid := by decide
  nodup := by decide

/-- The check of a `partial` health check is not recognised at its close. -/
theorem not_forall_cleansUp :
    ¬∀ registry : ResourceRegistry, registry.CleansUp := by
  intro clean
  have plain :=
    plain_of_leavesNoStaleCheck (clean boundHealthcheck).1
      _ List.mem_cons_self _ rfl
  cases plain


end ResourceRegistry

end FastapiCore
