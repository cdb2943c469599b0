import FastapiCore.Library.FallibleLoop
import FastapiCore.ResourceOwnership

/-!
# Checks which somebody else has registered

Before a start the readiness registry may already hold checks of others.  A
start which fails rolls back, and the rollback looks at the check under the
name of every live instance.  The only live instance which has not registered
that check itself is the one whose registration failed, so the foreign check
under its name is at risk when it looks like the check of that instance.

`RollsBackCleanly` is the exact condition on the registry before the start,
the resources and the outcomes of their steps.
-/

namespace FastapiCore

open Library
open Library.Effect

namespace ResourceRegistry

variable (registry : ResourceRegistry)
variable (environment : LifespanEnvironment)

/-- The state after a start, and after the close if the start succeeded. -/
def startAndClose (state : AppState) : AppState :=
  match (registry.start environment).run state with
  | (.ok _, started) => ((registry.close environment).run started).2
  | (.error _, failed) => failed

/-- The start fails because the name of a check is already taken. -/
def RefusedStart (foreign : ReadinessRegistry) : Prop :=
  ∃ done resource rest,
    registry.resources = done ++ resource :: rest ∧
      (∀ earlier ∈ done, Starts environment foreign earlier) ∧
      (∃ value,
        environment.factory resource.name.resolve = .ok value) ∧
      Refuses environment foreign resource

/--
The specs which stood in the registry before the start are still there, in
the same order, and a refused start leaves the registry as it found it.
-/
def KeepsForeignChecks (state : AppState) : Prop :=
  let foreign := state.readinessRegistry
  let left :=
    (registry.startAndClose environment state.atRest).readinessRegistry
  foreign.specList.Sublist left.specList ∧
    (registry.RefusedStart environment foreign → left = foreign)

/--
Where a registration fails after the resources of `done` have started, the
check under that name is not one which the value would be recognised by, and
if it fails for the name, every check of `done` is one which is recognised.
-/
def RollsBackCleanly (foreign : ReadinessRegistry) : Prop :=
  ∀ done resource rest value exception,
    registry.resources = done ++ resource :: rest →
    (∀ earlier ∈ done, Starts environment foreign earlier) →
    FailsToRegister environment foreign resource value exception →
    (∀ spec, foreign.specs.get? resource.name.resolve = some spec →
      resource.ownsCheck value spec.check = false) ∧
    (Refuses environment foreign resource →
      ∀ earlier ∈ done, ∀ healthcheck,
        earlier.healthcheck = some healthcheck →
        healthcheck.isFunctoolsPartial = false)

end ResourceRegistry

/-! ## Which entries a rollback releases -/

section Release

variable {registry : ResourceRegistry} {environment : LifespanEnvironment}
variable {initial stage : AppState}
variable {live checked : List ManagedResource}

/-- A live instance belongs to a live resource, with the factory's value. -/
theorem Started.live_of_get?
    (started : Started environment initial live checked stage)
    (declared : ∀ resource ∈ live, resource ∈ registry.resources)
    {resource : ManagedResource}
    (member : resource ∈ registry.resources) {value : PyObject}
    (found :
      stage.instances.get? resource.name.resolve = some value) :
    resource ∈ live ∧
      environment.factory resource.name.resolve = .ok value := by
  have stored := OrderedDict.get?_eq_some_iff.mp found
  rw [started.instances, List.mem_filterMap] at stored
  rcases stored with ⟨other, otherMember, otherEntry⟩
  rw [instanceEntry] at otherEntry
  split at otherEntry
  · next created =>
      rcases Prod.mk.inj (Option.some.inj otherEntry) with
        ⟨sameName, rfl⟩
      cases
        registry.eq_of_resolve_eq (declared other otherMember) member
          sameName
      exact ⟨otherMember, created⟩
  · cases otherEntry

/-- A foreign entry is released only with a resource which has not started. -/
theorem Started.not_starts_of_releases
    (started : Started environment initial live checked stage)
    (declared : ∀ resource ∈ live, resource ∈ registry.resources)
    {entry : Name × ReadinessCheckSpec}
    (foreign : entry ∈ initial.readinessRegistry.specs.entries)
    (released : stage.releases registry.resources entry = true) :
    ∃ resource ∈ live, ∃ value,
      ¬Starts environment initial.readinessRegistry resource ∧
        environment.factory resource.name.resolve = .ok value ∧
        resource.name.resolve = entry.1 ∧
        resource.ownsCheck value entry.2.check = true := by
  rcases AppState.releases_iff.mp released with
    ⟨resource, member, value, found, name, owned⟩
  rcases started.live_of_get? declared member found with
    ⟨isLive, created⟩
  refine ⟨resource, isLive, value, ?_, created, name, owned⟩
  intro starts
  rcases ManagedResource.ownsCheck_iff.mp owned with
    ⟨func, argument, keywords, -, check, -⟩
  apply starts.free (by simp [check])
  rw [name]
  exact OrderedDict.mem_keys_of_mem_entries foreign

/-- The entries after a close which releases no foreign entry. -/
theorem Started.entries_closeAll
    (started : Started environment initial live checked stage)
    (kept :
      ∀ entry ∈ initial.readinessRegistry.specs.entries,
        stage.releases registry.resources entry = false) :
    (stage.closeAll environment
        registry.resources).readinessRegistry.specs.entries =
      initial.readinessRegistry.specs.entries ++
        ((checked.filterMap (startedSpec environment)).map
          ReadinessCheckSpec.entry).filter fun entry =>
            !stage.releases registry.resources entry := by
  rw [(registry.closedAll environment stage).entries, started.checks,
    List.filter_append, List.filter_eq_self.mpr]
  intro entry foreign
  rw [kept entry foreign]
  rfl

/-- The foreign specs survive exactly when none is released. -/
theorem Started.sublist_closeAll_iff
    (started : Started environment initial live checked stage) :
    initial.readinessRegistry.specList.Sublist
        (stage.closeAll environment
          registry.resources).readinessRegistry.specList ↔
      ∀ entry ∈ initial.readinessRegistry.specs.entries,
        stage.releases registry.resources entry = false := by
  constructor
  · rintro survives ⟨name, spec⟩ foreign
    have named : spec.name = name :=
      (initial.readinessRegistry.registered _ foreign).named
    subst named
    have remaining :=
      survives.subset (ReadinessRegistry.mem_specList.mpr foreign)
    rw [ReadinessRegistry.mem_specList,
      (registry.closedAll environment stage).entries,
      List.mem_filter] at remaining
    simpa using remaining.2
  · intro kept
    rw [ReadinessRegistry.specList, ReadinessRegistry.specList,
      OrderedDict.values, OrderedDict.values,
      started.entries_closeAll kept]
    exact (List.sublist_append_left _ _).map _

/-- What started completely releases no foreign entry. -/
theorem Started.releases_eq_false
    (started : Started environment initial live checked stage)
    (declared : ∀ resource ∈ live, resource ∈ registry.resources)
    (starts :
      ∀ resource ∈ live,
        Starts environment initial.readinessRegistry resource) :
    ∀ entry ∈ initial.readinessRegistry.specs.entries,
      stage.releases registry.resources entry = false := by
  intro entry foreign
  rw [← Bool.not_eq_true]
  intro released
  rcases started.not_starts_of_releases declared foreign released with
    ⟨resource, isLive, -, notStarts, -⟩
  exact notStarts (starts resource isLive)

end Release

/-! ## A failing registration -/

section FailingRegistration

variable {registry : ResourceRegistry} {environment : LifespanEnvironment}
variable {initial stage : AppState} {done rest : List ManagedResource}
variable {resource : ManagedResource} {value : PyObject}

/-- The only foreign entry at risk is the one under the failing name. -/
theorem Started.releases_foreign_iff
    (started :
      Started environment initial (done ++ [resource]) done stage)
    (split : registry.resources = done ++ resource :: rest)
    (starts :
      ∀ earlier ∈ done,
        Starts environment initial.readinessRegistry earlier)
    (created :
      environment.factory resource.name.resolve = .ok value)
    {entry : Name × ReadinessCheckSpec}
    (foreign : entry ∈ initial.readinessRegistry.specs.entries) :
    stage.releases registry.resources entry = true ↔
      resource.name.resolve = entry.1 ∧
        resource.ownsCheck value entry.2.check = true := by
  have declared :
      ∀ other ∈ done ++ [resource], other ∈ registry.resources := by
    intro other member
    rw [split]
    rcases List.mem_append.mp member with older | new
    · exact List.mem_append_left _ older
    · cases List.mem_singleton.mp new
      simp
  constructor
  · intro released
    rcases started.not_starts_of_releases declared foreign released with
      ⟨other, isLive, found, notStarts, otherCreated, name, owned⟩
    rcases List.mem_append.mp isLive with older | new
    · exact (notStarts (starts other older)).elim
    · cases List.mem_singleton.mp new
      rw [created] at otherCreated
      cases otherCreated
      exact ⟨name, owned⟩
  · rintro ⟨name, owned⟩
    have stored :
        (resource.name.resolve, value) ∈ stage.instances.entries := by
      rw [started.instances, List.mem_filterMap]
      exact ⟨resource, by simp, by simp [instanceEntry, created]⟩
    exact
      AppState.releases_iff.mpr
        ⟨resource, declared resource (by simp), value,
          OrderedDict.get?_eq_some_iff.mpr stored, name, owned⟩

/-- A rollback restores the registry if it releases every check it added. -/
theorem Started.closeAll_eq_iff_releases
    (started :
      Started environment initial (done ++ [resource]) done stage)
    (kept :
      ∀ entry ∈ initial.readinessRegistry.specs.entries,
        stage.releases registry.resources entry = false) :
    (stage.closeAll environment
          registry.resources).readinessRegistry =
        initial.readinessRegistry ↔
      ∀ spec ∈ done.filterMap (startedSpec environment),
        stage.releases registry.resources spec.entry = true := by
  have entries := started.entries_closeAll kept
  constructor
  · intro restored spec member
    rw [restored, List.self_eq_append_right] at entries
    have all := List.filter_eq_nil_iff.mp entries spec.entry
      (List.mem_map_of_mem member)
    simpa using all
  · intro all
    ext : 1
    · exact
        (registry.closedAll environment stage).timeout.trans
          started.timeout
    · ext : 1
      rw [entries, List.filter_eq_nil_iff.mpr, List.append_nil]
      intro entry member
      rcases List.mem_map.mp member with ⟨spec, specMember, rfl⟩
      simp [all spec specMember]

/-- A check of the start is released unless it became a partial. -/
theorem Started.exists_startedSpec
    (started :
      Started environment initial (done ++ [resource]) done stage)
    (split : registry.resources = done ++ resource :: rest)
    {earlier : ManagedResource} (member : earlier ∈ done)
    (starts : Starts environment initial.readinessRegistry earlier)
    {healthcheck : Callable}
    (check : earlier.healthcheck = some healthcheck) :
    ∃ spec, startedSpec environment earlier = some spec ∧
      (stage.releases registry.resources spec.entry = true ↔
        healthcheck.isFunctoolsPartial = false) := by
  rcases starts.created with ⟨found, created⟩
  have spec :
      startedSpec environment earlier =
        some (earlier.readinessCheckSpec healthcheck found) := by
    simp [startedSpec, created, check]
  refine ⟨_, spec, ?_⟩
  apply registry.releases_startedSpec_iff started _ _ check spec
  · exact List.mem_append_left _ member
  · rw [split]
    exact List.mem_append_left _ member

/-- A rollback restores the registry if it recognises its own checks. -/
theorem Started.closeAll_eq_iff
    (started :
      Started environment initial (done ++ [resource]) done stage)
    (split : registry.resources = done ++ resource :: rest)
    (starts :
      ∀ earlier ∈ done,
        Starts environment initial.readinessRegistry earlier)
    (kept :
      ∀ entry ∈ initial.readinessRegistry.specs.entries,
        stage.releases registry.resources entry = false) :
    (stage.closeAll environment
          registry.resources).readinessRegistry =
        initial.readinessRegistry ↔
      ∀ earlier ∈ done, ∀ healthcheck,
        earlier.healthcheck = some healthcheck →
          healthcheck.isFunctoolsPartial = false := by
  rw [started.closeAll_eq_iff_releases kept]
  constructor
  · intro all earlier member healthcheck check
    rcases
      started.exists_startedSpec split member (starts earlier member) check
    with ⟨spec, added, released⟩
    exact
      released.mp
        (all spec (List.mem_filterMap.mpr ⟨earlier, member, added⟩))
  · intro plain spec added
    rcases List.mem_filterMap.mp added with ⟨earlier, member, found⟩
    cases check : earlier.healthcheck with
    | none => simp [startedSpec, check] at found
    | some healthcheck =>
        rcases
          started.exists_startedSpec split member (starts earlier member)
            check
        with ⟨other, otherFound, released⟩
        rw [found] at otherFound
        cases otherFound
        exact released.mpr (plain earlier member healthcheck check)

end FailingRegistration

/-! ## The condition -/

section Stops

variable {environment : LifespanEnvironment}
variable {foreign : ReadinessRegistry} {resource : ManagedResource}

theorem Refuses.not_starts
    (refuses : Refuses environment foreign resource) :
    ¬Starts environment foreign resource :=
  fun starts => starts.free refuses.healthcheck refuses.taken

theorem FailsToRegister.not_starts {value : PyObject}
    {exception : PyExc}
    (fails :
      FailsToRegister environment foreign resource value exception) :
    ¬Starts environment foreign resource := by
  intro starts
  rcases fails.cause with interrupted | ⟨refuses, -⟩
  · rw [starts.uninterrupted fails.healthcheck] at interrupted
    cases interrupted
  · exact refuses.not_starts starts

/-- The loop in `start` stops at `resource`, after the resources of `done`. -/
structure StopsAt (registry : ResourceRegistry)
    (environment : LifespanEnvironment) (foreign : ReadinessRegistry)
    (done : List ManagedResource) (resource : ManagedResource) : Prop where
  split : ∃ rest, registry.resources = done ++ resource :: rest
  starts : ∀ earlier ∈ done, Starts environment foreign earlier
  stops : ¬Starts environment foreign resource

theorem StopsAt.unique {registry : ResourceRegistry}
    {done other : List ManagedResource} {last : ManagedResource}
    (stop : StopsAt registry environment foreign done resource)
    (also : StopsAt registry environment foreign other last) :
    done = other ∧ resource = last := by
  rcases stop.split with ⟨rest, split⟩
  rcases also.split with ⟨others, otherSplit⟩
  rcases
    first_stop_unique (split.symm.trans otherSplit) stop.starts
      also.starts stop.stops also.stops
  with ⟨sameDone, sameLast, -⟩
  exact ⟨sameDone, sameLast⟩

theorem StopsAt.mem {registry : ResourceRegistry}
    {done : List ManagedResource}
    (stop : StopsAt registry environment foreign done resource) :
    resource ∈ registry.resources := by
  rcases stop.split with ⟨rest, split⟩
  simp [split]

end Stops

namespace ResourceRegistry

variable (registry : ResourceRegistry)
variable (environment : LifespanEnvironment) (state : AppState)

theorem startAndClose_of_ok {started : AppState}
    (ran : (registry.start environment).run state = (.ok ⟨⟩, started)) :
    registry.startAndClose environment state =
      started.closeAll environment registry.resources := by
  rw [startAndClose, ran]
  dsimp only
  rw [run_close]

theorem startAndClose_of_error {failed : AppState} {exception : PyExc}
    (ran :
      (registry.start environment).run state = (.error exception, failed)) :
    registry.startAndClose environment state = failed := by
  rw [startAndClose, ran]

theorem RefusedStart.exists_stopsAt {registry : ResourceRegistry}
    {environment : LifespanEnvironment} {foreign : ReadinessRegistry}
    (refused : registry.RefusedStart environment foreign) :
    ∃ done resource, StopsAt registry environment foreign done resource ∧
      (∃ value, environment.factory resource.name.resolve = .ok value) ∧
      Refuses environment foreign resource := by
  rcases refused with
    ⟨done, resource, rest, split, starts, created, refuses⟩
  exact
    ⟨done, resource, ⟨⟨rest, split⟩, starts, refuses.not_starts⟩,
      created, refuses⟩

section Cases

variable {registry environment state}
variable {stage : AppState} {done rest : List ManagedResource}
variable {resource : ManagedResource} {value : PyObject}
variable {exception : PyExc}

/-- If every resource starts, there is nothing to roll back. -/
theorem keepsForeignChecks_of_started
    (ran :
      (registry.start environment).run state.atRest = (.ok ⟨⟩, stage))
    (starts :
      ∀ resource ∈ registry.resources,
        Starts environment state.readinessRegistry resource)
    (started :
      Started environment state.atRest registry.resources
        registry.resources stage) :
    registry.KeepsForeignChecks environment state := by
  rw [KeepsForeignChecks, startAndClose_of_ok _ _ _ ran]
  constructor
  · exact
      started.sublist_closeAll_iff.mpr
        (started.releases_eq_false (fun _ member => member) starts)
  · intro refused
    rcases refused.exists_stopsAt with ⟨done, resource, stop, -⟩
    exact (stop.stops (starts resource stop.mem)).elim

theorem rollsBackCleanly_of_starts {foreign : ReadinessRegistry}
    (starts :
      ∀ resource ∈ registry.resources,
        Starts environment foreign resource) :
    registry.RollsBackCleanly environment foreign := by
  intro done resource rest value exception split _ fails
  have member : resource ∈ registry.resources := by
    simp [split]
  exact (fails.not_starts (starts resource member)).elim

/-- Where a factory raises, all live instances have registered a check. -/
theorem keepsForeignChecks_of_failedFactory
    (ran :
      (registry.start environment).run state.atRest =
        (.error exception, stage.closeAll environment registry.resources))
    (stop :
      StopsAt registry environment state.readinessRegistry done resource)
    {cause : PyExc}
    (failed : environment.factory resource.name.resolve = .error cause)
    (started : Started environment state.atRest done done stage) :
    registry.KeepsForeignChecks environment state := by
  rw [KeepsForeignChecks, startAndClose_of_error _ _ _ ran]
  constructor
  · refine
      started.sublist_closeAll_iff.mpr
        (started.releases_eq_false ?_ stop.starts)
    intro earlier member
    rcases stop.split with ⟨rest, split⟩
    rw [split]
    exact List.mem_append_left _ member
  · intro refused
    rcases refused.exists_stopsAt with
      ⟨other, last, also, ⟨value, created⟩, -⟩
    rcases stop.unique also with ⟨rfl, rfl⟩
    rw [failed] at created
    cases created

theorem rollsBackCleanly_of_failedFactory {foreign : ReadinessRegistry}
    (stop : StopsAt registry environment foreign done resource)
    {cause : PyExc}
    (failed : environment.factory resource.name.resolve = .error cause) :
    registry.RollsBackCleanly environment foreign := by
  intro other last others value raised split starts fails
  rcases stop.unique ⟨⟨others, split⟩, starts, fails.not_starts⟩ with
    ⟨rfl, rfl⟩
  have created := fails.created
  rw [failed] at created
  cases created

/-- No foreign entry is released exactly if the failing name is not its. -/
theorem forall_releases_eq_false_iff
    (started :
      Started environment state.atRest (done ++ [resource]) done stage)
    (split : registry.resources = done ++ resource :: rest)
    (starts :
      ∀ earlier ∈ done,
        Starts environment state.readinessRegistry earlier)
    (created : environment.factory resource.name.resolve = .ok value) :
    (∀ entry ∈ state.readinessRegistry.specs.entries,
        stage.releases registry.resources entry = false) ↔
      ∀ spec,
        state.readinessRegistry.specs.get? resource.name.resolve =
          some spec →
        resource.ownsCheck value spec.check = false := by
  constructor
  · intro kept spec stored
    have foreign := OrderedDict.get?_eq_some_iff.mp stored
    rw [← Bool.not_eq_true]
    intro owned
    have released :=
      (started.releases_foreign_iff split starts created foreign).mpr
        ⟨rfl, owned⟩
    rw [kept _ foreign] at released
    cases released
  · rintro unrecognised ⟨name, spec⟩ foreign
    rw [← Bool.not_eq_true,
      started.releases_foreign_iff split starts created foreign]
    rintro ⟨rfl, owned⟩
    rw [unrecognised spec
      (OrderedDict.get?_eq_some_iff.mpr foreign)] at owned
    cases owned

/-- Where a registration fails, the rollback decides. -/
theorem keepsForeignChecks_iff_of_failedRegistration
    (ran :
      (registry.start environment).run state.atRest =
        (.error exception, stage.closeAll environment registry.resources))
    (split : registry.resources = done ++ resource :: rest)
    (starts :
      ∀ earlier ∈ done,
        Starts environment state.readinessRegistry earlier)
    {cause : PyExc}
    (fails :
      FailsToRegister environment state.readinessRegistry resource value
        cause)
    (started :
      Started environment state.atRest (done ++ [resource]) done stage) :
    registry.KeepsForeignChecks environment state ↔
      registry.RollsBackCleanly environment state.readinessRegistry := by
  have stop :
      StopsAt registry environment state.readinessRegistry done resource :=
    ⟨⟨rest, split⟩, starts, fails.not_starts⟩
  have survives := started.sublist_closeAll_iff.trans
    (forall_releases_eq_false_iff started split starts fails.created)
  have kept := forall_releases_eq_false_iff started split starts
    fails.created
  rw [KeepsForeignChecks, startAndClose_of_error _ _ _ ran]
  constructor
  · rintro ⟨sublist, restores⟩ other last others found raised otherSplit
      otherStart otherFails
    rcases
      stop.unique ⟨⟨others, otherSplit⟩, otherStart, otherFails.not_starts⟩
    with ⟨rfl, rfl⟩
    have sameValue := otherFails.created
    rw [fails.created, Except.ok.injEq] at sameValue
    subst sameValue
    have unrecognised := survives.mp sublist
    refine ⟨unrecognised, fun refuses => ?_⟩
    exact
      (started.closeAll_eq_iff split starts (kept.mpr unrecognised)).mp
        (restores
          ⟨done, resource, rest, split, starts, ⟨value, fails.created⟩,
            refuses⟩)
  · intro clean
    rcases clean done resource rest value _ split starts fails with
      ⟨unrecognised, plain⟩
    refine ⟨survives.mpr unrecognised, fun refused => ?_⟩
    rcases refused.exists_stopsAt with ⟨other, last, also, -, refuses⟩
    rcases stop.unique also with ⟨rfl, rfl⟩
    exact
      (started.closeAll_eq_iff split starts (kept.mpr unrecognised)).mpr
        (plain refuses)

end Cases

/--
The foreign checks survive a start, its rollback and its close exactly when
the rollback is clean.
-/
theorem keepsForeignChecks_iff :
    registry.KeepsForeignChecks environment state ↔
      registry.RollsBackCleanly environment state.readinessRegistry := by
  have atRest : state.atRest.instances = .empty := rfl
  rcases registry.run_start environment atRest with
    ⟨stage, ran, starts, started⟩ |
    ⟨done, resource, rest, exception, stage, split, starts, fails, ran⟩
  · exact
      iff_of_true (keepsForeignChecks_of_started ran starts started)
        (rollsBackCleanly_of_starts starts)
  · have stop :
        StopsAt registry environment state.readinessRegistry done
          resource :=
      ⟨⟨rest, split⟩, starts, fails.not_starts⟩
    rcases fails with ⟨failed, started⟩ | ⟨value, unregistered, started⟩
    · exact
        iff_of_true
          (keepsForeignChecks_of_failedFactory ran stop failed started)
          (rollsBackCleanly_of_failedFactory stop failed)
    · exact
        keepsForeignChecks_iff_of_failedRegistration ran split starts
          unregistered started

/-- A database whose health check is a plain function. -/
def checkedDatabase : ResourceRegistry where
  bindings :=
    [{ key := .database
       factory := .function 1
       healthcheck := some (.function 2) }]
  valid := by decide
  nodup := by decide

/-- Somebody else checks the object which the factory returns. -/
def sharedObjectCheck : AppState where
  readinessRegistry :=
    .ofSpecs none
      [{ name := "database"
         check :=
           .functoolsPartial 2 [{ ref := 0 }] [("verbose", { ref := 7 })]
         required := false }]
      (by decide) (by decide)

/-- The rollback of a refused start deletes a check of somebody else. -/
theorem not_forall_keepsForeignChecks :
    ¬∀ (registry : ResourceRegistry) (environment : LifespanEnvironment)
        (state : AppState),
      registry.KeepsForeignChecks environment state := by
  intro keeps
  let environment :=
    LifespanEnvironment.quiet
      { selectedServices := [], checks := .empty }
  have survives := (keeps checkedDatabase environment sharedObjectCheck).1
  have lost :
      (checkedDatabase.startAndClose environment
        sharedObjectCheck.atRest).readinessRegistry.specList = [] := rfl
  rw [lost] at survives
  have stored :
      sharedObjectCheck.readinessRegistry.specList.length = 1 := rfl
  rw [List.sublist_nil.mp survives] at stored
  cases stored

end ResourceRegistry

end FastapiCore
