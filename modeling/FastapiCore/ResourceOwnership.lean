import FastapiCore.LifespanBlocks

/-!
# The checks which a resource registry owns

`start` registers the check of each resource with a health check, and `close`
unregisters the checks which it recognises as its own.  Neither records who
registered a check: `close` looks at the check which stands under the name of
a live instance.

`Started` describes the state after the resources of a list have started, and
`triple_startLoop` describes how `start` can fail between two of them.
`entries_closeAll` says which entries of the readiness registry `close` keeps.
-/

namespace FastapiCore

open Library
open Library.Effect

/-! ## The states between two resources -/

/-- The specs which a trace has registered. -/
def registrations (events : List LifespanEvent) : List ReadinessCheckSpec :=
  events.filterMap fun event =>
    match event.step, event.raised with
    | .registerCheck spec, none => some spec
    | _, _ => none

section Starting

variable (environment : LifespanEnvironment)

/-- The live instance of a started resource. -/
def instanceEntry (resource : ManagedResource) : Option (Name × PyObject) :=
  match environment.factory resource.name.resolve with
  | .ok value => some (resource.name.resolve, value)
  | .error _ => none

/-- The spec registered for a started resource. -/
def startedSpec (resource : ManagedResource) : Option ReadinessCheckSpec :=
  match environment.factory resource.name.resolve, resource.healthcheck with
  | .ok value, some healthcheck =>
      some (resource.readinessCheckSpec healthcheck value)
  | _, _ => none

/-- The entry of a spec in a registry. -/
def ReadinessCheckSpec.entry (spec : ReadinessCheckSpec) :
    Name × ReadinessCheckSpec :=
  (spec.name, spec)

/--
From `initial`, the resources of `live` have an instance and those of
`checked` have registered their check.
-/
structure Started (initial : AppState)
    (live checked : List ManagedResource) (state : AppState) : Prop where
  instances :
    state.instances.entries = live.filterMap (instanceEntry environment)
  checks :
    state.readinessRegistry.specs.entries =
      initial.readinessRegistry.specs.entries ++
        (checked.filterMap (startedSpec environment)).map
          ReadinessCheckSpec.entry
  timeout :
    state.readinessRegistry.defaultTimeoutSeconds =
      initial.readinessRegistry.defaultTimeoutSeconds
  registered :
    registrations state.events =
      registrations initial.events ++
        checked.filterMap (startedSpec environment)

/-- The steps of a resource succeed over this content of the registry. -/
structure Starts (registry : ReadinessRegistry)
    (resource : ManagedResource) : Prop where
  created :
    ∃ value, environment.factory resource.name.resolve = .ok value
  uninterrupted :
    resource.healthcheck.isSome = true →
      environment.registrationInterrupt resource.name.resolve = none
  free :
    resource.healthcheck.isSome = true →
      resource.name.resolve ∉ registry.names

/-- The exception by which `register` refuses a name. -/
def alreadyRegistered (name : Name) : PyExc :=
  .valueError ("readiness check '" ++ name ++ "' is already registered")

/-- The registration is refused because its name is taken. -/
structure Refuses (registry : ReadinessRegistry)
    (resource : ManagedResource) : Prop where
  healthcheck : resource.healthcheck.isSome = true
  uninterrupted :
    environment.registrationInterrupt resource.name.resolve = none
  taken : resource.name.resolve ∈ registry.names

/-- The registration of a resource with this value raises. -/
structure FailsToRegister (registry : ReadinessRegistry)
    (resource : ManagedResource) (value : PyObject)
    (exception : PyExc) : Prop where
  created : environment.factory resource.name.resolve = .ok value
  healthcheck : resource.healthcheck.isSome = true
  cause :
    environment.registrationInterrupt resource.name.resolve =
        some exception ∨
      Refuses environment registry resource ∧
        exception = alreadyRegistered resource.name.resolve

/-- How the loop in `start` raises after the resources of `done`. -/
def StartFails (initial : AppState) (done : List ManagedResource)
    (resource : ManagedResource) (exception : PyExc)
    (state : AppState) : Prop :=
  environment.factory resource.name.resolve = .error exception ∧
      Started environment initial done done state ∨
    ∃ value,
      FailsToRegister environment initial.readinessRegistry resource value
          exception ∧
        Started environment initial (done ++ [resource]) done state

end Starting

variable {environment : LifespanEnvironment}

@[simp]
theorem registrations_append (events : List LifespanEvent)
    (event : LifespanEvent) :
    registrations (events ++ [event]) =
      registrations events ++ registrations [event] := by
  simp [registrations]

theorem name_of_startedSpec {resource : ManagedResource}
    {spec : ReadinessCheckSpec}
    (started : startedSpec environment resource = some spec) :
    spec.name = resource.name.resolve := by
  rw [startedSpec] at started
  split at started
  · cases started
    rfl
  · cases started

theorem map_entry_fst (specs : List ReadinessCheckSpec) :
    (specs.map ReadinessCheckSpec.entry).map Prod.fst =
      specs.map ReadinessCheckSpec.name := by
  rw [List.map_map]
  rfl

namespace Started

variable {initial state : AppState} {live checked : List ManagedResource}
variable {resource : ManagedResource}

/-- Only the checked resources have added names to the registry. -/
theorem mem_names_iff
    (started : Started environment initial live checked state)
    (fresh : resource.name.resolve ∉ resourceNames checked) :
    resource.name.resolve ∈ state.readinessRegistry.names ↔
      resource.name.resolve ∈ initial.readinessRegistry.names := by
  have added :
      resource.name.resolve ∉
        (checked.filterMap (startedSpec environment)).map
          ReadinessCheckSpec.name := by
    intro member
    rcases List.mem_map.mp member with ⟨spec, specMember, name⟩
    rcases List.mem_filterMap.mp specMember with
      ⟨other, otherMember, otherSpec⟩
    rw [name_of_startedSpec otherSpec] at name
    exact fresh (List.mem_map.mpr ⟨other, otherMember, name⟩)
  have names :
      state.readinessRegistry.names =
        initial.readinessRegistry.names ++
          (checked.filterMap (startedSpec environment)).map
            ReadinessCheckSpec.name := by
    rw [ReadinessRegistry.names, OrderedDict.keys, started.checks,
      List.map_append, map_entry_fst]
    rfl
  rw [names, List.mem_append]
  exact or_iff_left added

theorem not_mem_keys
    (started : Started environment initial live checked state)
    (fresh : resource.name.resolve ∉ resourceNames live) :
    resource.name.resolve ∉ state.instances.keys := by
  intro member
  rw [OrderedDict.keys, started.instances] at member
  rcases List.mem_map.mp member with ⟨entry, entryMember, name⟩
  rcases List.mem_filterMap.mp entryMember with
    ⟨other, otherMember, otherEntry⟩
  rw [instanceEntry] at otherEntry
  split at otherEntry
  · cases otherEntry
    exact fresh (List.mem_map.mpr ⟨other, otherMember, name⟩)
  · cases otherEntry

/-- A step which registers nothing. -/
theorem record (started : Started environment initial live checked state)
    {step : LifespanStep} {raised : Option PyExc}
    (silent : registrations [⟨step, raised⟩] = []) :
    Started environment initial live checked
      (state.record step raised) :=
  { started with
    registered := by
      simpa [AppState.record, silent] using started.registered }

/-- The value of a factory becomes a live instance. -/
theorem assign (started : Started environment initial live checked state)
    (fresh : resource.name.resolve ∉ resourceNames live)
    {value : PyObject}
    (created :
      environment.factory resource.name.resolve = .ok value) :
    Started environment initial (live ++ [resource]) checked
      (state.assignInstance resource.name.resolve value) :=
  { started with
    instances := by
      rw [AppState.assignInstance,
        OrderedDict.entries_insert_of_not_mem
          (started.not_mem_keys fresh),
        started.instances]
      simp [instanceEntry, created] }

/-- A resource without a check has nothing to register. -/
theorem check_none
    (started : Started environment initial live checked state)
    (none_ : startedSpec environment resource = none) :
    Started environment initial live (checked ++ [resource]) state :=
  { started with
    checks := by
      simpa [List.filterMap_append, none_] using started.checks
    registered := by
      simpa [List.filterMap_append, none_] using started.registered }

/-- The check of a resource is registered. -/
theorem check_some
    (started : Started environment initial live checked state)
    {spec : ReadinessCheckSpec} {next : ReadinessRegistry}
    (some_ : startedSpec environment resource = some spec)
    (registered : state.readinessRegistry.register spec = .ok next) :
    Started environment initial live (checked ++ [resource])
      ((state.setReadiness next).record (.registerCheck spec) none) where
  instances := started.instances
  checks := by
    show next.specs.entries = _
    rw [ReadinessRegistry.entries_register registered, started.checks]
    simp [List.filterMap_append, some_, ReadinessCheckSpec.entry]
  timeout :=
    (ReadinessRegistry.register_eq_ok_iff.mp registered).2.2.2.1.trans
      started.timeout
  registered := by
    have single :
        registrations [⟨.registerCheck spec, none⟩] = [spec] := rfl
    simp [AppState.record, AppState.setReadiness, started.registered,
      List.filterMap_append, some_, single]

end Started

/-! ## Starting one resource -/

theorem run_registerResourceCheck (spec : ReadinessCheckSpec)
    (state : AppState) :
    (registerResourceCheck environment spec).run state =
      match environment.registrationInterrupt spec.name with
      | some exception =>
          (.error exception,
            state.record (.registerCheck spec) (some exception))
      | none =>
          match state.readinessRegistry.register spec with
          | .ok next =>
              (.ok ⟨⟩,
                (state.setReadiness next).record (.registerCheck spec) none)
          | .error exception =>
              (.error exception,
                state.record (.registerCheck spec) (some exception)) := by
  rw [registerResourceCheck, run_recorded, run_bind]
  cases environment.registrationInterrupt spec.name with
  | some exception => rfl
  | none =>
      dsimp only [interrupt, run_pure]
      rw [registerSpec, run_read_bind, run_bind, run_ofExcept]
      cases state.readinessRegistry.register spec <;> rfl

section Loop

variable (registry : ResourceRegistry) (initial : AppState)

/-- The check of a created resource is registered, or the start fails. -/
theorem triple_registerStarted {done : List ManagedResource}
    {resource : ManagedResource} {healthcheck : Callable}
    {value : PyObject} (member : resource ∈ registry.resources)
    (fresh : resource.name.resolve ∉ resourceNames done)
    (created : environment.factory resource.name.resolve = .ok value)
    (declaredCheck : resource.healthcheck = some healthcheck) :
    Triple (Started environment initial (done ++ [resource]) done)
      (registerResourceCheck environment
        (resource.readinessCheckSpec healthcheck value))
      (fun _ state =>
        Starts environment initial.readinessRegistry resource ∧
          Started environment initial (done ++ [resource])
            (done ++ [resource]) state)
      (StartFails environment initial done resource) := by
  have spec :
      startedSpec environment resource =
        some (resource.readinessCheckSpec healthcheck value) := by
    simp [startedSpec, created, declaredCheck]
  have accepted :=
    registry.registeredAs_readinessCheckSpec member healthcheck value
  have hasCheck : resource.healthcheck.isSome = true := by
    simp [declaredCheck]
  intro state assigned
  rw [run_registerResourceCheck]
  cases interrupted :
    environment.registrationInterrupt resource.name.resolve with
  | some exception =>
      simp only [accepted.named, interrupted]
      refine Or.inr ⟨value, ?_, assigned.record rfl⟩
      exact ⟨created, hasCheck, Or.inl interrupted⟩
  | none =>
      simp only [accepted.named, interrupted]
      by_cases taken :
        resource.name.resolve ∈ initial.readinessRegistry.names
      · have refused :=
          ReadinessRegistry.register_taken accepted.notBlank
            ((assigned.mem_names_iff fresh).mpr taken)
        rw [refused]
        refine Or.inr ⟨value, ?_, assigned.record rfl⟩
        exact
          ⟨created, hasCheck,
            Or.inr ⟨⟨hasCheck, interrupted, taken⟩, rfl⟩⟩
      · have free :
            (resource.readinessCheckSpec healthcheck value).name ∉
              state.readinessRegistry.names :=
          fun stored => taken ((assigned.mem_names_iff fresh).mp stored)
        rcases
          (ReadinessRegistry.register_isOk_iff_of_registeredAs
            (accepted.named.symm ▸ accepted)).mpr free with
          ⟨next, registered⟩
        rw [registered]
        exact
          ⟨⟨⟨value, created⟩, fun _ => interrupted, fun _ => taken⟩,
            assigned.check_some spec registered⟩

/-- One iteration of the loop in `start`. -/
theorem triple_startOne {done rest : List ManagedResource}
    {resource : ManagedResource}
    (declared : done ++ resource :: rest = registry.resources) :
    Triple (Started environment initial done done)
      (startResource environment resource)
      (fun _ state =>
        Starts environment initial.readinessRegistry resource ∧
          Started environment initial (done ++ [resource])
            (done ++ [resource]) state)
      (StartFails environment initial done resource) := by
  have member : resource ∈ registry.resources := by
    rw [← declared]
    simp
  have fresh : resource.name.resolve ∉ resourceNames done := by
    have nodup := registry.nodup_names
    rw [ResourceRegistry.names, ← declared, resourceNames,
      List.map_append] at nodup
    intro doneMember
    exact (List.nodup_append.mp nodup).2.2 _ doneMember _ (by simp) rfl
  intro state started
  rw [startResource, run_bind, run_recorded, run_ofExcept]
  cases created : environment.factory resource.name.resolve with
  | error exception => exact Or.inl ⟨created, started.record rfl⟩
  | ok value =>
      dsimp only
      rw [run_update_bind]
      have recorded :
          Started environment initial done done
            (state.record (.createResource resource.name.resolve) none) :=
        started.record rfl
      have assigned := recorded.assign fresh created
      cases declaredCheck : resource.healthcheck with
      | none =>
          refine ⟨⟨⟨value, created⟩, ?_, ?_⟩, assigned.check_none ?_⟩
          · simp [declaredCheck]
          · simp [declaredCheck]
          · simp [startedSpec, created, declaredCheck]
      | some healthcheck =>
          exact
            triple_registerStarted registry initial member fresh created
              declaredCheck _ assigned

/-- The loop in `start` over a state without live instances. -/
theorem triple_startLoop (atRest : initial.instances = .empty) :
    Triple (fun state => state = initial)
      (forM registry.resources (startResource environment))
      (fun _ state =>
        (∀ resource ∈ registry.resources,
          Starts environment initial.readinessRegistry resource) ∧
        Started environment initial registry.resources
          registry.resources state)
      (fun exception state =>
        ∃ done resource rest,
          registry.resources = done ++ resource :: rest ∧
            (∀ earlier ∈ done,
              Starts environment initial.readinessRegistry earlier) ∧
            StartFails environment initial done resource exception
              state) := by
  have iteration (done : List ManagedResource)
      (resource : ManagedResource) (rest : List ManagedResource) :
      Triple
        (fun state =>
          done ++ resource :: rest = registry.resources ∧
            (∀ earlier ∈ done,
              Starts environment initial.readinessRegistry earlier) ∧
            Started environment initial done done state)
        (startResource environment resource)
        (fun _ state =>
          done ++ [resource] ++ rest = registry.resources ∧
            (∀ earlier ∈ done ++ [resource],
              Starts environment initial.readinessRegistry earlier) ∧
            Started environment initial (done ++ [resource])
              (done ++ [resource]) state)
        (fun exception state =>
          ∃ done resource rest,
            registry.resources = done ++ resource :: rest ∧
              (∀ earlier ∈ done,
                Starts environment initial.readinessRegistry earlier) ∧
              StartFails environment initial done resource exception
                state) := by
    rintro state ⟨declared, earlierStart, started⟩
    refine
      Triple.weaken (triple_startOne registry initial declared)
        (fun _ holds => holds) ?_ ?_ state started
    · rintro _ later ⟨starts, next⟩
      refine ⟨by simpa using declared, ?_, next⟩
      intro earlier member
      rcases List.mem_append.mp member with older | new
      · exact earlierStart earlier older
      · cases List.mem_singleton.mp new
        exact starts
    · intro exception later fails
      exact ⟨done, resource, rest, declared.symm, earlierStart, fails⟩
  have loop :=
    Triple.forM
      (fun done rest (state : AppState) =>
        done ++ rest = registry.resources ∧
          (∀ earlier ∈ done,
            Starts environment initial.readinessRegistry earlier) ∧
          Started environment initial done done state)
      iteration registry.resources []
  refine loop.weaken ?_ (fun _ _ holds => holds.2) fun _ _ holds => holds
  rintro _ rfl
  refine ⟨rfl, by simp, ?_⟩
  exact
    { instances := by simp [atRest]
      checks := by simp
      timeout := rfl
      registered := by simp }

end Loop

/-- A resource whose steps succeed does not stop a start. -/
theorem StartFails.not_starts {initial state : AppState}
    {done : List ManagedResource} {resource : ManagedResource}
    {exception : PyExc}
    (fails :
      StartFails environment initial done resource exception state) :
    ¬Starts environment initial.readinessRegistry resource := by
  intro starts
  rcases starts.created with ⟨value, created⟩
  rcases fails with ⟨failed, -⟩ | ⟨other, refused, -⟩
  · rw [created] at failed
    cases failed
  · have uninterrupted := starts.uninterrupted refused.healthcheck
    rcases refused.cause with interrupted | ⟨taken, -⟩
    · rw [uninterrupted] at interrupted
      cases interrupted
    · exact starts.free taken.healthcheck taken.taken

/-! ## What closing releases -/

/-- An entry is released with this value of a resource. -/
def ManagedResource.releases (resource : ManagedResource)
    (value : PyObject) (entry : Name × ReadinessCheckSpec) : Bool :=
  resource.name.resolve = entry.1 &&
    resource.ownsCheck value entry.2.check

/-- An entry is released when the resources of a state are closed. -/
def AppState.releases (state : AppState)
    (resources : List ManagedResource)
    (entry : Name × ReadinessCheckSpec) : Bool :=
  resources.any fun resource =>
    (state.instances.get? resource.name.resolve).any fun value =>
      resource.releases value entry

theorem AppState.releases_iff {state : AppState}
    {resources : List ManagedResource}
    {entry : Name × ReadinessCheckSpec} :
    state.releases resources entry = true ↔
      ∃ resource ∈ resources, ∃ value,
        state.instances.get? resource.name.resolve = some value ∧
          resource.name.resolve = entry.1 ∧
          resource.ownsCheck value entry.2.check = true := by
  simp [AppState.releases, ManagedResource.releases, Option.any_eq_true]

theorem entries_withoutOwnCheck (registry : ReadinessRegistry)
    (resource : ManagedResource) (value : PyObject) :
    (registry.withoutOwnCheck resource value).specs.entries =
      registry.specs.entries.filter fun entry =>
        !resource.releases value entry := by
  rw [ReadinessRegistry.withoutOwnCheck]
  cases found : registry.specs.get? resource.name.resolve with
  | none =>
      symm
      apply List.filter_eq_self.mpr
      rintro ⟨name, spec⟩ member
      have different : resource.name.resolve ≠ name := by
        rintro rfl
        exact
          OrderedDict.get?_eq_none_iff.mp found
            (OrderedDict.mem_keys_of_mem_entries member)
      simp [ManagedResource.releases, different]
  | some spec =>
      have stored := OrderedDict.get?_eq_some_iff.mp found
      dsimp only
      split
      · next owned =>
          show (registry.specs.erase _).entries = _
          rw [OrderedDict.entries_erase]
          apply List.filter_congr
          rintro ⟨name, other⟩ member
          by_cases same : name = resource.name.resolve
          · subst same
            have equal := registry.specs.value_unique stored member
            subst equal
            simp [ManagedResource.releases, owned]
          · simp [ManagedResource.releases, same, Ne.symm same]
      · next foreign =>
          symm
          apply List.filter_eq_self.mpr
          rintro ⟨name, other⟩ member
          by_cases same : name = resource.name.resolve
          · subst same
            have equal := registry.specs.value_unique stored member
            subst equal
            simpa [ManagedResource.releases] using foreign
          · simp [ManagedResource.releases, Ne.symm same]

theorem defaultTimeoutSeconds_withoutOwnCheck
    (registry : ReadinessRegistry) (resource : ManagedResource)
    (value : PyObject) :
    (registry.withoutOwnCheck resource value).defaultTimeoutSeconds =
      registry.defaultTimeoutSeconds := by
  rw [ReadinessRegistry.withoutOwnCheck]
  cases registry.specs.get? resource.name.resolve with
  | none => rfl
  | some spec =>
      dsimp only
      split <;> rfl

/-- What one iteration of the loop in `close` does. -/
structure ClosedOne (resource : ManagedResource)
    (before after : AppState) : Prop where
  instances :
    after.instances = before.instances.erase resource.name.resolve
  entries :
    after.readinessRegistry.specs.entries =
      before.readinessRegistry.specs.entries.filter fun entry =>
        !before.releases [resource] entry
  timeout :
    after.readinessRegistry.defaultTimeoutSeconds =
      before.readinessRegistry.defaultTimeoutSeconds
  registered :
    registrations after.events = registrations before.events

theorem closedOne (resource : ManagedResource) (state : AppState) :
    ClosedOne resource state (state.closeOne environment resource) := by
  rw [AppState.closeOne]
  cases found : state.instances.get? resource.name.resolve with
  | none =>
      exact
        { instances :=
            (OrderedDict.erase_of_not_mem
              (OrderedDict.get?_eq_none_iff.mp found)).symm
          entries := by
            symm
            apply List.filter_eq_self.mpr
            intro entry _
            simp [AppState.releases, found]
          timeout := rfl
          registered := rfl }
  | some value =>
      exact
        { instances := rfl
          entries := by
            show
              (state.readinessRegistry.withoutOwnCheck resource
                value).specs.entries = _
            rw [entries_withoutOwnCheck]
            simp [AppState.releases, found]
          timeout := defaultTimeoutSeconds_withoutOwnCheck _ _ _
          registered := by
            show registrations (state.events ++ [_]) = _
            rw [registrations_append]
            exact List.append_nil _ }

/-- What the loop in `close` does over a list of resources. -/
structure ClosedLoop (resources : List ManagedResource)
    (before after : AppState) : Prop where
  instances :
    after.instances.entries =
      before.instances.entries.filter fun entry =>
        entry.1 ∉ resourceNames resources
  entries :
    after.readinessRegistry.specs.entries =
      before.readinessRegistry.specs.entries.filter fun entry =>
        !before.releases resources entry
  timeout :
    after.readinessRegistry.defaultTimeoutSeconds =
      before.readinessRegistry.defaultTimeoutSeconds
  registered :
    registrations after.events = registrations before.events

theorem closedLoop {resources : List ManagedResource}
    (nodup : (resourceNames resources).Nodup) (state : AppState) :
    ClosedLoop resources state
      (resources.foldl (AppState.closeOne environment) state) := by
  induction resources generalizing state with
  | nil =>
      exact
        { instances := by simp [resourceNames]
          entries := by simp [AppState.releases]
          timeout := rfl
          registered := rfl }
  | cons resource rest induction =>
      rcases List.nodup_cons.mp nodup with ⟨fresh, restNodup⟩
      have first : ClosedOne resource state _ :=
        @closedOne environment resource state
      have later :=
        induction restNodup (state.closeOne environment resource)
      have untouched :
          (state.closeOne environment resource).releases rest =
            state.releases rest := by
        ext entry : 1
        apply Bool.eq_iff_iff.mpr
        rw [AppState.releases_iff, AppState.releases_iff]
        apply exists_congr
        intro other
        apply and_congr_right
        intro member
        have different :
            other.name.resolve ≠ resource.name.resolve := by
          intro same
          exact fresh (List.mem_map.mpr ⟨other, member, same⟩)
        rw [first.instances, OrderedDict.get?_erase_of_ne different]
      exact
        { instances := by
            rw [List.foldl_cons, later.instances, first.instances,
              OrderedDict.entries_erase, List.filter_filter]
            apply List.filter_congr
            intro entry _
            simp [resourceNames, Bool.and_comm]
          entries := by
            rw [List.foldl_cons, later.entries, first.entries, untouched,
              List.filter_filter]
            apply List.filter_congr
            intro entry _
            simp [AppState.releases, Bool.and_comm]
          timeout := later.timeout.trans first.timeout
          registered := later.registered.trans first.registered }

namespace ResourceRegistry

variable (registry : ResourceRegistry)
variable (environment : LifespanEnvironment)

/-- What `close` does to the instances and to the readiness registry. -/
theorem closedAll (state : AppState) :
    ClosedLoop registry.resources state
      (state.closeAll environment registry.resources) := by
  have nodup : (resourceNames registry.resources.reverse).Nodup := by
    rw [resourceNames, List.map_reverse, List.nodup_reverse]
    exact registry.nodup_names
  have closed : ClosedLoop registry.resources.reverse state _ :=
    @closedLoop environment _ nodup state
  exact
    { instances := by
        rw [AppState.closeAll, closed.instances]
        simp [resourceNames]
      entries := by
        rw [AppState.closeAll, closed.entries]
        simp [AppState.releases]
      timeout := closed.timeout
      registered := closed.registered }

theorem eq_of_resolve_eq {left right : ManagedResource}
    (leftMember : left ∈ registry.resources)
    (rightMember : right ∈ registry.resources)
    (sameName : left.name.resolve = right.name.resolve) : left = right :=
  List.inj_on_of_nodup_map registry.nodup_names leftMember rightMember
    sameName

variable {environment}

/--
The check of a started resource is released unless the health check of the
resource is itself a `partial`.
-/
theorem releases_startedSpec_iff {initial state : AppState}
    {live checked : List ManagedResource}
    (started : Started environment initial live checked state)
    {resource : ManagedResource} (isLive : resource ∈ live)
    (declared : resource ∈ registry.resources)
    {healthcheck : Callable}
    (check : resource.healthcheck = some healthcheck)
    {spec : ReadinessCheckSpec}
    (own : startedSpec environment resource = some spec) :
    state.releases registry.resources spec.entry = true ↔
      healthcheck.isFunctoolsPartial = false := by
  rw [startedSpec, check] at own
  split at own
  · next value found created same =>
      cases same
      cases own
      have stored :
          state.instances.get? resource.name.resolve = some value := by
        rw [OrderedDict.get?_eq_some_iff, started.instances,
          List.mem_filterMap]
        exact ⟨resource, isLive, by simp [instanceEntry, created]⟩
      have recognised :
          resource.ownsCheck value (healthcheck.applyPartial value) = true ↔
            healthcheck.isFunctoolsPartial = false :=
        ManagedResource.ownsCheck_applyPartial_iff check
      rw [← recognised, AppState.releases_iff]
      constructor
      · rintro ⟨other, otherMember, otherValue, otherStored, same, owned⟩
        cases registry.eq_of_resolve_eq otherMember declared same
        rw [stored] at otherStored
        cases otherStored
        exact owned
      · intro owned
        exact ⟨resource, declared, value, stored, rfl, owned⟩
  · cases own

variable (environment)

/-- How a start over a state without live instances ends. -/
theorem run_start {state : AppState}
    (atRest : state.instances = .empty) :
    (∃ started,
      (registry.start environment).run state = (.ok ⟨⟩, started) ∧
        (∀ resource ∈ registry.resources,
          Starts environment state.readinessRegistry resource) ∧
        Started environment state registry.resources registry.resources
          started) ∨
      ∃ done resource rest exception stopped,
        registry.resources = done ++ resource :: rest ∧
          (∀ earlier ∈ done,
            Starts environment state.readinessRegistry earlier) ∧
          StartFails environment state done resource exception stopped ∧
          (registry.start environment).run state =
            (.error (registry.reported environment exception stopped),
              stopped.closeAll environment registry.resources) := by
  have loop := @triple_startLoop environment registry state atRest state rfl
  rw [start, run_tryExcept]
  rcases ran :
    (forM registry.resources (startResource environment) :
      Lifespan PUnit).run state with ⟨result, last⟩
  rw [ran] at loop
  cases result with
  | ok value => exact Or.inl ⟨last, rfl, loop⟩
  | error exception =>
      rcases loop with ⟨done, resource, rest, declared, starts, fails⟩
      refine
        Or.inr
          ⟨done, resource, rest, exception, last, declared, starts, fails,
            ?_⟩
      exact run_rollback registry environment exception last

end ResourceRegistry

end FastapiCore
