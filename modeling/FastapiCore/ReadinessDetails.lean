import FastapiCore.HealthStatusLaw

/-!
# The details of the readiness endpoint

The endpoint stores the detail of an entry under the name of the entry, with
the required flag of the spec which that name resolves to.  `ShowsEntries`
says that nothing is lost or misattributed on the way: one detail for each
entry of the result, with the required flag of the spec whose check produced
the entry.

Two entries of one name share a detail, and the name of a child may resolve
to another spec than its parent.  Without dots in the names of the specs the
second cannot happen, and the first only to children of one name in one
structured result.
-/

namespace FastapiCore

open Library

namespace ReadinessRegistry

/-- One detail for each entry, attributed to the spec it came from. -/
structure ShowsEntries
    (produced : List (ReadinessCheckSpec × ServiceHealthStatus))
    (details : OrderedDict Name HealthServiceDetail) : Prop where
  oneEach : details.keys = produced.map fun pair => pair.2.service
  attributed :
    ∀ pair ∈ produced,
      ∃ detail, details.get? pair.2.service = some detail ∧
        detail.ok = pair.2.ok ∧
          detail.latencyMs = pair.2.latencyMs ∧
            detail.required = pair.1.required

/-- The details of a reply; the reply of an empty registry has none. -/
def shownDetails (reply : HealthReply) :
    OrderedDict Name HealthServiceDetail :=
  reply.body.details.getD .empty

variable (registry : ReadinessRegistry) (config : AppConfig)
  (sdk : HealthSdk) (environment : CheckEnvironment)

/-- Whatever result the checks yield, the endpoint shows all its entries. -/
def KeepsEntries : Prop :=
  ∀ outcome result,
    registry.check sdk environment none config.readinessParallel
        config.readinessOverallTimeoutSeconds =
      some outcome →
    Yields result outcome →
      result.services =
          (registry.produced environment sdk).map Prod.snd ∧
        ∃ reply,
          readiness registry config sdk environment = some (.ok reply) ∧
            ShowsEntries (registry.produced environment sdk)
              (shownDetails reply)

/--
The shown names are distinct, and each resolves to a spec with the required
flag of the spec which produced the entry.
-/
structure NamedAsProduced : Prop where
  distinct :
    ((registry.shown environment).map ShownEntry.name).Nodup
  required :
    ∀ entry ∈ registry.shown environment,
      ∃ spec,
        registry.resolveSpec entry.name = .ok spec ∧
          spec.required = entry.producer.required

variable {registry config sdk environment}

theorem map_name_shown (contract : sdk.Contract) :
    (registry.shown environment).map ShownEntry.name =
      (registry.produced environment sdk).map fun pair =>
        pair.2.service := by
  rw [← registry.map_produced contract environment, List.map_map]
  rfl

theorem visibleDetails_services :
    registry.visibleDetails
        (registry.mergedResult environment sdk
          registry.specList).services =
      (registry.produced environment sdk).map fun pair =>
        (pair.2.service, registry.visibleDetail pair.2) := by
  rw [visibleDetails, services_eq_map_produced, List.map_map]
  rfl

/-- The details which the loop has collected. -/
theorem details_collected :
    (registry.collected sdk environment).details =
      ((registry.produced environment sdk).map fun pair =>
        (pair.2.service, registry.visibleDetail pair.2)).foldl
          (fun details pair => details.insert pair.1 pair.2) .empty := by
  rw [collected, details_foldl_store, visibleDetails_services]

theorem keys_details_collected_iff (contract : sdk.Contract) :
    (registry.collected sdk environment).details.keys =
        (registry.produced environment sdk).map
          (fun pair => pair.2.service) ↔
      ((registry.shown environment).map ShownEntry.name).Nodup := by
  have names :
      ((registry.produced environment sdk).map fun pair =>
          (pair.2.service, registry.visibleDetail pair.2)).map Prod.fst =
        (registry.produced environment sdk).map fun pair =>
          pair.2.service := by
    rw [List.map_map]
    rfl
  rw [details_collected, map_name_shown contract, ← names]
  exact OrderedDict.keys_foldl_insert_empty_eq_iff

/-- Under distinct names every entry finds its own detail. -/
theorem get?_details_collected (contract : sdk.Contract)
    (distinct :
      ((registry.shown environment).map ShownEntry.name).Nodup)
    {pair : ReadinessCheckSpec × ServiceHealthStatus}
    (member : pair ∈ registry.produced environment sdk) :
    (registry.collected sdk environment).details.get? pair.2.service =
      some (registry.visibleDetail pair.2) := by
  rw [map_name_shown contract] at distinct
  rw [details_collected, OrderedDict.get?_foldl_insert,
    OrderedDict.lastValue_of_mem]
  · rfl
  · simpa [Function.comp_def] using distinct
  · exact List.mem_map_of_mem member

theorem showsEntries_collected_iff (contract : sdk.Contract)
    (resolved :
      ∀ entry ∈ registry.shown environment,
        registry.Resolves entry.name) :
    ShowsEntries (registry.produced environment sdk)
        (registry.collected sdk environment).details ↔
      registry.NamedAsProduced environment := by
  constructor
  · intro shows
    have distinct := (keys_details_collected_iff contract).mp shows.oneEach
    refine ⟨distinct, ?_⟩
    intro entry member
    rcases resolved entry member with ⟨spec, governs⟩
    rcases (mem_shown_iff contract).mp member with ⟨pair, produced, rfl⟩
    rcases shows.attributed pair produced with
      ⟨detail, found, -, -, required⟩
    rw [get?_details_collected contract distinct produced,
      Option.some.injEq,
      registry.visibleDetail_of_resolveSpec governs] at found
    subst found
    exact ⟨spec, governs, required⟩
  · intro named
    refine ⟨(keys_details_collected_iff contract).mpr named.distinct, ?_⟩
    intro pair produced
    rcases
      named.required (shownAs pair.1 pair.2)
        ((mem_shown_iff contract).mpr ⟨pair, produced, rfl⟩) with
      ⟨spec, governs, required⟩
    refine
      ⟨_, get?_details_collected contract named.distinct produced, ?_⟩
    rw [registry.visibleDetail_of_resolveSpec governs]
    exact ⟨rfl, rfl, required⟩

/-! ## The result of the checks -/

theorem yields_requiredFailure (result : HealthCheckResult) :
    Yields result
      (match result.requiredFailure? with
      | some failure => .error (.healthCheckError failure result)
      | none => .ok result) := by
  cases result.requiredFailure? with
  | none => exact .returned
  | some failure => exact .raised failure

theorem Yields.unique {outcome : Except CheckFailure HealthCheckResult}
    {left right : HealthCheckResult} (first : Yields left outcome)
    (second : Yields right outcome) : left = right := by
  cases first <;> cases second <;> rfl

/-- The checks which complete yield the merged result, or time out. -/
theorem eq_mergedResult_of_yields (contract : sdk.Contract)
    (completes : registry.Completes environment registry.specList)
    {parallel : Bool} {overall : Option ℚ}
    {outcome : Except CheckFailure HealthCheckResult}
    (checked :
      registry.check sdk environment none parallel overall = some outcome)
    {result : HealthCheckResult} (yields : Yields result outcome) :
    result = registry.mergedResult environment sdk registry.specList := by
  cases overruns :
      sdk.overruns parallel overall
        (sdkTimings
          (registry.sdkChecks environment (registry.selected none))) with
  | true =>
      rw [check] at checked
      simp only [contract.timeout _ _ _ _ overruns] at checked
      cases checked
      cases yields
  | false =>
      have selected : registry.selected none = registry.specList :=
        selected_none registry
      rw [check_eq contract (selected.symm ▸ completes) overruns,
        selected_none, Option.some.injEq] at checked
      subst checked
      exact yields.unique (yields_requiredFailure _)

/-- Without a timeout the checks yield the merged result. -/
theorem exists_yields_mergedResult (contract : sdk.Contract)
    (completes : registry.Completes environment registry.specList)
    (quiet : ¬ registry.TimeoutFires config sdk environment)
    (nonempty : registry.specList ≠ []) :
    ∃ outcome,
      registry.check sdk environment none config.readinessParallel
          config.readinessOverallTimeoutSeconds =
        some outcome ∧
      Yields (registry.mergedResult environment sdk registry.specList)
        outcome := by
  have inTime := overruns_of_quiet quiet nonempty
  have selected : registry.selected none = registry.specList :=
    selected_none registry
  refine
    ⟨_, check_eq contract (selected.symm ▸ completes) inTime, ?_⟩
  rw [selected_none]
  exact yields_requiredFailure _

/-! ## The condition -/

/-- A firing timeout leaves no result to show. -/
theorem keepsEntries_of_timeoutFires (contract : sdk.Contract)
    (fires : registry.TimeoutFires config sdk environment) :
    registry.KeepsEntries config sdk environment := by
  intro outcome result checked yields
  have overruns := fires.2
  rw [← selected_none registry] at overruns
  rw [check] at checked
  simp only [contract.timeout _ _ _ _ overruns] at checked
  cases checked
  cases yields

theorem produced_of_empty (empty : registry.specList = []) :
    registry.produced environment sdk = [] := by
  rw [produced, empty]
  rfl

theorem keepsEntries_of_empty (contract : sdk.Contract)
    (empty : registry.specList = []) :
    registry.KeepsEntries config sdk environment := by
  have completes : registry.Completes environment registry.specList := by
    rw [empty]
    exact List.forall_mem_nil _
  intro outcome result checked yields
  have merged :=
    eq_mergedResult_of_yields contract completes checked yields
  refine ⟨?_, .model { status := .ok }, if_pos empty, ?_⟩
  · rw [merged, services_eq_map_produced]
  · rw [produced_of_empty empty]
    exact ⟨rfl, List.forall_mem_nil _⟩

/--
The endpoint shows every entry of the result as it was produced exactly when
the overall timeout fires or the shown names are distinct and resolve to the
required flags of their producers.
-/
theorem keepsEntries_iff (contract : sdk.Contract)
    (settled :
      registry.TimeoutFires config sdk environment ∨
        registry.Completes environment registry.specList) :
    registry.KeepsEntries config sdk environment ↔
      registry.TimeoutFires config sdk environment ∨
        registry.NamedAsProduced environment := by
  by_cases fires : registry.TimeoutFires config sdk environment
  · simp only [fires, true_or, iff_true]
    exact keepsEntries_of_timeoutFires contract fires
  have completes := settled.resolve_left fires
  simp only [fires, false_or]
  by_cases empty : registry.specList = []
  · refine ⟨fun _ => ?_, fun _ => keepsEntries_of_empty contract empty⟩
    have noneShown : registry.shown environment = [] := by
      rw [← registry.map_produced contract, produced_of_empty empty]
      rfl
    exact ⟨by simp [noneShown], by simp [noneShown]⟩
  have responds :=
    readiness_of_completes contract completes fires empty
  constructor
  · intro keeps
    rcases exists_yields_mergedResult contract completes fires empty with
      ⟨outcome, checked, yields⟩
    rcases keeps outcome _ checked yields with
      ⟨-, reply, answered, shows⟩
    rw [responds, Option.some.injEq] at answered
    have resolved := respond_isOk_iff.mp ⟨reply, answered⟩
    rw [respond_eq_ok resolved, Except.ok.injEq] at answered
    subst answered
    apply
      (showsEntries_collected_iff contract
        ((resolves_services_iff contract).mp resolved)).mp
    rw [shownDetails, CollectedDetails.reply_details] at shows
    exact shows
  · intro named outcome result checked yields
    have resolved :
        ∀ entry ∈ registry.shown environment,
          registry.Resolves entry.name := by
      intro entry member
      rcases named.required entry member with ⟨spec, governs, -⟩
      exact ⟨spec, governs⟩
    have merged :=
      eq_mergedResult_of_yields contract completes checked yields
    refine
      ⟨?_, (registry.collected sdk environment).reply, ?_, ?_⟩
    · rw [merged, services_eq_map_produced]
    · rw [responds,
        respond_eq_ok ((resolves_services_iff contract).mpr resolved)]
      rfl
    · rw [shownDetails, CollectedDetails.reply_details]
      exact (showsEntries_collected_iff contract resolved).mpr named

/-! ## Names without dots -/

/-- The entries which the check of one spec puts into the result. -/
def shownOf (registry : ReadinessRegistry)
    (environment : CheckEnvironment) (spec : ReadinessCheckSpec) :
    List ShownEntry :=
  match registry.report environment spec with
  | .pending => []
  | .settles _ report => shownEntries spec report

/-- No structured result shows two children of one name. -/
def ChildrenDistinct (registry : ReadinessRegistry)
    (environment : CheckEnvironment) : Prop :=
  ∀ spec ∈ registry.specList,
    ((registry.shownOf environment spec).map ShownEntry.name).Nodup

theorem firstSegment_of_mem_shownOf {spec : ReadinessCheckSpec}
    (dotFree : '.' ∉ spec.name.toList) {name : Name}
    (member :
      name ∈ (registry.shownOf environment spec).map ShownEntry.name) :
    firstSegment name = spec.name := by
  have own := firstSegment_eq_self_iff.mpr dotFree
  rcases List.mem_map.mp member with ⟨entry, inEntries, rfl⟩
  rw [shownOf] at inEntries
  cases settled : registry.report environment spec with
  | pending => rw [settled] at inEntries; cases inEntries
  | settles elapsed report =>
      have inReport : entry ∈ shownEntries spec report := by
        rw [settled] at inEntries
        exact inEntries
      by_cases children : shownChildren report = []
      · rw [shownEntries_of_none children] at inReport
        cases List.mem_singleton.mp inReport
        exact own
      · rw [shownEntries_of_children children] at inReport
        rcases List.mem_map.mp inReport with ⟨child, _, rfl⟩
        rw [firstSegment_childName]
        exact own

/-- Without dotted names only children of one parent can share a name. -/
theorem namedAsProduced_of_dotFree
    (dotFree : ∀ spec ∈ registry.specList, '.' ∉ spec.name.toList)
    (distinct : registry.ChildrenDistinct environment) :
    registry.NamedAsProduced environment where
  distinct := by
    have split :
        (registry.shown environment).map ShownEntry.name =
          registry.specList.flatMap fun spec =>
            (registry.shownOf environment spec).map ShownEntry.name :=
      List.map_flatMap
    rw [split, List.nodup_flatMap]
    refine ⟨distinct, ?_⟩
    have nodup := registry.nodup_specList_names
    rw [List.Nodup, List.pairwise_map] at nodup
    apply nodup.imp_of_mem
    intro left right leftMember rightMember different name inLeft inRight
    apply different
    rw [← firstSegment_of_mem_shownOf (dotFree left leftMember) inLeft,
      ← firstSegment_of_mem_shownOf (dotFree right rightMember) inRight]
  required := by
    intro entry member
    exact ⟨entry.producer, resolveSpec_shown dotFree member, rfl⟩

/-- Without dotted names every entry of distinct children is shown. -/
theorem keepsEntries_of_dotFree (contract : sdk.Contract)
    (completes : registry.Completes environment registry.specList)
    (dotFree : ∀ spec ∈ registry.specList, '.' ∉ spec.name.toList)
    (distinct : registry.ChildrenDistinct environment) :
    registry.KeepsEntries config sdk environment :=
  (keepsEntries_iff contract (.inr completes)).mpr
    (.inr (namedAsProduced_of_dotFree dotFree distinct))

theorem keepsEntries_databaseAndCache :
    databaseAndCache.KeepsEntries {} .documented databaseAndCacheDown :=
  have dotFree :
      ∀ spec ∈ databaseAndCache.specList, '.' ∉ spec.name.toList := by
    decide
  have distinct :
      databaseAndCache.ChildrenDistinct databaseAndCacheDown := by
    intro spec member
    simp only [databaseAndCache, specList_ofSpecs, List.mem_cons,
      List.not_mem_nil, or_false] at member
    rcases member with rfl | rfl <;> decide
  (keepsEntries_iff HealthSdk.documented_contract
    (.inr databaseAndCacheDown_completes)).mpr
    (.inr (namedAsProduced_of_dotFree dotFree distinct))

/-! ## A required child under an optional name -/

/-- An optional check, and a required one whose name starts with it. -/
def requiredBelowOptional : ReadinessRegistry :=
  ofSpecs none
    [{ name := "db", check := .function 0, required := false },
      { name := "db.primary", check := .function 1 }]
    (by decide) (by decide)

/-- The optional check succeeds; the required one reports a failing child. -/
def failingReplica : CheckEnvironment where
  check spec :=
    if spec.name = "db" then .coroutineFunction (.settles 1 (.ok .none))
    else
      .coroutineFunction
        (.settles 1
          (.ok
            (.healthCheckResult
              { ok := false
                services := [{ service := "replica", ok := false }] })))
  adapter _ value := .ok (.value value)

theorem failingReplica_completes :
    requiredBelowOptional.Completes failingReplica
      requiredBelowOptional.specList := by
  intro spec member
  simp only [requiredBelowOptional, specList_ofSpecs, List.mem_cons,
    List.not_mem_nil, or_false] at member
  rcases member with rfl | rfl <;> rfl

/-- The failing child of a required check is shown as optional. -/
theorem not_forall_keepsEntries :
    ¬ ∀ (registry : ReadinessRegistry) (config : AppConfig)
        (sdk : HealthSdk) (environment : CheckEnvironment),
        sdk.Contract →
        registry.TimeoutFires config sdk environment ∨
          registry.Completes environment registry.specList →
        registry.KeepsEntries config sdk environment := by
  intro keeps
  have shows :=
    keeps requiredBelowOptional {} .documented failingReplica
      HealthSdk.documented_contract (.inr failingReplica_completes)
  rcases shows _ _ rfl (.raised _) with ⟨-, reply, answered, entries⟩
  have attributed :=
    entries.attributed
      ({ name := "db.primary", check := .function 1 },
        { service := "db.primary.replica", ok := false, required := true })
      (List.mem_cons_of_mem _ (List.mem_singleton_self _))
  rcases attributed with ⟨detail, found, -, -, required⟩
  cases answered
  cases found
  cases required

end ReadinessRegistry

end FastapiCore
