import FastapiCore.ReadinessCheck

/-!
# What a completed health check reports

This module relates the result of `ReadinessRegistry.check` to the reports of
the single checks.  `ReportsFailure` says independently of the code when a
report is a failure.  Every selected spec contributes one nonempty block of
entries, the block contains a failing entry exactly when the spec reported a
failure, and the blocks follow one another in registration order.

The order in which the checks finish does not matter: each of them writes
under its own name, so the shared dictionary answers every lookup as if the
checks had run one after another.
-/

namespace FastapiCore

open Library

/-! ## Failing reports -/

/-- The report of a check which makes the check fail. -/
inductive ReportsFailure : Except PyExc CheckValue → Prop where
  | raised (exception : PyExc) : ReportsFailure (.error exception)
  | returnedFalse : ReportsFailure (.ok (.bool false))
  | serviceNotOk (status : ServiceHealthStatus)
      (notOk : status.ok = false) :
      ReportsFailure (.ok (.serviceHealthStatus status))
  | outcomeNotOk (error : Option String) :
      ReportsFailure (.ok (.healthOutcome (.ok false) error))
  | outcomeRaised (exception : PyExc) (error : Option String) :
      ReportsFailure (.ok (.healthOutcome (.error exception) error))
  | resultNotOk (result : HealthCheckResult) (notOk : result.ok = false) :
      ReportsFailure (.ok (.healthCheckResult result))
  | childNotOk (result : HealthCheckResult) (child : ServiceHealthStatus)
      (member : child ∈ result.services) (notOk : child.ok = false) :
      ReportsFailure (.ok (.healthCheckResult result))

theorem reportsFailure_healthCheckResult_iff
    (result : HealthCheckResult) :
    ReportsFailure (.ok (.healthCheckResult result)) ↔
      result.ok = false ∨ ∃ child ∈ result.services, child.ok = false := by
  constructor
  · intro failure
    cases failure with
    | resultNotOk _ notOk => exact Or.inl notOk
    | childNotOk _ child member notOk =>
        exact Or.inr ⟨child, member, notOk⟩
  · rintro (notOk | ⟨child, member, notOk⟩)
    · exact .resultNotOk result notOk
    · exact .childNotOk result child member notOk

/-- The flag of a structured result is the conjunction of all its flags. -/
theorem structuredResult_ok_iff
    (parent : Name) (result : HealthCheckResult) (required : Bool) :
    (structuredResult parent result required).ok = true ↔
      ¬ ReportsFailure (.ok (.healthCheckResult result)) := by
  rw [reportsFailure_healthCheckResult_iff, structuredResult,
    Bool.and_eq_true, List.all_eq_true]
  push Not
  constructor
  · rintro ⟨resultOk, childrenOk⟩
    exact
      ⟨by simp [resultOk], fun child member => by
        simp [childrenOk child member]⟩
  · rintro ⟨resultOk, childrenOk⟩
    exact
      ⟨by simpa using resultOk, fun child member => by
        simpa using childrenOk child member⟩

section Outcome

variable {spec : ReadinessCheckSpec} {report : Except PyExc CheckValue}

theorem outcome_iff_of_failure {exception : PyExc}
    (raised : (runOfReport spec report).outcome = .error exception)
    (failure : ReportsFailure report) :
    (runOfReport spec report).outcome = .ok () ↔
      ¬ ReportsFailure report := by
  rw [raised]
  constructor
  · rintro ⟨⟩
  · exact fun succeeded => (succeeded failure).elim

theorem outcome_iff_of_success
    (returned : (runOfReport spec report).outcome = .ok ())
    (success : ¬ ReportsFailure report) :
    (runOfReport spec report).outcome = .ok () ↔
      ¬ ReportsFailure report :=
  iff_of_true returned success

end Outcome

/-- A check ends normally exactly when it did not report a failure. -/
theorem runOfReport_outcome_iff
    (spec : ReadinessCheckSpec) (report : Except PyExc CheckValue) :
    (runOfReport spec report).outcome = .ok () ↔
      ¬ ReportsFailure report := by
  cases report with
  | error exception => exact outcome_iff_of_failure rfl (.raised exception)
  | ok value =>
      cases value with
      | none => exact outcome_iff_of_success rfl (by rintro ⟨⟩)
      | bool flag =>
          cases flag with
          | false => exact outcome_iff_of_failure rfl .returnedFalse
          | true => exact outcome_iff_of_success rfl (by rintro ⟨⟩)
      | healthCheckResult result =>
          rw [← structuredResult_ok_iff spec.name result spec.required]
          show
            (if (structuredResult spec.name result spec.required).ok = true
              then Except.ok ()
              else
                .error
                  (PyExc.runtimeError "structured readiness check failed")) =
                .ok () ↔ _
          split_ifs with nestedOk <;> simp [nestedOk]
      | serviceHealthStatus status =>
          cases statusOk : status.ok with
          | true =>
              have returned :
                  (runOfReport spec
                      (.ok (.serviceHealthStatus status))).outcome =
                    .ok () :=
                if_pos statusOk
              apply outcome_iff_of_success returned
              intro failure
              cases failure with
              | serviceNotOk _ notOk => simp [statusOk] at notOk
          | false =>
              have raised :
                  (runOfReport spec
                      (.ok (.serviceHealthStatus status))).outcome =
                    .error
                      (.runtimeError
                        (orDefault status.error
                          "service health check failed")) :=
                if_neg (by simp [statusOk])
              exact
                outcome_iff_of_failure raised
                  (.serviceNotOk status statusOk)
      | healthOutcome ok error =>
          cases ok with
          | error exception =>
              exact
                outcome_iff_of_failure rfl (.outcomeRaised exception error)
          | ok flag =>
              cases flag with
              | false =>
                  exact outcome_iff_of_failure rfl (.outcomeNotOk error)
              | true => exact outcome_iff_of_success rfl (by rintro ⟨⟩)
      | sentinel object => exact outcome_iff_of_success rfl (by rintro ⟨⟩)

/-! ## The block of one spec -/

/-- The entries of one spec in the merged result. -/
def reportBlock (sdk : HealthSdk) (spec : ReadinessCheckSpec)
    (elapsed : ℚ) (report : Except PyExc CheckValue) :
    List ServiceHealthStatus :=
  mergeEntry
    (sdk.describe spec.name spec.required elapsed
      (runOfReport spec report).outcome)
    (runOfReport spec report).structured

/-- The two shapes of the block of a spec with a given report. -/
inductive BlockShape (spec : ReadinessCheckSpec)
    (report : Except PyExc CheckValue) :
    List ServiceHealthStatus → Prop where
  | single (status : ServiceHealthStatus)
      (service : status.service = spec.name)
      (required : status.required = spec.required) :
      BlockShape spec report [status]
  | children (result : HealthCheckResult)
      (reported : report = .ok (.healthCheckResult result))
      (nonempty : result.services ≠ []) :
      BlockShape spec report
        (result.services.map (renameChild spec.name spec.required))

section BlockShape

variable {spec : ReadinessCheckSpec} {report : Except PyExc CheckValue}
  {block : List ServiceHealthStatus}

theorem BlockShape.nonempty (shape : BlockShape spec report block) :
    block ≠ [] := by
  cases shape with
  | single => simp
  | children result _ nonempty => simpa using nonempty

/-- Every entry of a block carries the required flag of its spec. -/
theorem BlockShape.required (shape : BlockShape spec report block)
    {status : ServiceHealthStatus} (member : status ∈ block) :
    status.required = spec.required := by
  cases shape with
  | single entry _ required =>
      rw [List.mem_singleton.mp member]
      exact required
  | children result _ _ =>
      rcases List.mem_map.mp member with ⟨child, _, rfl⟩
      rfl

/-- An entry of a block stands for its spec or for a reported child. -/
theorem BlockShape.mem_cases (shape : BlockShape spec report block)
    {status : ServiceHealthStatus} (member : status ∈ block) :
    status.service = spec.name ∨
      ∃ result child,
        report = .ok (.healthCheckResult result) ∧
          child ∈ result.services ∧
            status = renameChild spec.name spec.required child := by
  cases shape with
  | single entry service _ =>
      rw [List.mem_singleton.mp member]
      exact Or.inl service
  | children result reported _ =>
      rcases List.mem_map.mp member with ⟨child, childMember, rfl⟩
      exact Or.inr ⟨result, child, reported, childMember, rfl⟩

end BlockShape

/-- Only a structured result stores children. -/
theorem runOfReport_structured
    {spec : ReadinessCheckSpec} {report : Except PyExc CheckValue}
    {nested : HealthCheckResult}
    (stored : (runOfReport spec report).structured = some nested) :
    ∃ result,
      report = .ok (.healthCheckResult result) ∧
        nested = structuredResult spec.name result spec.required := by
  cases report with
  | error exception => cases stored
  | ok value =>
      cases value with
      | healthCheckResult result => exact ⟨result, rfl, by cases stored; rfl⟩
      | none => cases stored
      | bool flag => cases flag <;> cases stored
      | serviceHealthStatus status => cases stored
      | healthOutcome ok error =>
          cases ok with
          | error exception => cases stored
          | ok flag => cases flag <;> cases stored
      | sentinel object => cases stored

variable {sdk : HealthSdk}

theorem reportBlock_shape (contract : sdk.Contract)
    (spec : ReadinessCheckSpec) (elapsed : ℚ)
    (report : Except PyExc CheckValue) :
    BlockShape spec report (reportBlock sdk spec elapsed report) := by
  have single :
      BlockShape spec report
        [sdk.describe spec.name spec.required elapsed
          (runOfReport spec report).outcome] :=
    .single _ (contract.describe_service _ _ _ _)
      (contract.describe_required _ _ _ _)
  rw [reportBlock]
  cases stored : (runOfReport spec report).structured with
  | none => exact single
  | some nested =>
      rcases runOfReport_structured stored with ⟨result, rfl, rfl⟩
      simp only [mergeEntry]
      split_ifs with kept
      · exact single
      · rcases not_or.mp kept with ⟨nonempty, _⟩
        exact
          .children result rfl (by
            simpa [structuredResult] using nonempty)

/-- The SDK reports a failure exactly when the spec failed. -/
theorem describe_fails_iff (contract : sdk.Contract)
    (spec : ReadinessCheckSpec) (elapsed : ℚ)
    (report : Except PyExc CheckValue) :
    (sdk.describe spec.name spec.required elapsed
        (runOfReport spec report).outcome).ok = false ↔
      ReportsFailure report := by
  rw [← not_iff_not, ← runOfReport_outcome_iff spec report,
    ← contract.describe_ok spec.name spec.required elapsed,
    Bool.not_eq_false]

/-- A block contains a failing entry exactly when its spec failed. -/
theorem reportBlock_fails_iff (contract : sdk.Contract)
    (spec : ReadinessCheckSpec) (elapsed : ℚ)
    (report : Except PyExc CheckValue) :
    (∃ status ∈ reportBlock sdk spec elapsed report, status.ok = false) ↔
      ReportsFailure report := by
  have single :
      (∃ status ∈
          [sdk.describe spec.name spec.required elapsed
            (runOfReport spec report).outcome],
        status.ok = false) ↔ ReportsFailure report := by
    rw [← describe_fails_iff contract spec elapsed report]
    simp
  rw [reportBlock]
  cases stored : (runOfReport spec report).structured with
  | none => exact single
  | some nested =>
      rcases runOfReport_structured stored with ⟨result, rfl, rfl⟩
      simp only [mergeEntry]
      split_ifs with kept
      · exact single
      · rcases not_or.mp kept with ⟨_, visible⟩
        rw [← not_iff_not,
          ← structuredResult_ok_iff spec.name result spec.required]
        cases flag :
            (structuredResult spec.name result spec.required).ok with
        | true =>
            have childrenOk :
                (structuredResult spec.name result spec.required).services.all
                  ServiceHealthStatus.ok = true := by
              rw [structuredResult, Bool.and_eq_true] at flag
              simpa [structuredResult, renameChild, Function.comp_def]
                using flag.2
            rw [List.all_eq_true] at childrenOk
            simp only [iff_true]
            rintro ⟨status, member, notOk⟩
            simp [childrenOk status member] at notOk
        | false =>
            -- The parent is not ok, so the block is kept only for a child.
            have childFails :
                ¬ (structuredResult spec.name result
                    spec.required).services.all
                  ServiceHealthStatus.ok = true :=
              fun allOk => visible ⟨flag, allOk⟩
            rw [List.all_eq_true] at childFails
            push Not at childFails
            simp only [Bool.false_eq_true, iff_false, not_not]
            rcases childFails with ⟨status, member, notOk⟩
            exact ⟨status, member, by simpa using notOk⟩

/-! ## Required failures -/

theorem HealthCheckResult.requiredFailure?_isSome_iff
    (result : HealthCheckResult) :
    result.requiredFailure?.isSome ↔
      ∃ status ∈ result.services,
        status.required = true ∧ status.ok = false := by
  rw [requiredFailure?, List.find?_isSome]
  simp

theorem HealthCheckResult.requiredFailure?_eq_some
    {result : HealthCheckResult} {failure : ServiceHealthStatus}
    (found : result.requiredFailure? = some failure) :
    failure ∈ result.services ∧ failure.required = true ∧
      failure.ok = false := by
  have policy := List.find?_some found
  simp only [Bool.and_eq_true, Bool.not_eq_true'] at policy
  exact ⟨List.mem_of_find?_eq_some found, policy⟩

/-! ## The shared dictionary of structured results -/

namespace ReadinessRegistry

variable (registry : ReadinessRegistry) (environment : CheckEnvironment)

/-- Every selected check and its adapter complete. -/
def Completes (specs : List ReadinessCheckSpec) : Prop :=
  ∀ spec ∈ specs, (registry.report environment spec).value?.isSome

/-- What a finished check has stored under its name. -/
def storedResult (specs : List ReadinessCheckSpec) (name : Name) :
    Option HealthCheckResult :=
  (specs.find? fun spec => spec.name = name).bind fun spec =>
    (registry.run environment spec).value?.bind CheckRun.structured

theorem storeStructured_eq (specs : List ReadinessCheckSpec)
    (structured : OrderedDict Name HealthCheckResult) (name : Name) :
    registry.storeStructured environment specs structured name =
      match registry.storedResult environment specs name with
      | none => structured
      | some nested => structured.insert name nested := by
  rw [storeStructured, storedResult]
  cases specs.find? (fun spec => spec.name = name) with
  | none => rfl
  | some spec =>
      simp only [Option.bind_some]
      cases (registry.run environment spec).value? with
      | none => rfl
      | some run =>
          rcases run with ⟨stored, outcome⟩
          cases stored <;> rfl

/--
Looking a name up after the checks finished, in whatever order, gives what the
check of that name has stored.
-/
theorem structuredResults_get? (specs : List ReadinessCheckSpec)
    (finished : List Name) (name : Name) :
    (registry.structuredResults environment specs finished).get? name =
      if name ∈ finished then registry.storedResult environment specs name
      else none := by
  have folded :
      ∀ structured : OrderedDict Name HealthCheckResult,
        (finished.foldl (registry.storeStructured environment specs)
            structured).get? name =
          if name ∈ finished then
            (registry.storedResult environment specs name).or
              (structured.get? name)
          else structured.get? name := by
    induction finished with
    | nil => simp
    | cons current rest induction =>
        intro structured
        rw [List.foldl_cons, induction, storeStructured_eq]
        by_cases same : name = current
        · subst same
          cases registry.storedResult environment specs name <;> simp
        · cases stored :
              registry.storedResult environment specs current with
          | none => simp [same]
          | some nested =>
              simp [same, OrderedDict.get?_insert_of_ne same]
  rw [structuredResults, folded]
  simp

/-- Searching for the name of a spec finds the spec. -/
theorem find?_name {specs : List ReadinessCheckSpec}
    (nodup : (specs.map ReadinessCheckSpec.name).Nodup)
    {spec : ReadinessCheckSpec} (member : spec ∈ specs) :
    (specs.find? fun other => other.name = spec.name) = some spec := by
  cases search : specs.find? fun other => other.name = spec.name with
  | none =>
      have absent := List.find?_eq_none.mp search spec member
      simp at absent
  | some other =>
      have sameName : other.name = spec.name := by
        simpa using List.find?_some search
      exact
        congrArg some
          (List.inj_on_of_nodup_map nodup
            (List.mem_of_find?_eq_some search) member sameName)

theorem storedResult_name {specs : List ReadinessCheckSpec}
    (nodup : (specs.map ReadinessCheckSpec.name).Nodup)
    {spec : ReadinessCheckSpec} (member : spec ∈ specs)
    {elapsed : ℚ} {report : Except PyExc CheckValue}
    (settles : registry.report environment spec = .settles elapsed report) :
    registry.storedResult environment specs spec.name =
      (runOfReport spec report).structured := by
  rw [storedResult, find?_name nodup member, Option.bind_some, run,
    settles]
  rfl

/-! ## The result of all selected checks -/

theorem mem_selected {names : Option (List Name)}
    {spec : ReadinessCheckSpec} (member : spec ∈ registry.selected names) :
    spec ∈ registry.specList :=
  List.mem_of_mem_filter member

theorem nodup_specList_names :
    (registry.specList.map ReadinessCheckSpec.name).Nodup :=
  registry.names_eq_map ▸ registry.nodup_names

theorem nodup_selected_names (names : Option (List Name)) :
    ((registry.selected names).map ReadinessCheckSpec.name).Nodup := by
  exact registry.nodup_specList_names.sublist (List.filter_sublist.map _)

/-- The block of a spec, given by the behaviour of its check. -/
def block (sdk : HealthSdk) (spec : ReadinessCheckSpec) :
    List ServiceHealthStatus :=
  match registry.report environment spec with
  | .pending => []
  | .settles elapsed report => reportBlock sdk spec elapsed report

/-- The merged result of the selected checks. -/
def mergedResult (sdk : HealthSdk) (specs : List ReadinessCheckSpec) :
    HealthCheckResult where
  ok :=
    (specs.flatMap (registry.block environment sdk)).all
      ServiceHealthStatus.ok
  services := specs.flatMap (registry.block environment sdk)

/-- The check of a spec failed. -/
def CheckFails (spec : ReadinessCheckSpec) : Prop :=
  ∃ elapsed report,
    registry.report environment spec = .settles elapsed report ∧
      ReportsFailure report

variable {registry environment} {names : Option (List Name)}

theorem exists_settles {specs : List ReadinessCheckSpec}
    (completes : registry.Completes environment specs)
    {spec : ReadinessCheckSpec} (member : spec ∈ specs) :
    ∃ elapsed report,
      registry.report environment spec = .settles elapsed report := by
  have settled := completes spec member
  cases report : registry.report environment spec with
  | pending => rw [report] at settled; cases settled
  | settles elapsed value => exact ⟨elapsed, value, rfl⟩

theorem block_shape (contract : sdk.Contract)
    {specs : List ReadinessCheckSpec}
    (completes : registry.Completes environment specs)
    {spec : ReadinessCheckSpec} (member : spec ∈ specs) :
    ∃ elapsed report,
      registry.report environment spec = .settles elapsed report ∧
        BlockShape spec report (registry.block environment sdk spec) := by
  rcases exists_settles completes member with ⟨elapsed, report, settles⟩
  rw [block, settles]
  exact
    ⟨elapsed, report, rfl, reportBlock_shape contract spec elapsed report⟩

/-- Every entry of a block carries the required flag of its spec. -/
theorem block_required (contract : sdk.Contract)
    {spec : ReadinessCheckSpec} {status : ServiceHealthStatus}
    (member : status ∈ registry.block environment sdk spec) :
    status.required = spec.required := by
  rw [block] at member
  cases settled : registry.report environment spec with
  | pending => rw [settled] at member; cases member
  | settles elapsed report =>
      rw [settled] at member
      exact
        (reportBlock_shape contract spec elapsed report).required member

theorem block_fails_iff (contract : sdk.Contract)
    {specs : List ReadinessCheckSpec}
    (completes : registry.Completes environment specs)
    {spec : ReadinessCheckSpec} (member : spec ∈ specs) :
    (∃ status ∈ registry.block environment sdk spec, status.ok = false) ↔
      registry.CheckFails environment spec := by
  rcases exists_settles completes member with ⟨elapsed, report, settles⟩
  rw [block, settles, CheckFails, settles]
  simp only [reportBlock_fails_iff contract]
  constructor
  · intro failure
    exact ⟨elapsed, report, rfl, failure⟩
  · rintro ⟨_, _, equal, failure⟩
    cases equal
    exact failure

theorem mergedResult_ok_iff (contract : sdk.Contract)
    {specs : List ReadinessCheckSpec}
    (completes : registry.Completes environment specs) :
    (registry.mergedResult environment sdk specs).ok = true ↔
      ∀ spec ∈ specs, ¬ registry.CheckFails environment spec := by
  rw [mergedResult, List.all_eq_true]
  constructor
  · intro allOk spec member failure
    rcases (block_fails_iff contract completes member).mpr failure with
      ⟨status, statusMember, notOk⟩
    have statusOk :=
      allOk status (List.mem_flatMap.mpr ⟨spec, member, statusMember⟩)
    simp [notOk] at statusOk
  · intro succeeded status member
    rcases List.mem_flatMap.mp member with ⟨spec, specMember, inBlock⟩
    cases statusOk : status.ok with
    | true => rfl
    | false =>
        exact
          (succeeded spec specMember
            ((block_fails_iff contract completes specMember).mp
              ⟨status, inBlock, statusOk⟩)).elim

/-- The entries which the SDK makes of the selected checks. -/
theorem sdkEntries (specs : List ReadinessCheckSpec)
    (required : List Name) :
    describedEntries sdk.describe required
        (registry.sdkChecks environment specs) =
      specs.filterMap fun spec =>
        match registry.report environment spec with
        | .settles elapsed report =>
            some
              (sdk.describe spec.name (spec.name ∈ required) elapsed
                (runOfReport spec report).outcome)
        | .pending => none := by
  rw [describedEntries, sdkChecks, List.filterMap_map]
  apply List.filterMap_congr
  intro spec _
  rw [Function.comp_apply, run]
  cases registry.report environment spec <;> rfl

theorem mem_requiredNames_iff
    {specs : List ReadinessCheckSpec}
    (nodup : (specs.map ReadinessCheckSpec.name).Nodup)
    {spec : ReadinessCheckSpec} (member : spec ∈ specs) :
    spec.name ∈ requiredNames specs ↔ spec.required = true := by
  rw [requiredNames, List.mem_map]
  constructor
  · rintro ⟨other, otherMember, sameName⟩
    rcases List.mem_filter.mp otherMember with ⟨inSpecs, required⟩
    rwa [List.inj_on_of_nodup_map nodup inSpecs member sameName]
      at required
  · intro required
    exact ⟨spec, List.mem_filter.mpr ⟨member, required⟩, rfl⟩

/-- Merging the aggregate of the SDK gives the concatenation of the blocks. -/
theorem mergeStructuredResults_aggregate (contract : sdk.Contract)
    {specs : List ReadinessCheckSpec}
    (nodup : (specs.map ReadinessCheckSpec.name).Nodup)
    (completes : registry.Completes environment specs)
    {finished : List Name}
    (all : ∀ spec ∈ specs, spec.name ∈ finished) :
    mergeStructuredResults
        (sdk.aggregate (requiredNames specs)
          (registry.sdkChecks environment specs))
        (registry.structuredResults environment specs finished) =
      registry.mergedResult environment sdk specs := by
  have services :
      (describedEntries sdk.describe (requiredNames specs)
          (registry.sdkChecks environment specs)).flatMap
            (mergeService
              (registry.structuredResults environment specs finished)) =
        specs.flatMap (registry.block environment sdk) := by
    rw [sdkEntries, List.filterMap_eq_flatMap_toList, List.flatMap_assoc]
    apply List.flatMap_congr
    intro spec member
    rcases exists_settles completes member with ⟨elapsed, report, settles⟩
    have requiredFlag :
        decide (spec.name ∈ requiredNames specs) = spec.required := by
      rw [Bool.eq_iff_iff, decide_eq_true_eq]
      exact mem_requiredNames_iff nodup member
    rw [block, settles]
    simp only [requiredFlag, Option.toList_some, List.flatMap_singleton]
    rw [mergeService, contract.describe_service, structuredResults_get?,
      if_pos (all spec member),
      storedResult_name registry environment nodup member settles]
    rfl
  rw [mergeStructuredResults, HealthSdk.aggregate,
    HealthCheckResult.ofServices, services, mergedResult]

/-- The entries of the SDK, one for each spec which completes. -/
theorem mem_sdkEntries_iff
    {specs : List ReadinessCheckSpec}
    (nodup : (specs.map ReadinessCheckSpec.name).Nodup)
    {status : ServiceHealthStatus} :
    status ∈
        describedEntries sdk.describe (requiredNames specs)
          (registry.sdkChecks environment specs) ↔
      ∃ spec ∈ specs, ∃ elapsed report,
        registry.report environment spec = .settles elapsed report ∧
          sdk.describe spec.name spec.required elapsed
            (runOfReport spec report).outcome = status := by
  rw [sdkEntries, List.mem_filterMap]
  constructor
  · rintro ⟨spec, member, entry⟩
    cases settled : registry.report environment spec with
    | pending => rw [settled] at entry; cases entry
    | settles elapsed report =>
        rw [settled] at entry
        simp only [mem_requiredNames_iff nodup member, Bool.decide_eq_true,
          Option.some.injEq] at entry
        exact ⟨spec, member, elapsed, report, settled, entry⟩
  · rintro ⟨spec, member, elapsed, report, settled, equal⟩
    refine ⟨spec, member, ?_⟩
    rw [settled]
    simp only [mem_requiredNames_iff nodup member, Bool.decide_eq_true]
    exact congrArg some equal

/-- The SDK sees a required failure exactly when a required spec failed. -/
theorem aggregate_requiredFailure_iff (contract : sdk.Contract)
    {specs : List ReadinessCheckSpec}
    (nodup : (specs.map ReadinessCheckSpec.name).Nodup) :
    (sdk.aggregate (requiredNames specs)
        (registry.sdkChecks environment specs)).requiredFailure?.isSome ↔
      ∃ spec ∈ specs,
        spec.required = true ∧ registry.CheckFails environment spec := by
  rw [HealthCheckResult.requiredFailure?_isSome_iff]
  constructor
  · rintro ⟨status, member, required, notOk⟩
    rcases (mem_sdkEntries_iff nodup).mp member with
      ⟨spec, specMember, elapsed, report, settled, rfl⟩
    refine ⟨spec, specMember, ?_, elapsed, report, settled, ?_⟩
    · rwa [contract.describe_required] at required
    · exact (describe_fails_iff contract spec elapsed report).mp notOk
  · rintro ⟨spec, member, required, elapsed, report, settled, failure⟩
    exact
      ⟨_, (mem_sdkEntries_iff nodup).mpr
          ⟨spec, member, elapsed, report, settled, rfl⟩,
        by rw [contract.describe_required, required],
        (describe_fails_iff contract spec elapsed report).mpr failure⟩

/-- So does the merged result. -/
theorem mergedResult_requiredFailure_iff (contract : sdk.Contract)
    {specs : List ReadinessCheckSpec}
    (completes : registry.Completes environment specs) :
    (registry.mergedResult environment sdk
        specs).requiredFailure?.isSome ↔
      ∃ spec ∈ specs,
        spec.required = true ∧ registry.CheckFails environment spec := by
  rw [HealthCheckResult.requiredFailure?_isSome_iff]
  constructor
  · rintro ⟨status, member, required, notOk⟩
    rcases List.mem_flatMap.mp member with ⟨spec, specMember, inBlock⟩
    refine ⟨spec, specMember, ?_, ?_⟩
    · rw [← block_required contract inBlock, required]
    · exact
        (block_fails_iff contract completes specMember).mp
          ⟨status, inBlock, notOk⟩
  · rintro ⟨spec, member, required, failure⟩
    rcases (block_fails_iff contract completes member).mpr failure with
      ⟨status, inBlock, notOk⟩
    exact
      ⟨status, List.mem_flatMap.mpr ⟨spec, member, inBlock⟩,
        by rw [block_required contract inBlock, required], notOk⟩

/-! ## The law of `check` -/

/-- Every selected check completes, as far as the SDK can see. -/
theorem sdkChecks_complete {specs : List ReadinessCheckSpec}
    (completes : registry.Completes environment specs) :
    ∀ check ∈ registry.sdkChecks environment specs,
      check.2.value?.isSome := by
  intro check member
  rcases List.mem_map.mp member with ⟨spec, specMember, rfl⟩
  rcases exists_settles completes specMember with
    ⟨elapsed, report, settles⟩
  rw [run, settles]
  rfl

theorem settles_sdkTimings {specs : List ReadinessCheckSpec}
    (completes : registry.Completes environment specs) :
    ∀ timing ∈ sdkTimings (registry.sdkChecks environment specs),
      timing.2.value?.isSome := by
  intro timing member
  rcases List.mem_map.mp member with ⟨check, checkMember, rfl⟩
  have settled := sdkChecks_complete completes check checkMember
  rcases check with ⟨name, completion⟩
  cases completion with
  | pending => cases settled
  | settles elapsed outcome => rfl

/-- Every selected spec finishes in the order of the SDK. -/
theorem mem_finishOrder (contract : sdk.Contract)
    {specs : List ReadinessCheckSpec}
    (completes : registry.Completes environment specs)
    {parallel : Bool} {overall : Option ℚ}
    (inTime :
      sdk.overruns parallel overall
          (sdkTimings (registry.sdkChecks environment specs)) = false) :
    ∀ spec ∈ specs,
      spec.name ∈
        sdk.finishOrder parallel overall
          (sdkTimings (registry.sdkChecks environment specs)) := by
  intro spec member
  rw [(contract.finishOrder_perm parallel overall _
    (settles_sdkTimings completes) inTime).mem_iff]
  simp only [sdkTimings, sdkChecks, List.map_map, List.mem_map]
  exact ⟨spec, member, rfl⟩

/-- What `check` does when the overall timeout does not fire. -/
theorem check_eq (contract : sdk.Contract)
    (completes :
      registry.Completes environment (registry.selected names))
    {parallel : Bool} {overall : Option ℚ}
    (inTime :
      sdk.overruns parallel overall
          (sdkTimings
            (registry.sdkChecks environment (registry.selected names))) =
        false) :
    registry.check sdk environment names parallel overall =
      some
        (match
          (registry.mergedResult environment sdk
            (registry.selected names)).requiredFailure? with
        | some failure =>
            .error
              (.healthCheckError failure
                (registry.mergedResult environment sdk
                  (registry.selected names)))
        | none =>
            .ok
              (registry.mergedResult environment sdk
                (registry.selected names))) := by
  have nodup := registry.nodup_selected_names names
  have merged :=
    mergeStructuredResults_aggregate contract nodup completes
      (mem_finishOrder contract completes inTime)
  have agree :
      (sdk.aggregate (requiredNames (registry.selected names))
          (registry.sdkChecks environment
            (registry.selected names))).requiredFailure?.isSome ↔
        (registry.mergedResult environment sdk
          (registry.selected names)).requiredFailure?.isSome :=
    (aggregate_requiredFailure_iff contract nodup).trans
      (mergedResult_requiredFailure_iff contract completes).symm
  simp only [check]
  rw [contract.reply parallel overall _ _ (sdkChecks_complete completes)
    inTime]
  cases seen :
      (sdk.aggregate (requiredNames (registry.selected names))
        (registry.sdkChecks environment
          (registry.selected names))).requiredFailure? with
  | none =>
      cases shown :
          (registry.mergedResult environment sdk
            (registry.selected names)).requiredFailure? with
      | none => simp only [HealthCheckResult.sdkReply, seen, merged]
      | some failure => simp [seen, shown] at agree
  | some first =>
      cases shown :
          (registry.mergedResult environment sdk
            (registry.selected names)).requiredFailure? with
      | none => simp [seen, shown] at agree
      | some failure =>
          simp only [HealthCheckResult.sdkReply, seen, merged, shown]

/-- A result is yielded by return, or inside the raised error. -/
inductive Yields (result : HealthCheckResult) :
    Except CheckFailure HealthCheckResult → Prop where
  | returned : Yields result (.ok result)
  | raised (failure : ServiceHealthStatus) :
      Yields result (.error (.healthCheckError failure result))

/--
The law of `check` for checks and adapters which complete: one outcome for
parallel and sequential runs, one block of entries for each selected spec, and
an error exactly for a required failure.
-/
theorem check_law (contract : sdk.Contract)
    (completes :
      registry.Completes environment (registry.selected names)) :
    ∃ (outcome : Except CheckFailure HealthCheckResult)
      (result : HealthCheckResult)
      (block : ReadinessCheckSpec → List ServiceHealthStatus),
      (∀ parallel,
        registry.check sdk environment names parallel none =
          some outcome) ∧
      Yields result outcome ∧
      result.services = (registry.selected names).flatMap block ∧
      (∀ spec ∈ registry.selected names,
        block spec ≠ [] ∧
        (∃ elapsed report,
          registry.report environment spec = .settles elapsed report ∧
            BlockShape spec report (block spec)) ∧
        ((∃ status ∈ block spec, status.ok = false) ↔
          registry.CheckFails environment spec)) ∧
      (result.ok = true ↔
        ∀ spec ∈ registry.selected names,
          ¬ registry.CheckFails environment spec) ∧
      ((∃ failure, outcome = .error (.healthCheckError failure result)) ↔
        ∃ spec ∈ registry.selected names,
          spec.required = true ∧ registry.CheckFails environment spec) ∧
      (∀ failure,
        outcome = .error (.healthCheckError failure result) →
          failure ∈ result.services ∧ failure.required = true ∧
            failure.ok = false) := by
  have replies :=
    fun parallel =>
      check_eq contract completes (contract.overruns_none parallel _)
  have blocks :
      ∀ spec ∈ registry.selected names,
        registry.block environment sdk spec ≠ [] ∧
        (∃ elapsed report,
          registry.report environment spec = .settles elapsed report ∧
            BlockShape spec report
              (registry.block environment sdk spec)) ∧
        ((∃ status ∈ registry.block environment sdk spec,
            status.ok = false) ↔
          registry.CheckFails environment spec) := by
    intro spec member
    rcases block_shape contract completes member with
      ⟨elapsed, report, settles, shape⟩
    exact
      ⟨shape.nonempty, ⟨elapsed, report, settles, shape⟩,
        block_fails_iff contract completes member⟩
  have requiredFailure :=
    mergedResult_requiredFailure_iff contract completes
  cases shown :
      (registry.mergedResult environment sdk
        (registry.selected names)).requiredFailure? with
  | none =>
      simp only [shown] at replies
      refine
        ⟨_, _, _, replies, .returned, rfl, blocks,
          mergedResult_ok_iff contract completes, ?_, ?_⟩
      · rw [← requiredFailure, shown]
        simp
      · rintro failure ⟨⟩
  | some failure =>
      simp only [shown] at replies
      refine
        ⟨_, _, _, replies, .raised failure, rfl, blocks,
          mergedResult_ok_iff contract completes, ?_, ?_⟩
      · rw [← requiredFailure, shown]
        simp
      · rintro other ⟨⟩
        exact HealthCheckResult.requiredFailure?_eq_some shown

/-! ## Two failing checks -/

/-- A required check, and an optional check with structured results. -/
def databaseAndCache : ReadinessRegistry :=
  ofSpecs none
    [{ name := "database", check := .function 0 },
      { name := "cache", check := .function 1, required := false }]
    (by decide) (by decide)

/-- The database check returns `False`; one node of the cache is down. -/
def databaseAndCacheDown : CheckEnvironment where
  check spec :=
    if spec.name = "database" then
      .syncFunction (.settles 2 (.ok (.value (.bool false))))
    else
      .coroutineFunction
        (.settles 1
          (.ok
            (.healthCheckResult
              { ok := true
                services :=
                  [{ service := "north", ok := true },
                    { service := "south", ok := false }] })))
  adapter _ value := .ok (.value value)

theorem databaseAndCacheDown_completes :
    databaseAndCache.Completes databaseAndCacheDown
      (databaseAndCache.selected none) := by
  intro spec member
  have registered := databaseAndCache.mem_selected member
  simp only [databaseAndCache, specList_ofSpecs, List.mem_cons,
    List.not_mem_nil, or_false] at registered
  rcases registered with rfl | rfl <;> rfl

theorem check_law_databaseAndCache :
    ∃ (failure : ServiceHealthStatus) (result : HealthCheckResult),
      (∀ parallel,
        databaseAndCache.check .documented databaseAndCacheDown none
            parallel none =
          some (.error (.healthCheckError failure result))) ∧
      failure ∈ result.services ∧ result.ok = false := by
  rcases
    check_law HealthSdk.documented_contract
      databaseAndCacheDown_completes with
    ⟨outcome, result, block, same, yields, _, _, ok, raised, reported⟩
  have member :
      { name := "database", check := .function 0 } ∈
        databaseAndCache.selected none := by
    decide
  have fails :
      databaseAndCache.CheckFails databaseAndCacheDown
        { name := "database", check := .function 0 } :=
    ⟨_, _, rfl, .returnedFalse⟩
  rcases raised.mpr ⟨_, member, rfl, fails⟩ with ⟨failure, rfl⟩
  refine ⟨failure, result, same, (reported failure rfl).1, ?_⟩
  rw [← Bool.not_eq_true, ok]
  intro none
  exact none _ member fails

end ReadinessRegistry

end FastapiCore
