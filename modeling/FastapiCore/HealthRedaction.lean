import FastapiCore.HealthStatusLaw

/-!
# Error texts in the readiness response

Two requests are compared whose checks differ only in the error texts of specs
with `redact_errors`.  `concealReport` erases these texts from a report, and
`TextVariant` relates two environments whose reports agree once they are
erased.

The endpoint finds the redaction flag by the name of an entry, as it finds the
required flag.  The two responses agree exactly when every failing entry of a
redacting spec is governed by a redacting spec, apart from entries which a
later entry of the same name overwrites, and from requests which end in a
timeout or a failed lookup before any text is shown.
-/

namespace FastapiCore

open Library

/-! ## Erasing error texts -/

/-- An exception without its message. -/
def concealException (exception : PyExc) : PyExc :=
  { exception with message := "" }

/-- An entry without its error text. -/
def ServiceHealthStatus.withoutError (status : ServiceHealthStatus) :
    ServiceHealthStatus :=
  { status with error := none }

/-- An entry without its error text, if it failed. -/
def concealStatus (status : ServiceHealthStatus) : ServiceHealthStatus :=
  if status.ok then status else status.withoutError

/-- A report without the error texts of its failures. -/
def concealReport : Except PyExc CheckValue → Except PyExc CheckValue
  | .error exception => .error (concealException exception)
  | .ok (.serviceHealthStatus status) =>
      .ok (.serviceHealthStatus (concealStatus status))
  | .ok (.healthOutcome (.error exception) _) =>
      .ok (.healthOutcome (.error (concealException exception)) none)
  | .ok (.healthOutcome (.ok false) _) =>
      .ok (.healthOutcome (.ok false) none)
  | .ok (.healthCheckResult result) =>
      .ok
        (.healthCheckResult
          { result with services := result.services.map concealStatus })
  | .ok value => .ok value

/-- What two runs have to agree on in the report of a spec. -/
def observableReport (spec : ReadinessCheckSpec)
    (report : Except PyExc CheckValue) : Except PyExc CheckValue :=
  if spec.redactErrors then concealReport report else report

@[simp]
theorem concealStatus_ok (status : ServiceHealthStatus) :
    (concealStatus status).ok = status.ok := by
  rw [concealStatus]
  split_ifs <;> rfl

@[simp]
theorem concealStatus_service (status : ServiceHealthStatus) :
    (concealStatus status).service = status.service := by
  rw [concealStatus]
  split_ifs <;> rfl

theorem concealStatus_idem (status : ServiceHealthStatus) :
    concealStatus (concealStatus status) = concealStatus status := by
  rw [concealStatus, concealStatus_ok, concealStatus]
  split_ifs <;> rfl

theorem concealStatus_renameChild (parent : Name) (required : Bool)
    (status : ServiceHealthStatus) :
    concealStatus (renameChild parent required status) =
      renameChild parent required (concealStatus status) := by
  rw [concealStatus, concealStatus, renameChild]
  split_ifs <;> rfl

theorem all_ok_map_conceal (services : List ServiceHealthStatus) :
    (services.map concealStatus).all ServiceHealthStatus.ok =
      services.all ServiceHealthStatus.ok := by
  simp [Function.comp_def]

/-- The error text is all that an entry takes from the message. -/
structure HealthSdk.TextContract (sdk : HealthSdk) : Prop
    extends sdk.Contract where
  describe_cls :
    ∀ name required elapsed (first second : PyExc),
      first.cls = second.cls →
        (sdk.describe name required elapsed (.error first)).withoutError =
          (sdk.describe name required elapsed
            (.error second)).withoutError

theorem HealthSdk.documented_textContract :
    documented.TextContract where
  toContract := documented_contract
  describe_cls := by
    intro name required elapsed first second same
    simp [documented, documentedEntry,
      ServiceHealthStatus.withoutError, same]

variable {sdk : HealthSdk}

theorem concealStatus_describe (contract : sdk.TextContract)
    (name : Name) (required : Bool) (elapsed : ℚ)
    {first second : PyExc} (same : first.cls = second.cls) :
    concealStatus (sdk.describe name required elapsed (.error first)) =
      concealStatus
        (sdk.describe name required elapsed (.error second)) := by
  have notOk :
      ∀ exception : PyExc,
        (sdk.describe name required elapsed (.error exception)).ok =
          false := by
    intro exception
    rw [← Bool.not_eq_true, contract.describe_ok]
    nofun
  rw [concealStatus, concealStatus, notOk, notOk, if_neg nofun,
    if_neg nofun]
  exact contract.describe_cls name required elapsed first second same

theorem structuredResult_conceal (name : Name) (required : Bool)
    (result : HealthCheckResult) :
    structuredResult name
        { result with services := result.services.map concealStatus }
        required =
      { structuredResult name result required with
        services :=
          (structuredResult name result required).services.map
            concealStatus } := by
  simp [structuredResult, Function.comp_def, concealStatus_renameChild]

/-- A single status which is not ok is described like an exception. -/
theorem reportBlock_of_not_ok (spec : ReadinessCheckSpec) (elapsed : ℚ)
    {status : ServiceHealthStatus} (notOk : status.ok = false) :
    reportBlock sdk spec elapsed (.ok (.serviceHealthStatus status)) =
      [sdk.describe spec.name spec.required elapsed
        (.error
          (.runtimeError
            (orDefault status.error "service health check failed")))] := by
  simp [reportBlock, runOfReport, interpretValue, notOk, mergeEntry]

/-- Erasing the texts of a report erases them from its block. -/
theorem conceal_reportBlock (contract : sdk.TextContract)
    (spec : ReadinessCheckSpec) (elapsed : ℚ)
    (report : Except PyExc CheckValue) :
    (reportBlock sdk spec elapsed report).map concealStatus =
      (reportBlock sdk spec elapsed (concealReport report)).map
        concealStatus := by
  have failed :
      ∀ first second : PyExc, first.cls = second.cls →
        [sdk.describe spec.name spec.required elapsed
            (.error first)].map concealStatus =
          [sdk.describe spec.name spec.required elapsed
            (.error second)].map concealStatus :=
    fun first second same =>
      congrArg (fun status => [status])
        (concealStatus_describe contract _ _ _ same)
  cases report with
  | error exception => exact failed _ _ rfl
  | ok value =>
      cases value with
      | none | bool _ | sentinel _ => rfl
      | serviceHealthStatus status =>
          cases ok : status.ok with
          | true => simp [concealReport, concealStatus, ok]
          | false =>
              have stillNotOk : (concealStatus status).ok = false := by
                rw [concealStatus_ok, ok]
              simp only [concealReport]
              rw [reportBlock_of_not_ok spec elapsed ok,
                reportBlock_of_not_ok spec elapsed stillNotOk]
              exact failed _ _ rfl
      | healthOutcome ok error =>
          cases ok with
          | error exception => exact failed _ _ rfl
          | ok flag =>
              cases flag with
              | true => rfl
              | false => exact failed _ _ rfl
      | healthCheckResult result =>
          simp only [reportBlock, concealReport, runOfReport,
            interpretValue, structuredResult_conceal, mergeEntry,
            List.map_eq_nil_iff, all_ok_map_conceal]
          by_cases kept :
              (structuredResult spec.name result
                  spec.required).services = [] ∨
                ((structuredResult spec.name result
                    spec.required).ok = false ∧
                  (structuredResult spec.name result
                    spec.required).services.all
                      ServiceHealthStatus.ok = true)
          · rw [if_pos kept, if_pos kept]
          · rw [if_neg kept, if_neg kept, List.map_map]
            apply List.map_congr_left
            intro status _
            exact (concealStatus_idem status).symm

/-! ## Changing the reported values of an environment -/

/-- Change the value of a call, now or when it is awaited. -/
def Returned.mapValue {α β : Type} (change : α → β) :
    Returned α → Returned β
  | .value result => .value (change result)
  | .awaitable completion =>
      .awaitable (completion.map (Except.map change))

/-- Change the value which a check returns. -/
def CheckBehaviour.mapValue {α β : Type} (change : α → β) :
    CheckBehaviour α → CheckBehaviour β
  | .coroutineFunction completion =>
      .coroutineFunction (completion.map (Except.map change))
  | .syncFunction call =>
      .syncFunction (call.map (Except.map (Returned.mapValue change)))

theorem Returned.await_mapValue {α β : Type} (change : α → β)
    (returned : Returned α) :
    (returned.mapValue change).await =
      returned.await.map (Except.map change) := by
  cases returned <;> rfl

theorem CheckBehaviour.invoke_mapValue {α β : Type} (change : α → β)
    (behaviour : CheckBehaviour α) :
    (behaviour.mapValue change).invoke =
      behaviour.invoke.map (Except.map change) := by
  cases behaviour with
  | coroutineFunction completion => rfl
  | syncFunction call =>
      cases call with
      | pending => rfl
      | settles elapsed outcome =>
          cases outcome with
          | error exception => rfl
          | ok returned =>
              simp only [CheckBehaviour.mapValue, CheckBehaviour.invoke,
                Completion.map, Completion.andThen, Except.map,
                Returned.await_mapValue]
              cases returned.await <;> rfl

theorem waitFor_map {α β : Type} (change : α → β) (timeout : Option ℚ)
    (completion : Completion (Except PyExc α)) :
    waitFor timeout (completion.map (Except.map change)) =
      (waitFor timeout completion).map (Except.map change) := by
  cases timeout with
  | none => rfl
  | some limit =>
      cases completion with
      | pending => rfl
      | settles elapsed outcome =>
          simp only [Completion.map, waitFor]
          split_ifs <;> rfl

/-- Change what every check, or its adapter, reports. -/
def CheckEnvironment.mapReport
    (change : ReadinessCheckSpec → CheckValue → CheckValue)
    (environment : CheckEnvironment) : CheckEnvironment where
  check spec :=
    match spec.healthResultAdapter with
    | none => (environment.check spec).mapValue (change spec)
    | some _ => environment.check spec
  adapter spec value :=
    (environment.adapter spec value).map
      (Returned.mapValue (change spec))

theorem ReadinessRegistry.report_mapReport
    (registry : ReadinessRegistry) (environment : CheckEnvironment)
    (change : ReadinessCheckSpec → CheckValue → CheckValue)
    (spec : ReadinessCheckSpec) :
    registry.report (environment.mapReport change) spec =
      (registry.report environment spec).map
        (Except.map (change spec)) := by
  cases adapter : spec.healthResultAdapter with
  | none =>
      simp only [report, CheckEnvironment.mapReport, adapter, invokeCheck,
        CheckBehaviour.invoke_mapValue, waitFor_map]
      cases
        waitFor (registry.effectiveTimeout spec)
          (environment.check spec).invoke with
      | pending => rfl
      | settles elapsed outcome =>
          cases outcome with
          | error exception => rfl
          | ok value => rfl
  | some callable =>
      simp only [report, CheckEnvironment.mapReport, adapter]
      cases
        invokeCheck (environment.check spec)
          (registry.effectiveTimeout spec) with
      | pending => rfl
      | settles elapsed outcome =>
          cases outcome with
          | error exception => rfl
          | ok value =>
              simp only [Completion.andThen]
              cases environment.adapter spec value with
              | error exception => rfl
              | ok result =>
                  simp only [Except.map, Returned.await_mapValue]
                  cases result.await <;> rfl

/-- Give every failing child of a redacting spec the same error text. -/
def relabelChildren (text : String) (spec : ReadinessCheckSpec) :
    CheckValue → CheckValue
  | .healthCheckResult result =>
      if spec.redactErrors then
        .healthCheckResult
          { result with
            services :=
              result.services.map fun child =>
                if child.ok then child else { child with error := text } }
      else .healthCheckResult result
  | value => value

theorem observableReport_relabelChildren (text : String)
    (spec : ReadinessCheckSpec) (report : Except PyExc CheckValue) :
    observableReport spec (report.map (relabelChildren text spec)) =
      observableReport spec report := by
  cases redacts : spec.redactErrors with
  | false =>
      have unchanged : relabelChildren text spec = id := by
        ext value : 1
        cases value <;> simp [relabelChildren, redacts]
      rw [unchanged]
      cases report <;> rfl
  | true =>
      simp only [observableReport, redacts, if_true]
      cases report with
      | error exception => rfl
      | ok value =>
          cases value with
          | none | bool _ | sentinel _ | serviceHealthStatus _ => rfl
          | healthOutcome ok error => rfl
          | healthCheckResult result =>
              simp only [Except.map, relabelChildren, redacts, if_true,
                concealReport, List.map_map]
              congr 3
              apply List.map_congr_left
              intro child _
              rw [Function.comp_apply, concealStatus, concealStatus]
              cases ok : child.ok <;>
                simp [ok, ServiceHealthStatus.withoutError]

/-! ## Two environments which differ in error texts -/

/-- What two runs have to agree on in an entry of a spec. -/
def observableStatus (spec : ReadinessCheckSpec)
    (status : ServiceHealthStatus) : ServiceHealthStatus :=
  if spec.redactErrors then concealStatus status else status

theorem shownAs_observableStatus (spec : ReadinessCheckSpec)
    (status : ServiceHealthStatus) :
    shownAs spec (observableStatus spec status) = shownAs spec status := by
  rw [observableStatus]
  split_ifs <;> simp [shownAs]

theorem observable_reportBlock (contract : sdk.TextContract)
    (spec : ReadinessCheckSpec) (elapsed : ℚ)
    {first second : Except PyExc CheckValue}
    (same : observableReport spec first = observableReport spec second) :
    (reportBlock sdk spec elapsed first).map (observableStatus spec) =
      (reportBlock sdk spec elapsed second).map
        (observableStatus spec) := by
  cases redacts : spec.redactErrors with
  | false =>
      simp only [observableReport, redacts, Bool.false_eq_true,
        if_false] at same
      rw [same]
  | true =>
      simp only [observableReport, redacts, if_true] at same
      have observable : observableStatus spec = concealStatus := by
        ext status : 1
        exact if_pos redacts
      rw [observable, conceal_reportBlock contract spec elapsed first, same,
        ← conceal_reportBlock contract spec elapsed second]

theorem shownEntries_congr {spec : ReadinessCheckSpec}
    {first second : Except PyExc CheckValue}
    (same : observableReport spec first = observableReport spec second) :
    shownEntries spec first = shownEntries spec second := by
  have blocks :=
    congrArg (List.map (shownAs spec))
      (observable_reportBlock HealthSdk.documented_textContract spec 0
        same)
  simpa only [List.map_map, Function.comp_def, shownAs_observableStatus,
    map_reportBlock HealthSdk.documented_contract] using blocks

namespace ReadinessRegistry

variable {registry : ReadinessRegistry} {config : AppConfig}
  {environment variant : CheckEnvironment}

/--
The reports of two environments agree, up to the error texts of the specs with
`redact_errors`.
-/
def TextVariant (registry : ReadinessRegistry)
    (environment variant : CheckEnvironment) : Prop :=
  ∀ spec ∈ registry.specList,
    (registry.report variant spec).map (observableReport spec) =
      (registry.report environment spec).map (observableReport spec)

/-- A report and its variant arrive together, or neither does. -/
theorem TextVariant.report_cases
    (texts : registry.TextVariant environment variant)
    {spec : ReadinessCheckSpec} (member : spec ∈ registry.specList) :
    (registry.report environment spec = .pending ∧
        registry.report variant spec = .pending) ∨
      ∃ elapsed first second,
        registry.report environment spec = .settles elapsed first ∧
          registry.report variant spec = .settles elapsed second ∧
            observableReport spec second = observableReport spec first := by
  have same := texts spec member
  cases first : registry.report environment spec with
  | pending =>
      cases second : registry.report variant spec with
      | pending => exact Or.inl ⟨rfl, rfl⟩
      | settles elapsed report =>
          rw [first, second] at same
          cases same
  | settles elapsed report =>
      cases second : registry.report variant spec with
      | pending =>
          rw [first, second] at same
          cases same
      | settles later other =>
          rw [first, second, Completion.map, Completion.map,
            Completion.settles.injEq] at same
          rcases same with ⟨rfl, observable⟩
          exact Or.inr ⟨later, report, other, rfl, rfl, observable⟩

theorem TextVariant.completes
    (texts : registry.TextVariant environment variant)
    (completes : registry.Completes environment registry.specList) :
    registry.Completes variant registry.specList := by
  intro spec member
  rcases texts.report_cases member with
    ⟨pending, _⟩ | ⟨elapsed, first, second, _, settles, _⟩
  · have settled := completes spec member
    rw [pending] at settled
    cases settled
  · rw [settles]
    rfl

theorem TextVariant.timings
    (texts : registry.TextVariant environment variant) :
    sdkTimings (registry.sdkChecks variant registry.specList) =
      sdkTimings (registry.sdkChecks environment registry.specList) := by
  rw [sdkTimings, sdkChecks, List.map_map, sdkTimings, sdkChecks,
    List.map_map]
  apply List.map_congr_left
  intro spec member
  rcases texts.report_cases member with
    ⟨first, second⟩ | ⟨elapsed, _, _, first, second, _⟩
  · simp [run, first, second, Completion.map]
  · simp [run, first, second, Completion.map]

theorem TextVariant.timeoutFires_iff
    (texts : registry.TextVariant environment variant) :
    registry.TimeoutFires config sdk variant ↔
      registry.TimeoutFires config sdk environment := by
  rw [TimeoutFires, TimeoutFires, texts.timings]

/-- The names and flags in the result do not depend on error texts. -/
theorem TextVariant.shown
    (texts : registry.TextVariant environment variant) :
    registry.shown variant = registry.shown environment := by
  apply List.flatMap_congr
  intro spec member
  rcases texts.report_cases member with
    ⟨first, second⟩ | ⟨elapsed, _, _, first, second, same⟩
  · rw [first, second]
  · rw [first, second]
    exact shownEntries_congr same

/-- Neither does anything else but the error texts of redacting specs. -/
theorem TextVariant.produced (contract : sdk.TextContract)
    (texts : registry.TextVariant environment variant) :
    (registry.produced variant sdk).map
        (fun pair => (pair.1, observableStatus pair.1 pair.2)) =
      (registry.produced environment sdk).map
        fun pair => (pair.1, observableStatus pair.1 pair.2) := by
  rw [ReadinessRegistry.produced, ReadinessRegistry.produced,
    List.map_flatMap, List.map_flatMap]
  apply List.flatMap_congr
  intro spec member
  have blocks :
      (registry.block variant sdk spec).map (observableStatus spec) =
        (registry.block environment sdk spec).map
          (observableStatus spec) := by
    rcases texts.report_cases member with
      ⟨first, second⟩ | ⟨elapsed, _, _, first, second, same⟩
    · rw [block, block, first, second]
    · rw [block, block, first, second]
      exact observable_reportBlock contract spec elapsed same
  have paired := congrArg (List.map fun status => (spec, status)) blocks
  simpa only [List.map_map, Function.comp_def] using paired

/-- Whether a required entry failed does not depend on error texts. -/
theorem TextVariant.requiredFailure (contract : sdk.TextContract)
    (texts : registry.TextVariant environment variant) :
    (registry.mergedResult variant sdk
        registry.specList).requiredFailure?.isSome ↔
      (registry.mergedResult environment sdk
        registry.specList).requiredFailure?.isSome := by
  have observed :
      ∀ current : CheckEnvironment,
        (registry.mergedResult current sdk
            registry.specList).requiredFailure?.isSome ↔
          ∃ pair ∈
              (registry.produced current sdk).map
                (fun pair => (pair.1, observableStatus pair.1 pair.2)),
            pair.2.required = true ∧ pair.2.ok = false := by
    intro current
    have kept :
        ∀ pair : ReadinessCheckSpec × ServiceHealthStatus,
          (observableStatus pair.1 pair.2).required = pair.2.required ∧
            (observableStatus pair.1 pair.2).ok = pair.2.ok := by
      intro pair
      rw [observableStatus, concealStatus]
      split_ifs <;> exact ⟨rfl, rfl⟩
    rw [HealthCheckResult.requiredFailure?_isSome_iff,
      services_eq_map_produced]
    constructor
    · rintro ⟨status, member, failed⟩
      rcases List.mem_map.mp member with ⟨pair, inList, rfl⟩
      exact
        ⟨_, List.mem_map_of_mem inList,
          (kept pair).1.trans failed.1, (kept pair).2.trans failed.2⟩
    · rintro ⟨observed, member, failed⟩
      rcases List.mem_map.mp member with ⟨pair, inList, rfl⟩
      exact
        ⟨pair.2, List.mem_map_of_mem inList,
          (kept pair).1.symm.trans failed.1,
          (kept pair).2.symm.trans failed.2⟩
  rw [observed, observed, texts.produced contract]

/-! ## Details which do not show the erased texts -/

/--
Among these entries, a failing entry of a redacting spec which no later entry
overwrites is governed by a redacting spec only.
-/
def RedactsVisibly (registry : ReadinessRegistry)
    (entries : List ShownEntry) : Prop :=
  ∀ entry after, entry :: after <:+ entries →
    entry.name ∉ after.map ShownEntry.name →
      entry.ok = false → entry.producer.redactErrors = true →
        ∀ spec, registry.resolveSpec entry.name = .ok spec →
          spec.redactErrors = true

theorem visibleDetail_congr {spec : ReadinessCheckSpec}
    {first second : ServiceHealthStatus}
    (same : observableStatus spec first = observableStatus spec second)
    (redacts :
      first.ok = false → spec.redactErrors = true →
        ∀ governing, registry.resolveSpec first.service = .ok governing →
          governing.redactErrors = true) :
    registry.visibleDetail first = registry.visibleDetail second := by
  cases producer : spec.redactErrors with
  | false =>
      simp only [observableStatus, producer, Bool.false_eq_true,
        if_false] at same
      rw [same]
  | true =>
      simp only [observableStatus, producer, if_true] at same
      have sameOk : first.ok = second.ok := by
        simpa using congrArg ServiceHealthStatus.ok same
      have sameService : first.service = second.service := by
        simpa using congrArg ServiceHealthStatus.service same
      cases ok : first.ok with
      | true =>
          simp only [concealStatus, ok, ← sameOk, if_true] at same
          rw [same]
      | false =>
          simp only [concealStatus, ok, ← sameOk, Bool.false_eq_true,
            if_false] at same
          have sameLatency : first.latencyMs = second.latencyMs := by
            have equal := congrArg ServiceHealthStatus.latencyMs same
            exact equal
          rw [visibleDetail, visibleDetail, ← sameService, ← sameOk]
          cases governs : registry.resolveSpec first.service with
          | error exception => rfl
          | ok governing =>
              have hidden := redacts ok producer governing governs
              simp [detailUnder, policyError, hidden, ok, ← sameOk,
                sameLatency]

theorem lastValue_visibleDetails_congr
    {first second : List (ReadinessCheckSpec × ServiceHealthStatus)}
    (same :
      first.map
          (fun pair => (pair.1, observableStatus pair.1 pair.2)) =
        second.map fun pair =>
          (pair.1, observableStatus pair.1 pair.2))
    (redacts :
      registry.RedactsVisibly
        (first.map fun pair => shownAs pair.1 pair.2))
    (key : Name) :
    OrderedDict.lastValue
        (registry.visibleDetails (first.map Prod.snd)) key =
      OrderedDict.lastValue
        (registry.visibleDetails (second.map Prod.snd)) key := by
  induction first generalizing second with
  | nil =>
      rw [List.map_nil, eq_comm, List.map_eq_nil_iff] at same
      rw [same]
  | cons pair rest induction =>
      cases second with
      | nil => cases same
      | cons other others =>
          rw [List.map_cons, List.map_cons, List.cons.injEq,
            Prod.mk.injEq] at same
          rcases same with ⟨⟨sameSpec, sameStatus⟩, sameRest⟩
          rw [← sameSpec] at sameStatus
          have tail :=
            induction sameRest fun entry after suffix =>
              redacts entry after (suffix.trans (List.suffix_cons _ _))
          have sameService : pair.2.service = other.2.service := by
            have shownSame := congrArg (shownAs pair.1) sameStatus
            rw [shownAs_observableStatus, shownAs_observableStatus]
              at shownSame
            exact congrArg ShownEntry.name shownSame
          simp only [visibleDetails, List.map_cons,
            OrderedDict.lastValue] at tail ⊢
          rw [tail]
          cases later :
              OrderedDict.lastValue
                ((others.map Prod.snd).map fun service =>
                  (service.service, registry.visibleDetail service))
                key with
          | some detail => rfl
          | none =>
              rw [later] at tail
              by_cases named : pair.2.service = key
              · rw [if_pos named, if_pos (sameService ▸ named)]
                refine
                  congrArg (fun detail => Option.or none (some detail))
                    (visibleDetail_congr sameStatus ?_)
                intro notOk producer governing governs
                refine
                  redacts (shownAs pair.1 pair.2) _ (List.suffix_refl _) ?_
                    notOk producer governing governs
                rw [OrderedDict.lastValue_eq_none_iff, ← named] at tail
                simpa [shownAs, Function.comp_def] using tail
              · rw [if_neg named, if_neg (sameService ▸ named)]

/-! ## Lookups which fail -/

/-- A failing lookup raises the same exception in both runs. -/
theorem respond_error_congr {first second : HealthCheckResult}
    (names :
      first.services.map ServiceHealthStatus.service =
        second.services.map ServiceHealthStatus.service)
    {exception : PyExc}
    (raised : respond registry first = .error exception) :
    respond registry second = .error exception := by
  have lookups :
      ∀ result : HealthCheckResult,
        respond registry result = .error exception ↔
          (result.services.map ServiceHealthStatus.service).mapM
              registry.resolveSpec =
            .error exception := by
    intro result
    have details :
        (fun service : ServiceHealthStatus =>
            (readinessDetail registry service).map
              (service.service, ·)) =
          fun service =>
            (registry.resolveSpec service.service).map fun spec =>
              (service.service, registry.detailUnder spec service) := by
      ext service : 1
      rw [readinessDetail_eq]
      cases registry.resolveSpec service.service <;> rfl
    have loop :
        (result.services.mapM fun service =>
            (registry.resolveSpec service.service).map fun spec =>
              (service.service, registry.detailUnder spec service)) =
            .error exception ↔
          (result.services.map ServiceHealthStatus.service).mapM
              registry.resolveSpec =
            .error exception :=
      mapM_map_eq_error_iff
    rw [← loop, respond, collectDetails_eq, details]
    cases
      result.services.mapM fun service =>
        (registry.resolveSpec service.service).map fun spec =>
          (service.service, registry.detailUnder spec service) with
    | error other =>
        constructor
        · rintro ⟨⟩
          rfl
        · rintro ⟨⟩
          rfl
    | ok named =>
        constructor
        · rintro ⟨⟩
        · rintro ⟨⟩
  rw [lookups] at raised ⊢
  rwa [← names]

/-! ## The response -/

theorem textVariant_relabelChildren (text : String) :
    registry.TextVariant environment
      (environment.mapReport (relabelChildren text)) := by
  intro spec _
  rw [report_mapReport]
  cases registry.report environment spec with
  | pending => rfl
  | settles elapsed report =>
      exact
        congrArg (Completion.settles elapsed)
          (observableReport_relabelChildren text spec report)

/-- After relabelling, a failing child of a redacting spec shows the text. -/
theorem error_of_relabelChildren (contract : sdk.Contract)
    {text : String}
    {pair : ReadinessCheckSpec × ServiceHealthStatus}
    (member :
      pair ∈
        registry.produced (environment.mapReport (relabelChildren text))
          sdk)
    (notOk : pair.2.ok = false)
    (redacts : pair.1.redactErrors = true) :
    (pair.1 ∈ registry.specList ∧ pair.2.service = pair.1.name) ∨
      pair.2.error = some text := by
  rcases List.mem_flatMap.mp member with ⟨spec, specMember, inBlock⟩
  rcases List.mem_map.mp inBlock with ⟨status, statusMember, rfl⟩
  rw [block, report_mapReport] at statusMember
  cases settled : registry.report environment spec with
  | pending => rw [settled] at statusMember; cases statusMember
  | settles elapsed report =>
      rw [settled] at statusMember
      have shape :=
        reportBlock_shape contract spec elapsed
          (report.map (relabelChildren text spec))
      rcases shape.mem_cases statusMember with
        own | ⟨result, child, reported, childMember, renamed⟩
      · exact Or.inl ⟨specMember, own⟩
      · cases report with
        | error exception => cases reported
        | ok value =>
            cases value with
            | healthCheckResult original =>
                simp only [Except.map, relabelChildren] at reported
                rw [if_pos redacts] at reported
                cases reported
                rcases List.mem_map.mp childMember with
                  ⟨before, _, relabelled⟩
                rw [renamed] at notOk ⊢
                refine Or.inr ?_
                cases beforeOk : before.ok with
                | true =>
                    rw [if_pos beforeOk] at relabelled
                    rw [← relabelled] at notOk
                    simp [renameChild, beforeOk] at notOk
                | false =>
                    rw [if_neg (by simp [beforeOk])] at relabelled
                    rw [← relabelled]
                    rfl
            | none | bool _ | sentinel _ => cases reported
            | serviceHealthStatus _ | healthOutcome _ _ => cases reported

/-- A child governed by a spec without redaction shows its text. -/
theorem visibleText_of_relabelChildren (contract : sdk.TextContract)
    {text : String} (nonempty : text ≠ "")
    {entry : ShownEntry} {after : List ShownEntry}
    (suffix : entry :: after <:+ registry.shown environment)
    (last : entry.name ∉ after.map ShownEntry.name)
    (notOk : entry.ok = false)
    (redacts : entry.producer.redactErrors = true)
    {governing : ReadinessCheckSpec}
    (governs : registry.resolveSpec entry.name = .ok governing)
    (raw : governing.redactErrors = false) :
    ∃ detail,
      detail.error = some text ∧
        (registry.collected sdk
          (environment.mapReport
            (relabelChildren text))).details.get? entry.name =
          some detail := by
  have texts : registry.TextVariant environment
      (environment.mapReport (relabelChildren text)) :=
    textVariant_relabelChildren text
  rw [← texts.shown, ← registry.map_produced contract.toContract] at suffix
  rcases List.suffix_map_iff.mp suffix with ⟨pairs, pairSuffix, equal⟩
  cases pairs with
  | nil => cases equal
  | cons pair others =>
      rw [List.map_cons, List.cons.injEq] at equal
      rcases equal with ⟨rfl, rfl⟩
      have member :
          pair ∈
            registry.produced
              (environment.mapReport (relabelChildren text)) sdk :=
        pairSuffix.subset (List.mem_cons_self ..)
      have shownText : pair.2.error = some text := by
        rcases
          error_of_relabelChildren contract.toContract member notOk
            redacts with
          ⟨registered, own⟩ | shownText
        · have ownPolicy := resolveSpec_name registered
          rw [← own] at ownPolicy
          have same :
              (Except.ok pair.1 : Except PyExc ReadinessCheckSpec) =
                .ok governing :=
            ownPolicy.symm.trans governs
          cases same
          exact (Bool.noConfusion (raw.symm.trans redacts))
        · exact shownText
      refine ⟨registry.visibleDetail pair.2, ?_, ?_⟩
      · have failed : pair.2.ok = false := notOk
        rw [registry.visibleDetail_of_resolveSpec governs]
        simp [detailUnder, policyError, failed, raw, shownText, nonempty]
      · have detailSuffix :
            (pair.2.service, registry.visibleDetail pair.2) ::
                registry.visibleDetails (others.map Prod.snd) <:+
              registry.visibleDetails
                ((registry.produced
                  (environment.mapReport (relabelChildren text))
                  sdk).map Prod.snd) :=
          (pairSuffix.map Prod.snd).map
            fun service : ServiceHealthStatus =>
              (service.service, registry.visibleDetail service)
        have value :=
          OrderedDict.lastValue_of_suffix detailSuffix (by
            simpa [visibleDetails, shownAs, Function.comp_def] using last)
        rw [collected, details_foldl_store, services_eq_map_produced,
          OrderedDict.get?_foldl_insert]
        show
          (OrderedDict.lastValue _ pair.2.service).or _ =
            some (registry.visibleDetail pair.2)
        rw [value]
        rfl

/-- Two variants with the same visible details give the same reply. -/
theorem TextVariant.collected_reply (contract : sdk.TextContract)
    (texts : registry.TextVariant environment variant)
    (resolved :
      ∀ entry ∈ registry.shown environment,
        registry.Resolves entry.name)
    (redacts : registry.RedactsVisibly (registry.shown environment)) :
    (registry.collected sdk variant).reply =
      (registry.collected sdk environment).reply := by
  apply CollectedDetails.reply_congr
  · rw [collected, collected, details_foldl_store, details_foldl_store,
      services_eq_map_produced, services_eq_map_produced]
    have produced := texts.produced contract
    refine
      (OrderedDict.foldl_insert_empty_eq_iff ?_).mpr
        (lastValue_visibleDetails_congr produced ?_)
    · have names := congrArg (List.map fun pair => pair.2.service) produced
      have serviceOf :
          ∀ pair : ReadinessCheckSpec × ServiceHealthStatus,
            (observableStatus pair.1 pair.2).service = pair.2.service :=
        fun pair =>
          congrArg ShownEntry.name (shownAs_observableStatus pair.1 pair.2)
      simpa [visibleDetails, Function.comp_def, serviceOf] using names
    · rw [registry.map_produced contract.toContract, texts.shown]
      exact redacts
  · rw [collected_requiredFailure_iff contract.toContract
        (texts.shown ▸ resolved),
      collected_requiredFailure_iff contract.toContract resolved,
      texts.shown]
  · rw [← not_iff_not, ← Ne, ← Ne,
      collected_failures_ne_nil_iff contract.toContract,
      collected_failures_ne_nil_iff contract.toContract, texts.shown]

/-- Where all variants give the same reply, the shown texts are redacted. -/
theorem redactsVisibly_of_collected_reply (contract : sdk.TextContract)
    (same :
      ∀ variant, registry.TextVariant environment variant →
        (registry.collected sdk variant).reply =
          (registry.collected sdk environment).reply) :
    registry.RedactsVisibly (registry.shown environment) := by
  intro entry after suffix last notOk redacts governing governs
  rw [← Bool.not_eq_false]
  intro raw
  have shownText :
      ∀ text : String, text ≠ "" →
        ∃ detail,
          detail.error = some text ∧
            (registry.collected sdk environment).details.get? entry.name =
              some detail := by
    intro text nonempty
    rcases
      visibleText_of_relabelChildren contract nonempty suffix last notOk
        redacts governs raw with
      ⟨detail, error, found⟩
    have bodies :=
      congrArg (fun reply => reply.body.details)
        (same _ (textVariant_relabelChildren text))
    simp only [CollectedDetails.reply_details, Option.some.injEq] at bodies
    exact ⟨detail, error, bodies ▸ found⟩
  rcases shownText "first" (by decide) with ⟨_, first, found⟩
  rcases shownText "second" (by decide) with ⟨_, second, alsoFound⟩
  rw [found, Option.some.injEq] at alsoFound
  rw [← alsoFound, first] at second
  exact absurd second (by decide)

/-- A failed lookup ends both requests with the same exception. -/
theorem TextVariant.respond_eq_of_unresolved (contract : sdk.TextContract)
    (texts : registry.TextVariant environment variant)
    (unresolved :
      ∃ entry ∈ registry.shown environment,
        ¬ registry.Resolves entry.name) :
    respond registry
        (registry.mergedResult variant sdk registry.specList) =
      respond registry
        (registry.mergedResult environment sdk registry.specList) := by
  cases base :
      respond registry
        (registry.mergedResult environment sdk registry.specList) with
  | ok reply =>
      rcases unresolved with ⟨entry, member, missing⟩
      exact
        (missing
          ((resolves_services_iff contract.toContract).mp
            (respond_isOk_iff.mp ⟨reply, base⟩) entry member)).elim
  | error exception =>
      refine respond_error_congr ?_ base
      have names := congrArg (List.map ShownEntry.name) texts.shown.symm
      rw [← registry.map_produced contract.toContract,
        ← registry.map_produced contract.toContract, List.map_map,
        List.map_map] at names
      rw [services_eq_map_produced, services_eq_map_produced, List.map_map,
        List.map_map]
      exact names

theorem respond_mergedResult (contract : sdk.Contract)
    (resolved :
      ∀ entry ∈ registry.shown environment,
        registry.Resolves entry.name) :
    respond registry
        (registry.mergedResult environment sdk registry.specList) =
      .ok (registry.collected sdk environment).reply :=
  respond_eq_ok ((resolves_services_iff contract).mpr resolved)

/-- The responses of all variants agree. -/
theorem respond_textVariant_iff (contract : sdk.TextContract) :
    (∀ variant, registry.TextVariant environment variant →
        respond registry
            (registry.mergedResult variant sdk registry.specList) =
          respond registry
            (registry.mergedResult environment sdk registry.specList)) ↔
      (∃ entry ∈ registry.shown environment,
          ¬ registry.Resolves entry.name) ∨
        registry.RedactsVisibly (registry.shown environment) := by
  by_cases unresolved :
      ∃ entry ∈ registry.shown environment,
        ¬ registry.Resolves entry.name
  · refine ⟨fun _ => Or.inl unresolved, fun _ variant texts => ?_⟩
    exact texts.respond_eq_of_unresolved contract unresolved
  · have resolved :
        ∀ entry ∈ registry.shown environment,
          registry.Resolves entry.name := by
      push Not at unresolved
      exact unresolved
    constructor
    · intro same
      refine
        Or.inr (redactsVisibly_of_collected_reply contract fun variant
          texts => ?_)
      have equal := same variant texts
      rwa [respond_mergedResult contract.toContract resolved,
        respond_mergedResult contract.toContract (texts.shown ▸ resolved),
        Except.ok.injEq] at equal
    · rintro (missing | redacts) variant texts
      · exact (unresolved missing).elim
      · rw [respond_mergedResult contract.toContract resolved,
          respond_mergedResult contract.toContract
            (texts.shown ▸ resolved),
          texts.collected_reply contract resolved redacts]

/--
Requests which differ in the error texts of redacting specs get the same reply,
exactly when the overall timeout fires, a lookup fails, or the details shown
for failing entries of redacting specs are redacted.
-/
theorem readiness_textVariant_iff (contract : sdk.TextContract)
    (settled :
      registry.TimeoutFires config sdk environment ∨
        registry.Completes environment registry.specList) :
    (∀ variant, registry.TextVariant environment variant →
        readiness registry config sdk variant =
          readiness registry config sdk environment) ↔
      registry.TimeoutFires config sdk environment ∨
        (∃ entry ∈ registry.shown environment,
          ¬ registry.Resolves entry.name) ∨
        registry.RedactsVisibly (registry.shown environment) := by
  by_cases fires : registry.TimeoutFires config sdk environment
  · refine ⟨fun _ => Or.inl fires, fun _ variant texts => ?_⟩
    rw [readiness_of_timeoutFires contract.toContract fires,
      readiness_of_timeoutFires contract.toContract
        (texts.timeoutFires_iff.mpr fires)]
  have completes := settled.resolve_left fires
  simp only [fires, false_or]
  rw [← respond_textVariant_iff contract]
  apply forall₂_congr
  intro variant texts
  by_cases nonempty : registry.specList = []
  · have replies :
        readiness registry config sdk variant =
          readiness registry config sdk environment := by
      rw [readiness, readiness, if_pos nonempty, if_pos nonempty]
    have results :
        registry.mergedResult variant sdk registry.specList =
          registry.mergedResult environment sdk registry.specList := by
      rw [nonempty]
      rfl
    exact iff_of_true replies (congrArg _ results)
  · have quiet : ¬ registry.TimeoutFires config sdk variant :=
      fun variantFires => fires (texts.timeoutFires_iff.mp variantFires)
    rw [readiness_of_completes contract.toContract completes fires
        nonempty,
      readiness_of_completes contract.toContract
        (texts.completes completes) quiet nonempty,
      Option.some.injEq]

/-- Without dotted names no error text of a redacting spec is shown. -/
theorem redactsVisibly_of_dotFree
    (dotFree : ∀ spec ∈ registry.specList, '.' ∉ spec.name.toList) :
    registry.RedactsVisibly (registry.shown environment) := by
  intro entry after suffix _ _ redacts governing governs
  rw [resolveSpec_shown dotFree (suffix.subset (List.mem_cons_self ..)),
    Except.ok.injEq] at governs
  exact governs ▸ redacts

/-! ## A dotted name beside its first segment -/

/-- Without dotted names all texts are hidden from the reply. -/
theorem readiness_textVariant_databaseAndCache :
    (∀ spec ∈ databaseAndCache.specList, '.' ∉ spec.name.toList) ∧
      ∀ variant,
        databaseAndCache.TextVariant databaseAndCacheDown variant →
          readiness databaseAndCache {} .documented variant =
            readiness databaseAndCache {} .documented
              databaseAndCacheDown := by
  have dotFree :
      ∀ spec ∈ databaseAndCache.specList, '.' ∉ spec.name.toList := by
    decide
  have completes :
      databaseAndCache.Completes databaseAndCacheDown
        databaseAndCache.specList :=
    databaseAndCacheDown_completes
  refine ⟨dotFree, ?_⟩
  exact
    (readiness_textVariant_iff HealthSdk.documented_textContract
      (.inr completes)).mpr
      (.inr (.inr (redactsVisibly_of_dotFree dotFree)))

/-- A spec without redaction, and a redacting spec below its name. -/
def rawAboveRedacting : ReadinessRegistry :=
  ofSpecs none
    [{ name := "vault", check := .function 0, redactErrors := false },
      { name := "vault.token", check := .function 1 }]
    (by decide) (by decide)

/-- The redacting check reports a failing child with an error text. -/
def failingLease (text : String) : CheckEnvironment where
  check spec :=
    if spec.name = "vault" then
      .coroutineFunction (.settles 1 (.ok .none))
    else
      .coroutineFunction
        (.settles 1
          (.ok
            (.healthCheckResult
              { ok := true
                services :=
                  [{ service := "lease", ok := false
                     error := some text }] })))
  adapter _ value := .ok (.value value)

theorem failingLease_completes (text : String) :
    rawAboveRedacting.Completes (failingLease text)
      rawAboveRedacting.specList := by
  intro spec member
  simp only [rawAboveRedacting, specList_ofSpecs, List.mem_cons,
    List.not_mem_nil, or_false] at member
  rcases member with rfl | rfl <;> rfl

theorem failingLease_textVariant (first second : String) :
    rawAboveRedacting.TextVariant (failingLease first)
      (failingLease second) := by
  intro spec member
  simp only [rawAboveRedacting, specList_ofSpecs, List.mem_cons,
    List.not_mem_nil, or_false] at member
  rcases member with rfl | rfl <;> rfl

/-- The error text which a reply shows under a name. -/
def replyError (name : Name) (reply : HealthReply) : Option String := do
  let details ← reply.body.details
  let detail ← details.get? name
  detail.error

/-- Two runs which differ in a redacted text get different responses. -/
theorem readiness_textVariant_rawAboveRedacting :
    ¬ ∀ (registry : ReadinessRegistry) (config : AppConfig)
        (sdk : HealthSdk) (environment variant : CheckEnvironment),
        sdk.TextContract →
        registry.TimeoutFires config sdk environment ∨
          registry.Completes environment registry.specList →
        registry.TextVariant environment variant →
        readiness registry config sdk variant =
          readiness registry config sdk environment := by
  intro same
  have equal :=
    same rawAboveRedacting {} .documented (failingLease "s.4f1d")
      (failingLease "s.9c20") HealthSdk.documented_textContract
      (.inr (failingLease_completes _)) (failingLease_textVariant _ _)
  have shown :=
    congrArg (Option.map (Except.map (replyError "vault.token.lease")))
      equal
  have first :
      (readiness rawAboveRedacting {} .documented
          (failingLease "s.4f1d")).map
          (Except.map (replyError "vault.token.lease")) =
        some (.ok (some "s.4f1d")) := rfl
  have second :
      (readiness rawAboveRedacting {} .documented
          (failingLease "s.9c20")).map
          (Except.map (replyError "vault.token.lease")) =
        some (.ok (some "s.9c20")) := rfl
  rw [first, second] at shown
  simp at shown

end ReadinessRegistry

end FastapiCore
