import FastapiCore.HealthRouter
import FastapiCore.ReadinessCheckLaw

/-!
# The verdict of the readiness endpoint

The registry decides from the spec it ran whether a failure is required; the
endpoint decides it again from the name of each entry.  `ReadinessVerdict`
says which reply the outcome of the checks calls for, and
`GovernedAsProduced` says when the two decisions agree.  The endpoint meets
the verdict exactly when they do, or when the overall timeout fires.

They agree whenever no spec name has a dot, since the first segment of a
child's name is then its parent.  A dotted parent whose first segment is not
registered makes the endpoint raise, and one whose first segment is another
spec lends its children the policy of that spec.
-/

namespace FastapiCore

open Library

/-! ## The entries which the reports put into the result -/

/-- The children of a report which stand for it in the merged result. -/
def shownChildren : Except PyExc CheckValue → List ServiceHealthStatus
  | .ok (.healthCheckResult result) =>
      if result.ok = false ∧
          result.services.all ServiceHealthStatus.ok = true then []
      else result.services
  | _ => []

/-- One entry of the merged result: who produced it, its name and its flag. -/
structure ShownEntry where
  producer : ReadinessCheckSpec
  name : Name
  ok : Bool
deriving DecidableEq

/-- The entry of a health result, attributed to the spec it came from. -/
def shownAs (producer : ReadinessCheckSpec)
    (status : ServiceHealthStatus) : ShownEntry where
  producer
  name := status.service
  ok := status.ok

/-- The entries of one report. -/
def shownEntries (spec : ReadinessCheckSpec)
    (report : Except PyExc CheckValue) : List ShownEntry :=
  match shownChildren report with
  | [] =>
      [{ producer := spec
         name := spec.name
         ok := (runOfReport spec report).outcome.isOk }]
  | children =>
      children.map fun child =>
        { producer := spec
          name := childName spec.name child.service
          ok := child.ok }

theorem shownEntries_of_none
    {spec : ReadinessCheckSpec} {report : Except PyExc CheckValue}
    (none : shownChildren report = []) :
    shownEntries spec report =
      [{ producer := spec
         name := spec.name
         ok := (runOfReport spec report).outcome.isOk }] := by
  rw [shownEntries, none]

theorem shownEntries_of_children
    {spec : ReadinessCheckSpec} {report : Except PyExc CheckValue}
    (some : shownChildren report ≠ []) :
    shownEntries spec report =
      (shownChildren report).map fun child =>
        { producer := spec
          name := childName spec.name child.service
          ok := child.ok } := by
  rw [shownEntries]
  split
  · contradiction
  · rfl

/-- The block of a spec is what its report shows. -/
theorem map_reportBlock {sdk : HealthSdk} (contract : sdk.Contract)
    (spec : ReadinessCheckSpec) (elapsed : ℚ)
    (report : Except PyExc CheckValue) :
    (reportBlock sdk spec elapsed report).map (shownAs spec) =
      shownEntries spec report := by
  have own :
      [sdk.describe spec.name spec.required elapsed
          (runOfReport spec report).outcome].map (shownAs spec) =
        [{ producer := spec
           name := spec.name
           ok := (runOfReport spec report).outcome.isOk }] := by
    have flag :
        (sdk.describe spec.name spec.required elapsed
            (runOfReport spec report).outcome).ok =
          (runOfReport spec report).outcome.isOk := by
      rw [Bool.eq_iff_iff, contract.describe_ok]
      cases (runOfReport spec report).outcome <;>
        simp [Except.isOk, Except.toBool]
    rw [List.map_singleton, shownAs, contract.describe_service, flag]
  rw [reportBlock]
  cases stored : (runOfReport spec report).structured with
  | none =>
      rw [shownEntries_of_none, mergeEntry, own]
      cases report with
      | error exception => rfl
      | ok value =>
          cases value with
          | healthCheckResult result => cases stored
          | none | bool _ | serviceHealthStatus _ | sentinel _ => rfl
          | healthOutcome _ _ => rfl
  | some nested =>
      rcases runOfReport_structured stored with ⟨result, rfl, rfl⟩
      have childFlags :
          (structuredResult spec.name result spec.required).services.all
              ServiceHealthStatus.ok =
            result.services.all ServiceHealthStatus.ok := by
        simp [structuredResult, renameChild, Function.comp_def]
      simp only [mergeEntry, childFlags]
      split_ifs with kept
      · rw [own, shownEntries_of_none]
        rw [shownChildren]
        rcases kept with empty | ⟨notOk, childrenOk⟩
        · rw [structuredResult, List.map_eq_nil_iff] at empty
          simp [empty]
        · rw [structuredResult, childrenOk, Bool.and_true] at notOk
          exact if_pos ⟨notOk, childrenOk⟩
      · rcases not_or.mp kept with ⟨nonempty, visible⟩
        have shown :
            shownChildren (.ok (.healthCheckResult result)) =
              result.services := by
          refine if_neg ?_
          rintro ⟨notOk, childrenOk⟩
          exact visible ⟨by simp [structuredResult, notOk], childrenOk⟩
        rw [shownEntries_of_children]
        · rw [shown, structuredResult, List.map_map]
          rfl
        · rw [shown]
          simpa [structuredResult] using nonempty

namespace ReadinessRegistry

variable (registry : ReadinessRegistry)

/-- The entries of the merged result, from the reports of all checks. -/
def shown (environment : CheckEnvironment) : List ShownEntry :=
  registry.specList.flatMap fun spec =>
    match registry.report environment spec with
    | .pending => []
    | .settles _ report => shownEntries spec report

/-- The entries of the merged result with the specs they came from. -/
def produced (environment : CheckEnvironment) (sdk : HealthSdk) :
    List (ReadinessCheckSpec × ServiceHealthStatus) :=
  registry.specList.flatMap fun spec =>
    (registry.block environment sdk spec).map fun status => (spec, status)

theorem map_produced {sdk : HealthSdk} (contract : sdk.Contract)
    (environment : CheckEnvironment) :
    (registry.produced environment sdk).map
        (fun pair => shownAs pair.1 pair.2) =
      registry.shown environment := by
  rw [produced, shown, List.map_flatMap]
  apply List.flatMap_congr
  intro spec _
  rw [block]
  cases registry.report environment spec with
  | pending => rfl
  | settles elapsed report =>
      rw [List.map_map]
      exact map_reportBlock contract spec elapsed report

theorem services_eq_map_produced
    (environment : CheckEnvironment) (sdk : HealthSdk) :
    (registry.mergedResult environment sdk registry.specList).services =
      (registry.produced environment sdk).map Prod.snd := by
  rw [mergedResult, produced, List.map_flatMap]
  apply List.flatMap_congr
  intro spec _
  rw [List.map_map]
  exact (List.map_id _).symm

/-! ## The verdict -/

variable (config : AppConfig) (sdk : HealthSdk)
  (environment : CheckEnvironment)

/-- The overall timeout ends the checks of a request. -/
def TimeoutFires : Prop :=
  registry.specList ≠ [] ∧
    sdk.overruns config.readinessParallel
        config.readinessOverallTimeoutSeconds
        (sdkTimings (registry.sdkChecks environment registry.specList)) =
      true

/-- The check of some spec with this required flag failed. -/
def SomeFails (required : Bool) : Prop :=
  ∃ spec ∈ registry.specList,
    spec.required = required ∧ registry.CheckFails environment spec

/-- The reply which the outcome of the checks calls for. -/
structure ReadinessVerdict (reply : HealthReply) : Prop where
  error :
    reply.statusCode = 503 ∧ reply.body.status = .error ↔
      registry.TimeoutFires config sdk environment ∨
        registry.SomeFails environment true
  degraded :
    reply.statusCode = 200 ∧ reply.body.status = .degraded ↔
      ¬ registry.TimeoutFires config sdk environment ∧
        ¬ registry.SomeFails environment true ∧
          registry.SomeFails environment false
  ok :
    reply.statusCode = 200 ∧ reply.body.status = .ok ↔
      ¬ registry.TimeoutFires config sdk environment ∧
        ¬ registry.SomeFails environment true ∧
          ¬ registry.SomeFails environment false

/--
Every shown name resolves, and a failing entry is governed by a required spec
exactly when a required check failed.
-/
structure GovernedAsProduced : Prop where
  resolved :
    ∀ entry ∈ registry.shown environment, registry.Resolves entry.name
  required :
    (∃ entry ∈ registry.shown environment,
        entry.ok = false ∧
          ∃ spec,
            registry.resolveSpec entry.name = .ok spec ∧
              spec.required = true) ↔
      registry.SomeFails environment true

variable {registry config sdk environment}

theorem selected_none (registry : ReadinessRegistry) :
    registry.selected none = registry.specList :=
  List.filter_eq_self.mpr fun _ _ => rfl

theorem readiness_of_timeoutFires (contract : sdk.Contract)
    (fires : registry.TimeoutFires config sdk environment) :
    readiness registry config sdk environment =
      some (.ok (.jsonResponse 503 { status := .error })) := by
  rcases fires with ⟨nonempty, overruns⟩
  rw [readiness, if_neg nonempty, check, selected_none]
  simp only [contract.timeout _ _ _ _ overruns]

/-- The checks are in time unless the timeout fires. -/
theorem overruns_of_quiet
    (quiet : ¬ registry.TimeoutFires config sdk environment)
    (nonempty : registry.specList ≠ []) :
    sdk.overruns config.readinessParallel
        config.readinessOverallTimeoutSeconds
        (sdkTimings
          (registry.sdkChecks environment (registry.selected none))) =
      false := by
  rw [selected_none, ← Bool.not_eq_true]
  exact fun overruns => quiet ⟨nonempty, overruns⟩

/-- Without a timeout the endpoint responds to the merged result. -/
theorem readiness_of_completes (contract : sdk.Contract)
    (completes : registry.Completes environment registry.specList)
    (quiet : ¬ registry.TimeoutFires config sdk environment)
    (nonempty : registry.specList ≠ []) :
    readiness registry config sdk environment =
      some
        (respond registry
          (registry.mergedResult environment sdk registry.specList)) := by
  have inTime := overruns_of_quiet quiet nonempty
  rw [readiness, if_neg nonempty,
    check_eq contract (by rwa [selected_none]) inTime, selected_none]
  cases
    (registry.mergedResult environment sdk
      registry.specList).requiredFailure? <;> rfl

theorem mem_shown_iff (contract : sdk.Contract) {entry : ShownEntry} :
    entry ∈ registry.shown environment ↔
      ∃ pair ∈ registry.produced environment sdk,
        shownAs pair.1 pair.2 = entry := by
  rw [← registry.map_produced contract environment, List.mem_map]

theorem mem_services_iff {status : ServiceHealthStatus} :
    status ∈
        (registry.mergedResult environment sdk
          registry.specList).services ↔
      ∃ pair ∈ registry.produced environment sdk, pair.2 = status := by
  rw [services_eq_map_produced, List.mem_map]

theorem resolves_services_iff (contract : sdk.Contract) :
    (∀ service ∈
        (registry.mergedResult environment sdk
          registry.specList).services,
        registry.Resolves service.service) ↔
      ∀ entry ∈ registry.shown environment,
        registry.Resolves entry.name := by
  constructor
  · intro resolved entry member
    rcases (mem_shown_iff contract).mp member with ⟨pair, produced, rfl⟩
    exact resolved pair.2 (mem_services_iff.mpr ⟨pair, produced, rfl⟩)
  · intro resolved service member
    rcases mem_services_iff.mp member with ⟨pair, produced, rfl⟩
    exact
      resolved (shownAs pair.1 pair.2)
        ((mem_shown_iff contract).mpr ⟨pair, produced, rfl⟩)

/-- A failing entry with a given policy, among the details or the entries. -/
theorem exists_failure_iff (contract : sdk.Contract)
    (required : Bool) :
    (∃ failure ∈
        (registry.visibleDetails
          (registry.mergedResult environment sdk
            registry.specList).services).filter fun pair => !pair.2.ok,
        registry.Resolves failure.1 ∧ failure.2.required = required) ↔
      ∃ entry ∈ registry.shown environment,
        entry.ok = false ∧
          ∃ spec,
            registry.resolveSpec entry.name = .ok spec ∧
              spec.required = required := by
  constructor
  · rintro ⟨failure, member, ⟨spec, governs⟩, policy⟩
    rcases List.mem_filter.mp member with ⟨detail, notOk⟩
    rcases List.mem_map.mp detail with ⟨service, serviceMember, rfl⟩
    rcases mem_services_iff.mp serviceMember with ⟨pair, produced, rfl⟩
    refine
      ⟨shownAs pair.1 pair.2,
        (mem_shown_iff contract).mpr ⟨pair, produced, rfl⟩,
        (by simpa using notOk : pair.2.ok = false), spec, governs, ?_⟩
    rw [registry.visibleDetail_of_resolveSpec governs] at policy
    exact policy
  · rintro ⟨entry, member, notOk, spec, governs, policy⟩
    rcases (mem_shown_iff contract).mp member with ⟨pair, produced, rfl⟩
    have failed : pair.2.ok = false := notOk
    refine
      ⟨(pair.2.service, registry.visibleDetail pair.2), ?_,
        ⟨spec, governs⟩, ?_⟩
    · refine List.mem_filter.mpr ⟨?_, ?_⟩
      · exact
          List.mem_map_of_mem
            (mem_services_iff.mpr ⟨pair, produced, rfl⟩)
      · simp [failed]
    · rw [registry.visibleDetail_of_resolveSpec governs]
      exact policy

/-- Some entry fails exactly when some check failed. -/
theorem shown_fails_iff (contract : sdk.Contract)
    (completes : registry.Completes environment registry.specList) :
    (∃ entry ∈ registry.shown environment, entry.ok = false) ↔
      registry.SomeFails environment true ∨
        registry.SomeFails environment false := by
  have some :
      (∃ entry ∈ registry.shown environment, entry.ok = false) ↔
        ∃ spec ∈ registry.specList,
          registry.CheckFails environment spec := by
    constructor
    · rintro ⟨entry, member, notOk⟩
      rcases (mem_shown_iff contract).mp member with ⟨pair, inList, rfl⟩
      rcases List.mem_flatMap.mp inList with ⟨spec, specMember, inBlock⟩
      rcases List.mem_map.mp inBlock with ⟨status, statusMember, rfl⟩
      exact
        ⟨spec, specMember,
          (block_fails_iff contract completes specMember).mp
            ⟨status, statusMember, notOk⟩⟩
    · rintro ⟨spec, member, failure⟩
      rcases (block_fails_iff contract completes member).mpr failure with
        ⟨status, inBlock, notOk⟩
      exact
        ⟨shownAs spec status,
          (mem_shown_iff contract).mpr
            ⟨(spec, status),
              List.mem_flatMap.mpr
                ⟨spec, member, List.mem_map_of_mem inBlock⟩, rfl⟩,
          notOk⟩
  rw [some]
  constructor
  · rintro ⟨spec, member, failure⟩
    cases required : spec.required with
    | true => exact Or.inl ⟨spec, member, required, failure⟩
    | false => exact Or.inr ⟨spec, member, required, failure⟩
  · rintro (⟨spec, member, _, failure⟩ | ⟨spec, member, _, failure⟩)
    · exact ⟨spec, member, failure⟩
    · exact ⟨spec, member, failure⟩

/-- The variables of the loop over the merged result. -/
def collected (registry : ReadinessRegistry) (sdk : HealthSdk)
    (environment : CheckEnvironment) : CollectedDetails :=
  (registry.visibleDetails
    (registry.mergedResult environment sdk
      registry.specList).services).foldl CollectedDetails.store {}

theorem collected_failures :
    (registry.collected sdk environment).failures =
      (registry.visibleDetails
        (registry.mergedResult environment sdk
          registry.specList).services).filter fun pair => !pair.2.ok := by
  rw [collected, failures_foldl_store]
  rfl

theorem collected_requiredFailure_iff (contract : sdk.Contract)
    (resolved :
      ∀ entry ∈ registry.shown environment,
        registry.Resolves entry.name) :
    (registry.collected sdk environment).RequiredFailure ↔
      ∃ entry ∈ registry.shown environment,
        entry.ok = false ∧
          ∃ spec,
            registry.resolveSpec entry.name = .ok spec ∧
              spec.required = true := by
  rw [← exists_failure_iff contract true, CollectedDetails.RequiredFailure,
    collected_failures]
  constructor
  · rintro ⟨failure, member, required⟩
    rcases List.mem_map.mp (List.mem_filter.mp member).1 with
      ⟨service, serviceMember, rfl⟩
    exact
      ⟨_, member,
        (resolves_services_iff contract).mpr resolved service serviceMember,
        required⟩
  · rintro ⟨failure, member, _, required⟩
    exact ⟨failure, member, required⟩

theorem collected_failures_ne_nil_iff (contract : sdk.Contract) :
    (registry.collected sdk environment).failures ≠ [] ↔
      ∃ entry ∈ registry.shown environment, entry.ok = false := by
  rw [collected_failures, Ne, List.filter_eq_nil_iff]
  push Not
  constructor
  · rintro ⟨detail, member, notOk⟩
    rcases List.mem_map.mp member with ⟨service, serviceMember, rfl⟩
    rcases mem_services_iff.mp serviceMember with ⟨pair, produced, rfl⟩
    have failed : pair.2.ok = false := by simpa using notOk
    exact
      ⟨shownAs pair.1 pair.2,
        (mem_shown_iff contract).mpr ⟨pair, produced, rfl⟩, failed⟩
  · rintro ⟨entry, member, notOk⟩
    rcases (mem_shown_iff contract).mp member with ⟨pair, produced, rfl⟩
    have failed : pair.2.ok = false := notOk
    exact
      ⟨_, List.mem_map_of_mem (mem_services_iff.mpr ⟨pair, produced, rfl⟩),
        by simp [failed]⟩

/-- The reply meets the verdict when the two decisions agree. -/
theorem verdict_reply_iff (contract : sdk.Contract)
    (completes : registry.Completes environment registry.specList)
    (quiet : ¬ registry.TimeoutFires config sdk environment)
    (resolved :
      ∀ entry ∈ registry.shown environment,
        registry.Resolves entry.name) :
    registry.ReadinessVerdict config sdk environment
        (registry.collected sdk environment).reply ↔
      registry.GovernedAsProduced environment := by
  have required := collected_requiredFailure_iff contract resolved
  have failed :=
    (collected_failures_ne_nil_iff contract).trans
      (shown_fails_iff contract completes)
  constructor
  · intro verdict
    refine ⟨resolved, ?_⟩
    rw [← required, ← CollectedDetails.reply_error_iff, verdict.error]
    simp only [quiet, false_or]
  · intro governed
    have agree := required.trans governed.required
    refine ⟨?_, ?_, ?_⟩
    · rw [CollectedDetails.reply_error_iff, agree]
      simp only [quiet, false_or]
    · rw [CollectedDetails.reply_degraded_iff, agree, failed]
      simp only [quiet, not_false_eq_true, true_and]
      tauto
    · rw [CollectedDetails.reply_ok_iff, ← not_iff_not, ← Ne, failed]
      simp only [quiet, not_false_eq_true, true_and]
      tauto

/--
The endpoint answers, and as the outcome of the checks calls for, exactly when
the overall timeout fires or every entry is governed as it was produced.
-/
theorem readiness_verdict_iff (contract : sdk.Contract)
    (settled :
      registry.TimeoutFires config sdk environment ∨
        registry.Completes environment registry.specList) :
    (∃ reply,
        readiness registry config sdk environment = some (.ok reply) ∧
          registry.ReadinessVerdict config sdk environment reply) ↔
      registry.TimeoutFires config sdk environment ∨
        registry.GovernedAsProduced environment := by
  by_cases fires : registry.TimeoutFires config sdk environment
  · refine ⟨fun _ => Or.inl fires, fun _ => ?_⟩
    exact
      ⟨_, readiness_of_timeoutFires contract fires,
        ⟨by simp [fires, HealthReply.statusCode, HealthReply.body],
          by simp [fires, HealthReply.statusCode],
          by simp [fires, HealthReply.statusCode]⟩⟩
  · have completes := settled.resolve_left fires
    simp only [fires, false_or]
    by_cases nonempty : registry.specList ≠ []
    · rw [readiness_of_completes contract completes fires nonempty]
      simp only [Option.some.injEq]
      constructor
      · rintro ⟨reply, responded, verdict⟩
        have resolved := respond_isOk_iff.mp ⟨reply, responded⟩
        rw [respond_eq_ok resolved, Except.ok.injEq] at responded
        subst responded
        exact
          (verdict_reply_iff contract completes fires
            ((resolves_services_iff contract).mp resolved)).mp verdict
      · intro governed
        exact
          ⟨_,
            respond_eq_ok
              ((resolves_services_iff contract).mpr governed.resolved),
            (verdict_reply_iff contract completes fires
              governed.resolved).mpr governed⟩
    · rw [not_not] at nonempty
      have noneFails :
          ∀ required, ¬ registry.SomeFails environment required := by
        rintro required ⟨spec, member, _⟩
        rw [nonempty] at member
        cases member
      have noneShown : registry.shown environment = [] := by
        rw [shown, nonempty]
        rfl
      constructor
      · intro _
        exact ⟨by simp [noneShown], by simp [noneShown, noneFails]⟩
      · intro _
        refine ⟨_, if_pos nonempty, ?_, ?_, ?_⟩ <;>
          simp [fires, noneFails, HealthReply.statusCode, HealthReply.body]

/-! ## Names without dots -/

/-- An entry of a registry without dotted names is governed by its producer. -/
theorem resolveSpec_shown
    (dotFree : ∀ spec ∈ registry.specList, '.' ∉ spec.name.toList)
    {entry : ShownEntry} (member : entry ∈ registry.shown environment) :
    registry.resolveSpec entry.name = .ok entry.producer := by
  rcases List.mem_flatMap.mp member with ⟨spec, specMember, inEntries⟩
  cases settled : registry.report environment spec with
  | pending => rw [settled] at inEntries; cases inEntries
  | settles elapsed report =>
      have inReport : entry ∈ shownEntries spec report := by
        rw [settled] at inEntries
        exact inEntries
      by_cases children : shownChildren report = []
      · rw [shownEntries_of_none children] at inReport
        cases List.mem_singleton.mp inReport
        exact resolveSpec_name specMember
      · rw [shownEntries_of_children children] at inReport
        rcases List.mem_map.mp inReport with ⟨child, _, rfl⟩
        refine
          resolveSpec_childName specMember (dotFree spec specMember) _ ?_
        intro shadowed
        rw [names_eq_map] at shadowed
        rcases List.mem_map.mp shadowed with ⟨other, otherMember, named⟩
        refine dotFree other otherMember ?_
        rw [named]
        simp [childName, String.toList_append]

theorem governedAsProduced_of_dotFree (contract : sdk.Contract)
    (completes : registry.Completes environment registry.specList)
    (dotFree : ∀ spec ∈ registry.specList, '.' ∉ spec.name.toList) :
    registry.GovernedAsProduced environment where
  resolved entry member := ⟨_, resolveSpec_shown dotFree member⟩
  required := by
    constructor
    · rintro ⟨entry, member, notOk, spec, governs, required⟩
      rw [resolveSpec_shown dotFree member, Except.ok.injEq] at governs
      subst governs
      rcases (mem_shown_iff contract).mp member with ⟨pair, inList, rfl⟩
      rcases List.mem_flatMap.mp inList with ⟨spec, specMember, inBlock⟩
      rcases List.mem_map.mp inBlock with ⟨status, statusMember, rfl⟩
      exact
        ⟨spec, specMember, required,
          (block_fails_iff contract completes specMember).mp
            ⟨status, statusMember, notOk⟩⟩
    · rintro ⟨spec, specMember, required, failure⟩
      rcases (block_fails_iff contract completes specMember).mpr failure
        with ⟨status, statusMember, notOk⟩
      have member :
          shownAs spec status ∈ registry.shown environment :=
        (mem_shown_iff contract).mpr
          ⟨(spec, status),
            List.mem_flatMap.mpr
              ⟨spec, specMember, List.mem_map_of_mem statusMember⟩, rfl⟩
      exact
        ⟨_, member, notOk, spec, resolveSpec_shown dotFree member, required⟩

/-- Without dotted names the endpoint answers as the checks call for. -/
theorem readiness_verdict_of_dotFree (contract : sdk.Contract)
    (completes : registry.Completes environment registry.specList)
    (dotFree : ∀ spec ∈ registry.specList, '.' ∉ spec.name.toList) :
    ∃ reply,
      readiness registry config sdk environment = some (.ok reply) ∧
        registry.ReadinessVerdict config sdk environment reply :=
  (readiness_verdict_iff contract (.inr completes)).mpr
    (.inr (governedAsProduced_of_dotFree contract completes dotFree))

/-! ## A dotted parent -/

theorem readiness_verdict_databaseAndCache :
    ∃ reply,
      readiness databaseAndCache {} .documented databaseAndCacheDown =
          some (.ok reply) ∧
        databaseAndCache.ReadinessVerdict {} .documented
          databaseAndCacheDown reply :=
  have completes :
      databaseAndCache.Completes databaseAndCacheDown
        databaseAndCache.specList :=
    databaseAndCacheDown_completes
  have dotFree :
      ∀ spec ∈ databaseAndCache.specList, '.' ∉ spec.name.toList := by
    decide
  (readiness_verdict_iff HealthSdk.documented_contract
    (.inr completes)).mpr
    (.inr
      (governedAsProduced_of_dotFree HealthSdk.documented_contract
        completes dotFree))

/-- One required check whose name has a dot. -/
def dottedParent : ReadinessRegistry :=
  ofSpecs none [{ name := "db.primary", check := .function 0 }]
    (by decide) (by decide)

/-- The check succeeds with one healthy child. -/
def healthyReplica : CheckEnvironment where
  check _ :=
    .coroutineFunction
      (.settles 1
        (.ok
          (.healthCheckResult
            { ok := true
              services := [{ service := "replica", ok := true }] })))
  adapter _ value := .ok (.value value)

theorem healthyReplica_completes :
    dottedParent.Completes healthyReplica dottedParent.specList := by
  intro spec member
  simp only [dottedParent, specList_ofSpecs, List.mem_singleton] at member
  subst member
  rfl

theorem readiness_dottedParent :
    readiness dottedParent {} .documented healthyReplica =
      some (.error (.keyError "db")) :=
  rfl

/-- A healthy dotted parent ends the request in an exception. -/
theorem readiness_verdict_dottedParent :
    ¬ ∀ (registry : ReadinessRegistry) (config : AppConfig)
        (sdk : HealthSdk) (environment : CheckEnvironment),
        sdk.Contract →
        registry.TimeoutFires config sdk environment ∨
          registry.Completes environment registry.specList →
        ∃ reply,
          readiness registry config sdk environment = some (.ok reply) ∧
            registry.ReadinessVerdict config sdk environment reply := by
  intro verdict
  rcases
    verdict dottedParent {} .documented healthyReplica
      HealthSdk.documented_contract (.inr healthyReplica_completes) with
    ⟨reply, answered, _⟩
  rw [readiness_dottedParent] at answered
  cases answered

end ReadinessRegistry

end FastapiCore
