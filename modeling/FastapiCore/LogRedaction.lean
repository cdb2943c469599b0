import FastapiCore.HealthRedaction
import FastapiCore.ReadinessLogging

/-!
# Error texts in the log of a readiness request

Two requests are compared whose checks differ only in the messages of the
exceptions which checks with `redact_errors` raise.  The wrapper around each
function which the exception passes on its way up writes the formatted
exception, so the message reaches the log as soon as such an exception is
raised, whatever the response shows.

The two logs agree exactly when the logger of the readiness module is not
enabled for errors, or no check of a redacting spec gets to raise: each of
them returns, is cut off by its own timeout, or is cancelled by the overall
timeout before its records are written.
-/

namespace FastapiCore

open Library

/-! ## Changing the exceptions of a check -/

/-- An ordinary exception without its message. -/
def concealRaise (exception : PyExc) : PyExc :=
  if exception.cls.isException then concealException exception
  else exception

/-- Change the exception of a call, now or when it is awaited. -/
def Returned.mapRaise {α : Type} (change : PyExc → PyExc) :
    Returned α → Returned α
  | .value result => .value result
  | .awaitable completion =>
      .awaitable (completion.map (Except.mapError change))

/-- Change the exception which a check raises. -/
def CheckBehaviour.mapRaise {α : Type} (change : PyExc → PyExc) :
    CheckBehaviour α → CheckBehaviour α
  | .coroutineFunction completion =>
      .coroutineFunction (completion.map (Except.mapError change))
  | .syncFunction call =>
      .syncFunction
        (call.map fun outcome =>
          (outcome.map (Returned.mapRaise change)).mapError change)

theorem CheckBehaviour.invoke_mapRaise {α : Type}
    (change : PyExc → PyExc) (behaviour : CheckBehaviour α) :
    (behaviour.mapRaise change).invoke =
      behaviour.invoke.map (Except.mapError change) := by
  cases behaviour with
  | coroutineFunction completion => rfl
  | syncFunction call =>
      cases call with
      | pending => rfl
      | settles elapsed outcome =>
          cases outcome with
          | error exception => rfl
          | ok returned =>
              cases returned with
              | value result => rfl
              | awaitable completion => cases completion <;> rfl

theorem CheckBehaviour.mapRaise_mapRaise {α : Type}
    (first second : PyExc → PyExc) (behaviour : CheckBehaviour α) :
    (behaviour.mapRaise first).mapRaise second =
      behaviour.mapRaise (second ∘ first) := by
  have completions :
      ∀ completion : Completion (Except PyExc α),
        (completion.map (Except.mapError first)).map
            (Except.mapError second) =
          completion.map (Except.mapError (second ∘ first)) := by
    intro completion
    cases completion with
    | pending => rfl
    | settles elapsed outcome => cases outcome <;> rfl
  cases behaviour with
  | coroutineFunction completion =>
      exact congrArg coroutineFunction (completions completion)
  | syncFunction call =>
      cases call with
      | pending => rfl
      | settles elapsed outcome =>
          cases outcome with
          | error exception => rfl
          | ok returned =>
              cases returned with
              | value result => rfl
              | awaitable completion =>
                  exact
                    congrArg
                      (fun mapped =>
                        syncFunction
                          (.settles elapsed (.ok (.awaitable mapped))))
                      (completions completion)

/-! ## Giving every raise of a redacting check the same message -/

/-- An ordinary exception with another message. -/
def relabelRaise (text : String) (exception : PyExc) : PyExc :=
  if exception.cls.isException then { exception with message := text }
  else exception

theorem concealRaise_relabelRaise (text : String) (exception : PyExc) :
    concealRaise (relabelRaise text exception) = concealRaise exception := by
  cases ordinary : exception.cls.isException <;>
    simp [concealRaise, relabelRaise, concealException, ordinary]

/-- Give every exception which a redacting check raises the same message. -/
def CheckEnvironment.relabelRaises (text : String)
    (environment : CheckEnvironment) : CheckEnvironment where
  check spec :=
    if spec.redactErrors then
      (environment.check spec).mapRaise (relabelRaise text)
    else environment.check spec
  adapter := environment.adapter

/-- A formatted exception shows its message. -/
theorem formatExceptionOnly_injective {exception : PyExc}
    {first second : String} (firstNonempty : first ≠ "")
    (secondNonempty : second ≠ "")
    (same :
      formatExceptionOnly { exception with message := first } =
        formatExceptionOnly { exception with message := second }) :
    first = second := by
  rw [formatExceptionOnly, formatExceptionOnly, if_neg firstNonempty,
    if_neg secondNonempty, ← String.toList_inj] at same
  simp only [String.toList_append, List.append_assoc,
    List.append_cancel_left_eq, List.append_cancel_right_eq] at same
  exact String.toList_inj.mp same

/-! ## Two environments which differ in messages -/

/-- What two runs have to agree on in the behaviour of a check. -/
def observableCheck (spec : ReadinessCheckSpec)
    (behaviour : CheckBehaviour CheckValue) : CheckBehaviour CheckValue :=
  if spec.redactErrors then behaviour.mapRaise concealRaise else behaviour

namespace ReadinessRegistry

variable {registry : ReadinessRegistry} {config : AppConfig}
  {environment variant : CheckEnvironment} {sdk : HealthSdk}
  {logging : RequestLogging}

/--
The checks of two environments agree, up to the messages of the exceptions
which the checks of specs with `redact_errors` raise.
-/
structure RaiseVariant (registry : ReadinessRegistry)
    (environment variant : CheckEnvironment) : Prop where
  check :
    ∀ spec ∈ registry.specList,
      observableCheck spec (variant.check spec) =
        observableCheck spec (environment.check spec)
  adapter :
    ∀ spec ∈ registry.specList,
      variant.adapter spec = environment.adapter spec

/-- The check of a spec raises an ordinary exception before its timeout. -/
def RaisesInTime (registry : ReadinessRegistry)
    (environment : CheckEnvironment) (spec : ReadinessCheckSpec)
    (exception : PyExc) : Prop :=
  exception.cls.isException = true ∧
    expires (registry.effectiveTimeout spec)
        (environment.check spec).invoke =
      false ∧
    ∃ elapsed,
      (environment.check spec).invoke = .settles elapsed (.error exception)

theorem concealRaise_eq_iff {first second : PyExc}
    (same : concealRaise second = concealRaise first) :
    second = first ∨
      first.cls.isException = true ∧
        second = { first with message := second.message } := by
  rcases first with ⟨firstCls, firstMessage, firstNotes, firstMembers⟩
  rcases second with ⟨secondCls, secondMessage, secondNotes, secondMembers⟩
  cases firstKind : firstCls.isException with
  | true =>
      cases secondKind : secondCls.isException with
      | true =>
          simp only [concealRaise, concealException, firstKind, secondKind,
            if_true, PyExc.mk.injEq] at same
          rcases same with ⟨rfl, _, rfl, rfl⟩
          exact Or.inr ⟨rfl, rfl⟩
      | false =>
          simp only [concealRaise, concealException, firstKind, secondKind,
            if_true, Bool.false_eq_true, if_false,
            PyExc.mk.injEq] at same
          rcases same with ⟨rfl, _⟩
          exact Bool.noConfusion (firstKind.symm.trans secondKind)
  | false =>
      cases secondKind : secondCls.isException with
      | true =>
          simp only [concealRaise, concealException, firstKind, secondKind,
            if_true, Bool.false_eq_true, if_false,
            PyExc.mk.injEq] at same
          rcases same with ⟨rfl, _⟩
          exact Bool.noConfusion (firstKind.symm.trans secondKind)
      | false =>
          simp only [concealRaise, firstKind, secondKind,
            Bool.false_eq_true, if_false] at same
          exact Or.inl same

/-- A check behaves as before, or raises the same exception with a message. -/
theorem RaiseVariant.invoke_cases
    (raises : registry.RaiseVariant environment variant)
    {spec : ReadinessCheckSpec} (member : spec ∈ registry.specList) :
    (variant.check spec).invoke = (environment.check spec).invoke ∨
      spec.redactErrors = true ∧
        ∃ elapsed first second,
          (environment.check spec).invoke =
              .settles elapsed (.error first) ∧
            (variant.check spec).invoke =
              .settles elapsed (.error second) ∧
            first.cls.isException = true ∧
            second = { first with message := second.message } := by
  have same := raises.check spec member
  cases redacts : spec.redactErrors with
  | false =>
      simp only [observableCheck, redacts, Bool.false_eq_true,
        if_false] at same
      exact Or.inl (congrArg CheckBehaviour.invoke same)
  | true =>
      simp only [observableCheck, redacts, if_true] at same
      have invoked := congrArg CheckBehaviour.invoke same
      rw [CheckBehaviour.invoke_mapRaise,
        CheckBehaviour.invoke_mapRaise] at invoked
      cases second : (variant.check spec).invoke with
      | pending =>
          cases first : (environment.check spec).invoke with
          | pending => exact Or.inl rfl
          | settles elapsed outcome =>
              rw [first, second] at invoked
              cases invoked
      | settles elapsed outcome =>
          cases first : (environment.check spec).invoke with
          | pending =>
              rw [first, second] at invoked
              cases invoked
          | settles later other =>
              rw [first, second, Completion.map, Completion.map,
                Completion.settles.injEq] at invoked
              rcases invoked with ⟨rfl, outcomes⟩
              cases outcome with
              | ok value =>
                  cases other with
                  | ok original =>
                      cases outcomes
                      exact Or.inl rfl
                  | error exception => cases outcomes
              | error exception =>
                  cases other with
                  | ok original => cases outcomes
                  | error original =>
                      have concealed :
                          concealRaise exception = concealRaise original :=
                        Except.error.inj outcomes
                      rcases concealRaise_eq_iff concealed with
                        rfl | ⟨ordinary, relabelled⟩
                      · exact Or.inl rfl
                      · exact
                          Or.inr
                            ⟨rfl, elapsed, original, exception, rfl, rfl,
                              ordinary, relabelled⟩

/-! ## The records of one check -/

/-- The records of a check before it is awaited. -/
def raiseStarted (settings : LogSettings) : List LogRecord :=
  settings.started .run ++
    (settings.started .invokeCheck ++ settings.started .invoke)

/-- The formatted text of an exception which a check raised. -/
def raiseText (settings : LogSettings) (function : PackageFunction)
    (origin : Name) (exception : PyExc) : String :=
  settings.traceback function.eventName origin ++
    formatExceptionOnly exception

/-- The records of an exception on its way up from a check. -/
def raiseFailed (settings : LogSettings) (origin : Name)
    (exception : PyExc) : List LogRecord :=
  settings.failed .invoke (raiseText settings .invoke origin exception) ++
    (settings.failed .invokeCheck
        (raiseText settings .invokeCheck origin exception) ++
      settings.failed .run (raiseText settings .run origin exception))

/-- The exception of a check passes three wrappers, which all log it. -/
theorem loggedRun_of_raisesInTime {spec : ReadinessCheckSpec}
    {exception : PyExc}
    (raises : registry.RaisesInTime environment spec exception) :
    registry.loggedRun logging environment spec =
      ⟨raiseStarted logging.settings ++
          raiseFailed logging.settings spec.name exception,
        some (.error exception)⟩ := by
  rcases raises with ⟨ordinary, inTime, elapsed, raised⟩
  rw [raised] at inTime
  have texts :
      ∀ function : PackageFunction,
        logging.settings.formatException function spec.name exception =
          some (raiseText logging.settings function spec.name exception) :=
    fun function => if_pos ordinary
  have invoked :
      (loggedInvokeCheck logging.settings spec.name
          (environment.check spec)
          (registry.effectiveTimeout spec)).outcome =
        some (.error exception) := by
    rw [loggedInvokeCheck, LogSettings.outcome_boundary, raised, inTime]
    rfl
  rw [loggedRun, loggedReport, Logged.bind_eq_of_error invoked,
    Logged.bind_eq_of_error rfl]
  ext : 1
  · simp only [LogSettings.boundary, LogSettings.logFunctionBoundary,
      LogSettings.finished, loggedInvokeCheck, inTime,
      Bool.false_eq_true, if_false, raised, loggedInvoke, Completion.value?, Logged.ofOutcome, texts,
      raiseStarted, raiseFailed, List.append_nil, List.append_assoc]
  · rfl

theorem report_of_raisesInTime {spec : ReadinessCheckSpec}
    {exception : PyExc}
    (raises : registry.RaisesInTime environment spec exception) :
    ∃ elapsed,
      (environment.check spec).invoke =
          .settles elapsed (.error exception) ∧
        registry.report environment spec =
          .settles (elapsed + 0) (.error exception) := by
  rcases raises with ⟨_, inTime, elapsed, raised⟩
  refine ⟨elapsed, raised, ?_⟩
  have waited :
      waitFor (registry.effectiveTimeout spec)
          (environment.check spec).invoke =
        .settles elapsed (.error exception) := by
    rw [raised] at inTime ⊢
    cases timeout : registry.effectiveTimeout spec with
    | none => rfl
    | some limit =>
        rw [timeout] at inTime
        simp only [expires, Bool.not_eq_false', decide_eq_true_eq] at inTime
        exact if_pos inTime
  rw [report, invokeCheck, waited]
  rfl

/-- An expiring check and one which behaves the same write the same. -/
theorem loggedRun_congr {spec : ReadinessCheckSpec}
    (adapter : variant.adapter spec = environment.adapter spec)
    (same :
      (variant.check spec).invoke = (environment.check spec).invoke ∨
        expires (registry.effectiveTimeout spec)
            (variant.check spec).invoke =
          true ∧
        expires (registry.effectiveTimeout spec)
            (environment.check spec).invoke =
          true) :
    registry.loggedRun logging variant spec =
      registry.loggedRun logging environment spec := by
  have invoked :
      loggedInvokeCheck logging.settings spec.name (variant.check spec)
          (registry.effectiveTimeout spec) =
        loggedInvokeCheck logging.settings spec.name
          (environment.check spec) (registry.effectiveTimeout spec) := by
    rcases same with equal | ⟨second, first⟩
    · rw [loggedInvokeCheck, equal, loggedInvokeCheck]
    · rw [loggedInvokeCheck, second, loggedInvokeCheck, first]
      rfl
  rw [loggedRun, loggedReport, invoked, adapter, loggedRun, loggedReport]

theorem waitFor_of_expires {α : Type} {timeout : Option ℚ}
    {completion : Completion (Except PyExc α)}
    (expired : expires timeout completion = true) :
    ∃ limit,
      timeout = some limit ∧
        waitFor timeout completion =
          .settles limit (.error .timeoutError) := by
  cases timeout with
  | none => cases expired
  | some limit =>
      refine ⟨limit, rfl, ?_⟩
      cases completion with
      | pending => rfl
      | settles elapsed outcome =>
          simp only [expires, Bool.not_eq_true', decide_eq_false_iff_not]
            at expired
          exact if_neg expired

theorem report_congr {spec : ReadinessCheckSpec}
    (adapter : variant.adapter spec = environment.adapter spec)
    (same :
      (variant.check spec).invoke = (environment.check spec).invoke ∨
        expires (registry.effectiveTimeout spec)
            (variant.check spec).invoke =
          true ∧
        expires (registry.effectiveTimeout spec)
            (environment.check spec).invoke =
          true) :
    registry.report variant spec = registry.report environment spec := by
  have invoked :
      invokeCheck (variant.check spec) (registry.effectiveTimeout spec) =
        invokeCheck (environment.check spec)
          (registry.effectiveTimeout spec) := by
    rcases same with equal | ⟨second, first⟩
    · rw [invokeCheck, equal, invokeCheck]
    · rcases waitFor_of_expires first with ⟨limit, timeout, waited⟩
      rcases waitFor_of_expires second with ⟨other, sameTimeout, again⟩
      rw [timeout, Option.some.injEq] at sameTimeout
      rw [invokeCheck, again, invokeCheck, waited, sameTimeout]
  rw [report, invoked, adapter, report]

/-- A check writes and reports as before, or raises with another message. -/
theorem RaiseVariant.run_cases
    (raises : registry.RaiseVariant environment variant)
    {spec : ReadinessCheckSpec} (member : spec ∈ registry.specList) :
    ((∀ logging : RequestLogging,
          registry.loggedRun logging variant spec =
            registry.loggedRun logging environment spec) ∧
        registry.report variant spec =
          registry.report environment spec) ∨
      spec.redactErrors = true ∧
        ∃ first second,
          registry.RaisesInTime environment spec first ∧
            registry.RaisesInTime variant spec second ∧
              second = { first with message := second.message } := by
  have adapter := raises.adapter spec member
  rcases raises.invoke_cases member with
    same | ⟨redacts, elapsed, first, second, before, after, ordinary,
      relabelled⟩
  · exact
      Or.inl
        ⟨fun _ => loggedRun_congr adapter (.inl same),
          report_congr adapter (.inl same)⟩
  · have timing :
        expires (registry.effectiveTimeout spec)
            (variant.check spec).invoke =
          expires (registry.effectiveTimeout spec)
            (environment.check spec).invoke := by
      rw [before, after]
      cases registry.effectiveTimeout spec <;> rfl
    cases expired :
        expires (registry.effectiveTimeout spec)
          (environment.check spec).invoke with
    | true =>
        exact
          Or.inl
            ⟨fun _ =>
                loggedRun_congr adapter
                  (.inr ⟨timing.trans expired, expired⟩),
              report_congr adapter
                (.inr ⟨timing.trans expired, expired⟩)⟩
    | false =>
        refine
          Or.inr
            ⟨redacts, first, second, ⟨ordinary, expired, elapsed, before⟩,
              ⟨?_, timing.trans expired, elapsed, after⟩, relabelled⟩
        rw [relabelled]
        exact ordinary

/-- Messages of exceptions are error texts. -/
theorem RaiseVariant.textVariant
    (raises : registry.RaiseVariant environment variant) :
    registry.TextVariant environment variant := by
  intro spec member
  rcases raises.run_cases member with
    ⟨_, same⟩ | ⟨redacts, first, second, before, after, relabelled⟩
  · rw [same]
  · rcases report_of_raisesInTime before with ⟨elapsed, raised, reported⟩
    rcases report_of_raisesInTime after with ⟨later, again, reportedAgain⟩
    rcases raises.invoke_cases member with
      same | ⟨_, common, _, _, invoked, invokedAgain, _⟩
    · rw [same, raised] at again
      cases again
      rw [reported, reportedAgain]
    · rw [raised] at invoked
      rw [again] at invokedAgain
      cases invoked
      cases invokedAgain
      rw [reported, reportedAgain, relabelled, Completion.map,
        Completion.map, observableReport, observableReport, if_pos redacts,
        if_pos redacts]
      rfl

/-! ## The records of the response -/

/-- The text of a failing entry is not read if its spec redacts. -/
theorem loggedDetail_congr {spec : ReadinessCheckSpec}
    {first second : ServiceHealthStatus}
    (sameService : first.service = second.service)
    (firstFailed : first.ok = false) (secondFailed : second.ok = false)
    (sameLatency : first.latencyMs = second.latencyMs)
    (governs : registry.resolveSpec second.service = .ok spec)
    (redacts : spec.redactErrors = true) :
    loggedDetail logging registry first =
      loggedDetail logging registry second := by
  have resolved :
      (loggedResolveSpec logging registry second.service).outcome =
        some (.ok spec) :=
    congrArg some governs
  have text :
      loggedReadinessError logging registry second.service false
          first.error =
        loggedReadinessError logging registry second.service false
          second.error := by
    rw [loggedReadinessError, loggedReadinessError,
      if_neg Bool.false_ne_true, if_neg Bool.false_ne_true,
      Logged.bind_eq_of_ok resolved, Logged.bind_eq_of_ok resolved,
      policyError, policyError,
      if_pos redacts, if_pos redacts]
  rw [loggedDetail, loggedDetail, sameService, firstFailed, secondFailed,
    sameLatency, text]

theorem RaiseVariant.loggedRespond (contract : sdk.TextContract)
    (raises : registry.RaiseVariant environment variant) :
    FastapiCore.loggedRespond logging registry
        (registry.mergedResult variant sdk registry.specList).services =
      FastapiCore.loggedRespond logging registry
        (registry.mergedResult environment sdk
          registry.specList).services := by
  have details :
      (registry.mergedResult variant sdk registry.specList).services.map
          (loggedDetail logging registry) =
        (registry.mergedResult environment sdk
          registry.specList).services.map
            (loggedDetail logging registry) := by
    rw [mergedResult, mergedResult, List.map_flatMap, List.map_flatMap]
    apply List.flatMap_congr
    intro spec member
    rcases raises.run_cases member with
      ⟨_, same⟩ | ⟨redacts, first, second, before, after, relabelled⟩
    · rw [block, same, block]
    · have observable :
          (registry.block variant sdk spec).map (observableStatus spec) =
            (registry.block environment sdk spec).map
              (observableStatus spec) := by
        rcases raises.textVariant.report_cases member with
          ⟨pending, again⟩ | ⟨elapsed, _, _, settled, settledAgain, same⟩
        · rw [block, block, pending, again]
        · rw [block, block, settled, settledAgain]
          exact observable_reportBlock contract spec elapsed same
      rcases report_of_raisesInTime before with ⟨elapsed, _, reported⟩
      rcases report_of_raisesInTime after with ⟨later, _, reportedAgain⟩
      rw [block, block, reported, reportedAgain] at observable ⊢
      have notOk :
          ∀ (time : ℚ) (exception : PyExc),
            (sdk.describe spec.name spec.required time
                (.error exception)).ok =
              false := by
        intro time exception
        rw [← Bool.not_eq_true, contract.describe_ok]
        rintro ⟨⟩
      simp only [reportBlock, runOfReport, mergeEntry, List.map_singleton,
        List.cons.injEq, and_true, observableStatus, redacts, if_true,
        concealStatus, notOk, Bool.false_eq_true, if_false] at observable ⊢
      refine
        loggedDetail_congr ?_ (notOk _ _) (notOk _ _) ?_ ?_ redacts
      · rw [contract.describe_service, contract.describe_service]
      · have latency := congrArg ServiceHealthStatus.latencyMs observable
        exact latency
      · rw [contract.describe_service]
        exact resolveSpec_name member
  rw [FastapiCore.loggedRespond, details, FastapiCore.loggedRespond]

/-! ## The log in three parts -/

/-- The records before the first check runs. -/
def beforeChecks (logging : RequestLogging) : List LogRecord :=
  logging.settings.started .readiness ++
    (accessRecords logging ++ logging.settings.started .check)

/-- The records by which `check` ends after its checks completed. -/
def checkEnd (logging : RequestLogging)
    (cause merged : HealthCheckResult) : List LogRecord :=
  match merged.requiredFailure? with
  | none => logging.settings.ended .check
  | some failure =>
      logging.settings.failed .check
        (logging.formatHealthCheckError (some cause) failure merged)

/-- The records of an answer, with the last record of the endpoint. -/
def answerRecords (logging : RequestLogging)
    (answer : Logged PyExc HealthReply) : List LogRecord :=
  answer.records ++
    logging.settings.finished .readiness
      (logging.settings.formatException .readiness "") answer.outcome

/-- The records after the last check of a request. -/
def afterChecks (registry : ReadinessRegistry) (logging : RequestLogging)
    (config : AppConfig) (sdk : HealthSdk)
    (environment : CheckEnvironment) : List LogRecord :=
  let reply :=
    sdk.asyncCheckAllServices config.readinessParallel
      config.readinessOverallTimeoutSeconds
      (requiredNames registry.specList)
      (registry.sdkChecks environment registry.specList)
  let outcome :=
    registry.check sdk environment none config.readinessParallel
      config.readinessOverallTimeoutSeconds
  mergeRecords logging (sdkResult reply) ++
    (logging.settings.finished .check (formatCheckFailure logging reply)
        outcome ++
      answerRecords logging (loggedAnswer logging registry outcome))

/-- The schedule of the checks of a request. -/
def requestSchedule (registry : ReadinessRegistry)
    (logging : RequestLogging) (config : AppConfig)
    (environment : CheckEnvironment) : List Name :=
  logging.schedule config.readinessParallel
    config.readinessOverallTimeoutSeconds
    (sdkTimings (registry.sdkChecks environment registry.specList))
    fun name =>
      (registry.checkRecords logging environment registry.specList
        name).length

theorem records_loggedReadiness (nonempty : registry.specList ≠ []) :
    (loggedReadiness logging registry config sdk environment).records =
      beforeChecks logging ++
        (interleave
            (registry.checkRecords logging environment registry.specList)
            (registry.requestSchedule logging config environment) ++
          registry.afterChecks logging config sdk environment) := by
  rw [loggedReadiness, if_neg nonempty, LogSettings.boundary,
    LogSettings.logFunctionBoundary, loggedCheck,
    LogSettings.logFunctionBoundary, selected_none, interleavedRecords,
    beforeChecks, afterChecks, answerRecords, requestSchedule]
  simp only [List.append_assoc]

/-- After a timeout nothing of the checks is left to write about. -/
theorem afterChecks_of_timeoutFires (contract : sdk.Contract)
    (fires : registry.TimeoutFires config sdk environment) :
    registry.afterChecks logging config sdk environment =
      logging.settings.failed .check
          (raiseText logging.settings .check "" .timeoutError) ++
        answerRecords logging (loggedTimeout logging) := by
  rcases fires with ⟨_, overruns⟩
  have replied :=
    contract.timeout _ _ (requiredNames registry.specList) _ overruns
  have outcome :
      registry.check sdk environment none config.readinessParallel
          config.readinessOverallTimeoutSeconds =
        some (.error .timeoutError) := by
    rw [check, selected_none]
    simp only [replied]
  rw [afterChecks, replied, outcome]
  rfl

/-- After completed checks the records depend on two results. -/
theorem afterChecks_of_completes (contract : sdk.Contract)
    (completes : registry.Completes environment registry.specList)
    (quiet : ¬ registry.TimeoutFires config sdk environment)
    (nonempty : registry.specList ≠ []) :
    registry.afterChecks logging config sdk environment =
      (logging.settings.boundary .mergeStructuredResults ""
          (pure ())).records ++
        (checkEnd logging
            (sdk.aggregate (requiredNames registry.specList)
              (registry.sdkChecks environment registry.specList))
            (registry.mergedResult environment sdk registry.specList) ++
          answerRecords logging
            (FastapiCore.loggedRespond logging registry
              (registry.mergedResult environment sdk
                registry.specList).services)) := by
  have inTime := overruns_of_quiet quiet nonempty
  have replied :
      sdkResult
          (sdk.asyncCheckAllServices config.readinessParallel
            config.readinessOverallTimeoutSeconds
            (requiredNames registry.specList)
            (registry.sdkChecks environment registry.specList)) =
        some
          (sdk.aggregate (requiredNames registry.specList)
            (registry.sdkChecks environment registry.specList)) := by
    rw [selected_none] at inTime
    rw [contract.reply _ _ _ _ (sdkChecks_complete completes) inTime,
      HealthCheckResult.sdkReply]
    split <;> rfl
  rw [afterChecks, check_eq contract (by rwa [selected_none]) inTime,
    selected_none, checkEnd]
  cases
    (registry.mergedResult environment sdk
      registry.specList).requiredFailure? with
  | none =>
      simp only [replied]
      rfl
  | some failure =>
      simp only [LogSettings.finished, formatCheckFailure, replied]
      rfl

/-! ## Records which carry a message -/

theorem length_failed (settings : LogSettings)
    (function : PackageFunction) (first second : String) :
    (settings.failed function first).length =
      (settings.failed function second).length := by
  rw [LogSettings.failed, LogSettings.failed]
  split_ifs <;> rfl

theorem length_raiseFailed (settings : LogSettings) (origin : Name)
    (first second : PyExc) :
    (raiseFailed settings origin first).length =
      (raiseFailed settings origin second).length := by
  simp only [raiseFailed, List.length_append]
  rw [length_failed, length_failed settings .invokeCheck,
    length_failed settings .run]

/-- Without error records nothing is written about the exception. -/
theorem raiseFailed_of_disabled {settings : LogSettings}
    (disabled : settings.isEnabledFor readinessModule .error = false)
    (origin : Name) (exception : PyExc) :
    raiseFailed settings origin exception = [] := by
  have silent :
      ∀ function : PackageFunction, function.module = readinessModule →
        ∀ text, settings.failed function text = [] := by
    intro function module text
    rw [LogSettings.failed, module, disabled]
    rfl
  rw [raiseFailed, silent .invoke rfl, silent .invokeCheck rfl,
    silent .run rfl]
  rfl

/-- With error records the first of them shows the exception. -/
theorem raiseFailed_head {settings : LogSettings}
    (enabled : settings.isEnabledFor readinessModule .error = true)
    (origin : Name) (exception : PyExc) :
    (raiseFailed settings origin exception)[0]? =
      some
        { logger := readinessModule
          level := .error
          message := "function_error"
          functionEvent := some PackageFunction.invoke.eventName
          exception := some (raiseText settings .invoke origin exception) }
    := by
  have written :
      ∀ text,
        settings.failed .invoke text =
          [{ logger := readinessModule
             level := .error
             message := "function_error"
             functionEvent := some PackageFunction.invoke.eventName
             exception := some text }] :=
    fun text => if_pos enabled
  rw [raiseFailed, written]
  rfl

theorem checkRecords_cases (registry : ReadinessRegistry)
    (logging : RequestLogging) (name : Name) :
    (∃ spec ∈ registry.specList,
        spec.name = name ∧
          ∀ environment,
            registry.checkRecords logging environment registry.specList
                name =
              (registry.loggedRun logging environment spec).records) ∨
      ∀ environment,
        registry.checkRecords logging environment registry.specList name =
          [] := by
  cases search :
      registry.specList.find? fun spec => spec.name = name with
  | none =>
      refine Or.inr fun environment => ?_
      rw [checkRecords, search]
  | some spec =>
      refine
        Or.inl
          ⟨spec, List.mem_of_find?_eq_some search,
            by simpa using List.find?_some search, fun environment => ?_⟩
      rw [checkRecords, search]

theorem checkRecords_name {spec : ReadinessCheckSpec}
    (member : spec ∈ registry.specList) :
    registry.checkRecords logging environment registry.specList
        spec.name =
      (registry.loggedRun logging environment spec).records := by
  rw [checkRecords, find?_name registry.nodup_specList_names member]

/-- The numbers of records do not depend on messages. -/
theorem RaiseVariant.length_checkRecords
    (raises : registry.RaiseVariant environment variant) (name : Name) :
    (registry.checkRecords logging variant registry.specList
        name).length =
      (registry.checkRecords logging environment registry.specList
        name).length := by
  rcases registry.checkRecords_cases logging name with
    ⟨spec, member, rfl, records⟩ | empty
  · rw [records, records]
    rcases raises.run_cases member with
      ⟨same, _⟩ | ⟨_, first, second, before, after, _⟩
    · rw [same]
    · rw [loggedRun_of_raisesInTime before,
        loggedRun_of_raisesInTime after]
      simp only [List.length_append]
      rw [length_raiseFailed]
  · rw [empty, empty]

theorem RaiseVariant.requestSchedule
    (raises : registry.RaiseVariant environment variant) :
    registry.requestSchedule logging config variant =
      registry.requestSchedule logging config environment := by
  rw [ReadinessRegistry.requestSchedule,
    ReadinessRegistry.requestSchedule, raises.textVariant.timings]
  exact congrArg _ (funext raises.length_checkRecords)

/--
The check of some redacting spec raises an ordinary exception before its
timeout, and the schedule lets it write about the exception.
-/
def RaiseReached (registry : ReadinessRegistry)
    (logging : RequestLogging) (config : AppConfig)
    (environment : CheckEnvironment) : Prop :=
  ∃ spec ∈ registry.specList,
    spec.redactErrors = true ∧
      (∃ exception, registry.RaisesInTime environment spec exception) ∧
      (raiseStarted logging.settings).length <
        (registry.requestSchedule logging config environment).count
          spec.name

/-- The records of the checks agree where no message is written. -/
theorem RaiseVariant.interleave_eq
    (raises : registry.RaiseVariant environment variant)
    (silent :
      logging.settings.isEnabledFor readinessModule .error = false ∨
        ¬ registry.RaiseReached logging config environment) :
    interleave
        (registry.checkRecords logging variant registry.specList)
        (registry.requestSchedule logging config variant) =
      interleave
        (registry.checkRecords logging environment registry.specList)
        (registry.requestSchedule logging config environment) := by
  rw [raises.requestSchedule]
  apply interleave_congr
  intro name position below
  rcases registry.checkRecords_cases logging name with
    ⟨spec, member, rfl, records⟩ | empty
  · rw [records, records]
    rcases raises.run_cases member with
      ⟨same, _⟩ | ⟨redacts, first, second, before, after, _⟩
    · rw [same]
    · rw [loggedRun_of_raisesInTime before,
        loggedRun_of_raisesInTime after]
      rcases silent with disabled | unreached
      · rw [raiseFailed_of_disabled disabled,
          raiseFailed_of_disabled disabled]
      · have early : position < (raiseStarted logging.settings).length := by
          by_contra late
          exact
            unreached
              ⟨spec, member, redacts, ⟨first, before⟩, by omega⟩
        rw [List.getElem?_append_left early,
          List.getElem?_append_left early]
  · rw [empty, empty]

/-- In a request whose checks complete, every raise is written about. -/
theorem raiseReached_of_raisesInTime
    (scheduled : logging.Contract sdk)
    (completes : registry.Completes environment registry.specList)
    (quiet : ¬ registry.TimeoutFires config sdk environment)
    (enabled :
      logging.settings.isEnabledFor readinessModule .error = true)
    {spec : ReadinessCheckSpec} (member : spec ∈ registry.specList)
    (redacts : spec.redactErrors = true) {exception : PyExc}
    (raises : registry.RaisesInTime environment spec exception) :
    registry.RaiseReached logging config environment := by
  refine ⟨spec, member, redacts, ⟨exception, raises⟩, ?_⟩
  have nonempty : registry.specList ≠ [] := List.ne_nil_of_mem member
  have inTime :
      sdk.overruns config.readinessParallel
          config.readinessOverallTimeoutSeconds
          (sdkTimings
            (registry.sdkChecks environment registry.specList)) =
        false := by
    rw [← Bool.not_eq_true]
    exact fun overruns => quiet ⟨nonempty, overruns⟩
  have timing :
      (spec.name,
          ((registry.run environment spec).map CheckRun.outcome).map
            fun _ => ()) ∈
        sdkTimings (registry.sdkChecks environment registry.specList) :=
    List.mem_map_of_mem
      (List.mem_map_of_mem
        (f := fun spec : ReadinessCheckSpec =>
          (spec.name, (registry.run environment spec).map CheckRun.outcome))
        member)
  have all :=
    scheduled.complete _ _ _
      (fun name =>
        (registry.checkRecords logging environment registry.specList
          name).length)
      (settles_sdkTimings completes) inTime _ timing
  have records :
      (raiseStarted logging.settings).length <
        (registry.checkRecords logging environment registry.specList
          spec.name).length := by
    rw [checkRecords_name member, loggedRun_of_raisesInTime raises,
      List.length_append]
    have head := raiseFailed_head enabled spec.name exception
    have inside := (List.getElem?_eq_some_iff.mp head).1
    omega
  exact Nat.lt_of_lt_of_le records all

/-- Where no raise is reached, a variant reports the same values. -/
theorem RaiseVariant.report_eq (scheduled : logging.Contract sdk)
    (completes : registry.Completes environment registry.specList)
    (quiet : ¬ registry.TimeoutFires config sdk environment)
    (enabled :
      logging.settings.isEnabledFor readinessModule .error = true)
    (raises : registry.RaiseVariant environment variant)
    (unreached : ¬ registry.RaiseReached logging config environment)
    {spec : ReadinessCheckSpec} (member : spec ∈ registry.specList) :
    registry.report variant spec = registry.report environment spec := by
  rcases raises.run_cases member with
    ⟨_, same⟩ | ⟨redacts, first, _, before, _, _⟩
  · exact same
  · exact
      (unreached
        (raiseReached_of_raisesInTime scheduled completes quiet enabled
          member redacts before)).elim

/-- Where no message is written, the records after the checks agree. -/
theorem RaiseVariant.afterChecks_eq (contract : sdk.TextContract)
    (scheduled : logging.Contract sdk)
    (settled :
      registry.TimeoutFires config sdk environment ∨
        registry.Completes environment registry.specList)
    (nonempty : registry.specList ≠ [])
    (raises : registry.RaiseVariant environment variant)
    (silent :
      logging.settings.isEnabledFor readinessModule .error = false ∨
        ¬ registry.RaiseReached logging config environment) :
    registry.afterChecks logging config sdk variant =
      registry.afterChecks logging config sdk environment := by
  have texts := raises.textVariant
  by_cases fires : registry.TimeoutFires config sdk environment
  · rw [afterChecks_of_timeoutFires contract.toContract fires,
      afterChecks_of_timeoutFires contract.toContract
        (texts.timeoutFires_iff.mpr fires)]
  have completes := settled.resolve_left fires
  have quiet : ¬ registry.TimeoutFires config sdk variant :=
    fun variantFires => fires (texts.timeoutFires_iff.mp variantFires)
  rw [afterChecks_of_completes contract.toContract completes fires
      nonempty,
    afterChecks_of_completes contract.toContract
      (texts.completes completes) quiet nonempty,
    raises.loggedRespond contract]
  cases enabled : logging.settings.isEnabledFor readinessModule .error with
  | false =>
      have silentEnd :
          ∀ cause merged : HealthCheckResult,
            checkEnd logging cause merged =
              if merged.requiredFailure?.isSome then []
              else logging.settings.ended .check := by
        intro cause merged
        rw [checkEnd]
        cases merged.requiredFailure? with
        | none => rfl
        | some failure => exact if_neg (ne_true_of_eq_false enabled)
      rw [silentEnd, silentEnd]
      simp only [texts.requiredFailure contract]
  | true =>
      have unreached :=
        silent.resolve_left (by simp [enabled])
      have reports :
          ∀ spec ∈ registry.specList,
            registry.report variant spec =
              registry.report environment spec := by
        intro spec member
        exact
          raises.report_eq scheduled completes fires enabled unreached
            member
      have checks :
          registry.sdkChecks variant registry.specList =
            registry.sdkChecks environment registry.specList := by
        apply List.map_congr_left
        intro spec member
        rw [run, reports spec member, run]
      have blocks :
          registry.specList.flatMap (registry.block variant sdk) =
            registry.specList.flatMap (registry.block environment sdk) := by
        apply List.flatMap_congr
        intro spec member
        rw [block, reports spec member, block]
      have merged :
          registry.mergedResult variant sdk registry.specList =
            registry.mergedResult environment sdk registry.specList := by
        rw [mergedResult, blocks, mergedResult]
      rw [checks, merged]

/-! ## The log of a request -/

theorem raiseVariant_relabelRaises (text : String) :
    registry.RaiseVariant environment
      (environment.relabelRaises text) where
  check spec _ := by
    rw [observableCheck, observableCheck]
    split_ifs with redacts
    · simp only [CheckEnvironment.relabelRaises, redacts, if_true,
        CheckBehaviour.mapRaise_mapRaise]
      congr 1
      ext exception : 1
      exact concealRaise_relabelRaise text exception
    · simp [CheckEnvironment.relabelRaises, redacts]
  adapter _ _ := rfl

theorem RaisesInTime.relabelRaises {spec : ReadinessCheckSpec}
    {exception : PyExc}
    (raises : registry.RaisesInTime environment spec exception)
    (redacts : spec.redactErrors = true) (text : String) :
    registry.RaisesInTime (environment.relabelRaises text) spec
      { exception with message := text } := by
  rcases raises with ⟨ordinary, inTime, elapsed, raised⟩
  have invoked :
      ((environment.relabelRaises text).check spec).invoke =
        .settles elapsed (.error { exception with message := text }) := by
    simp only [CheckEnvironment.relabelRaises, redacts, if_true,
      CheckBehaviour.invoke_mapRaise, raised, Completion.map,
      Except.mapError, relabelRaise, ordinary]
  refine ⟨ordinary, ?_, elapsed, invoked⟩
  rw [raised] at inTime
  rw [invoked]
  cases timeout : registry.effectiveTimeout spec with
  | none => rfl
  | some limit =>
      rw [timeout] at inTime
      exact inTime

/-- Where a raise is written about, two messages give two logs. -/
theorem records_ne_of_raiseReached (sdk : HealthSdk)
    (enabled :
      logging.settings.isEnabledFor readinessModule .error = true)
    (reached : registry.RaiseReached logging config environment)
    {first second : String} (firstNonempty : first ≠ "")
    (secondNonempty : second ≠ "") (different : first ≠ second) :
    (loggedReadiness logging registry config sdk
        (environment.relabelRaises first)).records ≠
      (loggedReadiness logging registry config sdk
        (environment.relabelRaises second)).records := by
  rcases reached with ⟨spec, member, redacts, ⟨exception, raises⟩, below⟩
  have nonempty : registry.specList ≠ [] := List.ne_nil_of_mem member
  have firstVariant :
      registry.RaiseVariant environment
        (environment.relabelRaises first) :=
    raiseVariant_relabelRaises first
  have secondVariant :
      registry.RaiseVariant environment
        (environment.relabelRaises second) :=
    raiseVariant_relabelRaises second
  have lengths :
      ∀ name,
        (registry.checkRecords logging (environment.relabelRaises first)
            registry.specList name).length =
          (registry.checkRecords logging
            (environment.relabelRaises second) registry.specList
            name).length :=
    fun name =>
      (firstVariant.length_checkRecords name).trans
        (secondVariant.length_checkRecords name).symm
  intro same
  rw [records_loggedReadiness nonempty, records_loggedReadiness nonempty,
    firstVariant.requestSchedule, secondVariant.requestSchedule] at same
  have interleaved :=
    (List.append_inj (List.append_cancel_left same)
      (length_interleaveFrom_congr (fun _ => 0) _ lengths)).1
  have position := agree_of_interleave_eq lengths interleaved below
  rw [checkRecords_name member, checkRecords_name member,
    loggedRun_of_raisesInTime (raises.relabelRaises redacts first),
    loggedRun_of_raisesInTime (raises.relabelRaises redacts second),
    List.getElem?_append_right (Nat.le_refl _),
    List.getElem?_append_right (Nat.le_refl _), Nat.sub_self,
    raiseFailed_head enabled, raiseFailed_head enabled] at position
  have texts :
      raiseText logging.settings .invoke spec.name
          { exception with message := first } =
        raiseText logging.settings .invoke spec.name
          { exception with message := second } := by
    simpa using position
  rw [raiseText, raiseText, ← String.toList_inj, String.toList_append,
    String.toList_append, List.append_cancel_left_eq,
    String.toList_inj] at texts
  exact
    different
      (formatExceptionOnly_injective firstNonempty secondNonempty texts)

/--
Requests which differ in the messages of exceptions raised by redacting checks
write the same log, exactly when the readiness module logs no errors or no
check of a redacting spec gets to raise.
-/
theorem loggedReadiness_raiseVariant_iff (contract : sdk.TextContract)
    (scheduled : logging.Contract sdk)
    (settled :
      registry.TimeoutFires config sdk environment ∨
        registry.Completes environment registry.specList) :
    (∀ variant, registry.RaiseVariant environment variant →
        (loggedReadiness logging registry config sdk variant).records =
          (loggedReadiness logging registry config sdk
            environment).records) ↔
      logging.settings.isEnabledFor readinessModule .error = false ∨
        ¬ registry.RaiseReached logging config environment := by
  constructor
  · intro same
    cases enabled :
        logging.settings.isEnabledFor readinessModule .error with
    | false => exact Or.inl rfl
    | true =>
        refine Or.inr fun reached => ?_
        exact
          records_ne_of_raiseReached sdk enabled reached
            (by decide : "first" ≠ "") (by decide : "second" ≠ "")
            (by decide)
            ((same _ (raiseVariant_relabelRaises "first")).trans
              (same _ (raiseVariant_relabelRaises "second")).symm)
  · intro silent variant raises
    by_cases nonempty : registry.specList = []
    · rw [loggedReadiness, loggedReadiness, if_pos nonempty,
        if_pos nonempty]
    · rw [records_loggedReadiness nonempty,
        records_loggedReadiness nonempty, raises.interleave_eq silent,
        raises.afterChecks_eq contract scheduled settled nonempty silent]

/-! ## A check which raises -/

/-- A log at the default level, for checks which run one after another. -/
def warningLog : RequestLogging where
  settings :=
    { isEnabledFor := fun _ level => level ≠ .info
      traceback := fun functionEvent _ =>
        "Traceback (most recent call last):\n" ++ functionEvent ++ "\n" }
  schedule _ _ timings records :=
    timings.flatMap fun timing =>
      List.replicate (records timing.1) timing.1
  buildServiceLogEvent service operation _ _ error _ _ :=
    [("service", service), ("operation", operation),
      ("error", error.getD "")]
  formatHealthCheckError _ failure _ :=
    "HealthCheckError: " ++ failure.service

theorem warningLog_contract (sdk : HealthSdk) :
    warningLog.Contract sdk where
  complete := by
    intro parallel overall timings records _ _ timing member
    have block :
        (List.replicate (records timing.1) timing.1).Sublist
          (warningLog.schedule parallel overall timings records) := by
      rcases List.append_of_mem member with ⟨before, after, rfl⟩
      simp only [warningLog, List.flatMap_append, List.flatMap_cons]
      exact
        (List.sublist_append_left _ _).trans
          (List.sublist_append_right _ _)
    calc
      records timing.1 =
          (List.replicate (records timing.1) timing.1).count timing.1 :=
        List.count_replicate_self.symm
      _ ≤ _ := block.count_le _

/-- Where no check raises, the messages of raises are not logged. -/
theorem loggedReadiness_raiseVariant_databaseAndCache :
    ¬ databaseAndCache.RaiseReached warningLog {} databaseAndCacheDown ∧
      ∀ variant,
        databaseAndCache.RaiseVariant databaseAndCacheDown variant →
          (loggedReadiness warningLog databaseAndCache {} .documented
              variant).records =
            (loggedReadiness warningLog databaseAndCache {} .documented
              databaseAndCacheDown).records := by
  have completes :
      databaseAndCache.Completes databaseAndCacheDown
        databaseAndCache.specList :=
    databaseAndCacheDown_completes
  have unreached :
      ¬ databaseAndCache.RaiseReached warningLog {}
        databaseAndCacheDown := by
    rintro ⟨spec, member, _, ⟨exception, _, _, elapsed, raised⟩, _⟩
    simp only [databaseAndCache, specList_ofSpecs, List.mem_cons,
      List.not_mem_nil, or_false] at member
    rcases member with rfl | rfl <;> cases raised
  refine ⟨unreached, ?_⟩
  exact
    (loggedReadiness_raiseVariant_iff HealthSdk.documented_textContract
      (warningLog_contract _) (.inr completes)).mpr (.inr unreached)

/-- One required check. -/
def databaseOnly : ReadinessRegistry :=
  ofSpecs none [{ name := "database", check := .function 0 }]
    (by decide) (by decide)

/-- The check raises an exception with this message. -/
def databaseRaises (message : String) : CheckEnvironment where
  check _ :=
    .coroutineFunction
      (.settles 1
        (.error { cls := .other "ConnectionError", message }))
  adapter _ value := .ok (.value value)

theorem databaseRaises_raiseVariant (first second : String) :
    databaseOnly.RaiseVariant (databaseRaises first)
      (databaseRaises second) where
  check spec member := by
    simp only [databaseOnly, specList_ofSpecs, List.mem_singleton] at member
    subst member
    rfl
  adapter _ _ := rfl

/-- Two runs which differ in a redacted message write different logs. -/
theorem loggedReadiness_raiseVariant_databaseOnly :
    ¬ ∀ (registry : ReadinessRegistry) (logging : RequestLogging)
        (config : AppConfig) (sdk : HealthSdk)
        (environment variant : CheckEnvironment),
        sdk.TextContract → logging.Contract sdk →
        registry.TimeoutFires config sdk environment ∨
          registry.Completes environment registry.specList →
        registry.RaiseVariant environment variant →
        (loggedReadiness logging registry config sdk variant).records =
          (loggedReadiness logging registry config sdk
            environment).records := by
  intro same
  have completes :
      databaseOnly.Completes (databaseRaises "password=alpha")
        databaseOnly.specList := by
    intro spec member
    simp only [databaseOnly, specList_ofSpecs, List.mem_singleton] at member
    subst member
    rfl
  have equal :=
    same databaseOnly warningLog {} .documented
      (databaseRaises "password=alpha") (databaseRaises "password=beta")
      HealthSdk.documented_textContract (warningLog_contract _)
      (.inr completes) (databaseRaises_raiseVariant _ _)
  revert equal
  decide

end ReadinessRegistry

end FastapiCore
