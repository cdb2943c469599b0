import FastapiCore.FunctionLogging
import FastapiCore.HealthRouter
import FastapiCore.Library.Interleaving

/-!
# The log of a readiness request

The functions between a check and the response, each with the records which
its wrapper and its body write.  Forgetting the records gives the functions of
`ReadinessCheck` and `HealthRouter` back, which the theorems named `outcome_…`
say.

The checks run concurrently, so their records are interleaved by a schedule
which belongs to the event loop.  Like the rest of the timing it may depend on
how long each check takes and on how many records it writes, not on texts.
The middleware around the endpoint is left out: its records depend on the
reply alone.
-/

namespace FastapiCore

open Library

/-! ## The functions on the path -/

/-- The logger of `fastapi_core/readiness.py`. -/
def readinessModule : String := "fastapi_core.readiness"

/-- The logger of `fastapi_core/routers/health.py`. -/
def healthRouterModule : String := "fastapi_core.routers.health"

namespace PackageFunction

def invoke : PackageFunction :=
  ⟨readinessModule, "_invoke_check.<locals>.invoke"⟩

def invokeCheck : PackageFunction := ⟨readinessModule, "_invoke_check"⟩

def run : PackageFunction :=
  ⟨readinessModule, "ReadinessRegistry.check.<locals>.run"⟩

def structuredResult : PackageFunction :=
  ⟨readinessModule, "_structured_result"⟩

def mergeStructuredResults : PackageFunction :=
  ⟨readinessModule, "_merge_structured_results"⟩

def check : PackageFunction := ⟨readinessModule, "ReadinessRegistry.check"⟩

def resolveSpec : PackageFunction :=
  ⟨readinessModule, "ReadinessRegistry.resolve_spec"⟩

def getReadinessRegistry : PackageFunction :=
  ⟨readinessModule, "get_readiness_registry"⟩

def getConfig : PackageFunction :=
  ⟨"fastapi_core.dependencies.config", "get_config"⟩

def readinessError : PackageFunction :=
  ⟨healthRouterModule, "_readiness_error"⟩

def logReadinessFailure : PackageFunction :=
  ⟨healthRouterModule, "_log_readiness_failure"⟩

def readiness : PackageFunction := ⟨healthRouterModule, "readiness"⟩

end PackageFunction

/-- What the log of a request depends on besides the checks. -/
structure RequestLogging where
  settings : LogSettings
  schedule :
    (parallel : Bool) → (overallTimeoutSeconds : Option ℚ) →
      List (Name × Completion Unit) → (records : Name → Nat) → List Name
  buildServiceLogEvent :
    (service : Name) → (operation : String) → (outcome : HealthStatus) →
      (latencyMs : Option Int) → (error : Option String) →
        (required enabled : Bool) → LogEvent
  formatHealthCheckError :
    (cause : Option HealthCheckResult) → (failure : ServiceHealthStatus) →
      HealthCheckResult → String

/--
When the checks of a request all complete in time, the schedule lets them
write all of their records.
-/
structure RequestLogging.Contract (logging : RequestLogging)
    (sdk : HealthSdk) : Prop where
  complete :
    ∀ parallel overall (timings : List (Name × Completion Unit)) records,
      (∀ timing ∈ timings, timing.2.value?.isSome) →
        sdk.overruns parallel overall timings = false →
          ∀ timing ∈ timings,
            records timing.1 ≤
              (logging.schedule parallel overall timings records).count
                timing.1

/-! ## One check -/

/-- `asyncio.wait_for` cancels the awaitable before it completes. -/
def expires {α : Type} (timeout : Option ℚ) (completion : Completion α) :
    Bool :=
  match timeout, completion with
  | none, _ => false
  | some _, .pending => true
  | some limit, .settles elapsed _ => !decide (elapsed ≤ limit)

/-- The inner `invoke`, from what awaiting the check comes to. -/
def loggedInvoke {α : Type} (settings : LogSettings) (origin : Name)
    (awaited : Option (Except PyExc α)) : Logged PyExc α :=
  settings.boundary .invoke origin (.ofOutcome awaited)

/--
`_invoke_check`.  On a timeout `invoke` is cancelled while it awaits the check,
and `wait_for` raises `TimeoutError` in its place.
-/
def loggedInvokeCheck {α : Type} (settings : LogSettings) (origin : Name)
    (check : CheckBehaviour α) (timeoutSeconds : Option ℚ) :
    Logged PyExc α :=
  settings.boundary .invokeCheck origin
    (if expires timeoutSeconds check.invoke then
      let cancelled : Logged PyExc α :=
        loggedInvoke settings origin (some (.error .cancelledError))
      { cancelled with outcome := some (.error .timeoutError) }
    else loggedInvoke settings origin check.invoke.value?)

namespace ReadinessRegistry

variable (registry : ReadinessRegistry) (logging : RequestLogging)
  (environment : CheckEnvironment)

/-- The part of `run` up to the value after the adapter. -/
def loggedReport (spec : ReadinessCheckSpec) : Logged PyExc CheckValue := do
  let value ←
    loggedInvokeCheck logging.settings spec.name (environment.check spec)
      (registry.effectiveTimeout spec)
  match spec.healthResultAdapter with
  | none => pure value
  | some _ =>
      match environment.adapter spec value with
      | .error exception => .ofOutcome (some (.error exception))
      | .ok result => .ofOutcome result.await.value?

/-- The part of `run` after the adapter. -/
def loggedInterpretValue (spec : ReadinessCheckSpec) (value : CheckValue) :
    Logged PyExc Unit where
  records :=
    match value with
    | .healthCheckResult result =>
        (logging.settings.boundary .structuredResult spec.name
          (pure (structuredResult spec.name result spec.required))).records
    | _ => []
  outcome :=
    some (interpretValue spec.name spec.required value).outcome

/-- The inner `run` for one spec. -/
def loggedRun (spec : ReadinessCheckSpec) : Logged PyExc Unit :=
  logging.settings.boundary .run spec.name do
    let value ← registry.loggedReport logging environment spec
    loggedInterpretValue logging spec value

/-! ## All checks -/

/-- The records of the check which is registered under a name. -/
def checkRecords (specs : List ReadinessCheckSpec) (name : Name) :
    List LogRecord :=
  match specs.find? fun spec => spec.name = name with
  | none => []
  | some spec => (registry.loggedRun logging environment spec).records

variable (sdk : HealthSdk)

/-- The records of all checks of a request, as the schedule has them. -/
def interleavedRecords (specs : List ReadinessCheckSpec) (parallel : Bool)
    (overallTimeoutSeconds : Option ℚ) : List LogRecord :=
  interleave (registry.checkRecords logging environment specs)
    (logging.schedule parallel overallTimeoutSeconds
      (sdkTimings (registry.sdkChecks environment specs))
      fun name =>
        (registry.checkRecords logging environment specs name).length)

/-- The result which the SDK hands over, by return or inside its error. -/
def sdkResult :
    Option (Except SdkFailure HealthCheckResult) → Option HealthCheckResult
  | some (.ok result) => some result
  | some (.error (.healthCheckError result)) => some result
  | _ => none

/-- The formatted text of an exception which leaves `check`. -/
def formatCheckFailure (reply : Option (Except SdkFailure HealthCheckResult)) :
    CheckFailure → Option String
  | .healthCheckError failure result =>
      some
        (logging.formatHealthCheckError (sdkResult reply) failure result)
  | .timeoutError =>
      logging.settings.formatException .check "" .timeoutError
  | .raised exception =>
      logging.settings.formatException .check "" exception

/-- The records of `_merge_structured_results`, if there is a result. -/
def mergeRecords : Option HealthCheckResult → List LogRecord
  | none => []
  | some result =>
      (logging.settings.boundary .mergeStructuredResults ""
        (pure result)).records

/-- `ReadinessRegistry.check`. -/
def loggedCheck (names : Option (List Name)) (parallel : Bool)
    (overallTimeoutSeconds : Option ℚ) :
    Logged CheckFailure HealthCheckResult :=
  let specs := registry.selected names
  let reply :=
    sdk.asyncCheckAllServices parallel overallTimeoutSeconds
      (requiredNames specs) (registry.sdkChecks environment specs)
  logging.settings.logFunctionBoundary .check
    (formatCheckFailure logging reply)
    { records :=
        registry.interleavedRecords logging environment specs parallel
            overallTimeoutSeconds ++
          mergeRecords logging (sdkResult reply)
      outcome :=
        registry.check sdk environment names parallel
          overallTimeoutSeconds }

end ReadinessRegistry

/-! ## The endpoint -/

variable (logging : RequestLogging) (registry : ReadinessRegistry)

/-- `ReadinessRegistry.resolve_spec`. -/
def loggedResolveSpec (name : Name) : Logged PyExc ReadinessCheckSpec :=
  logging.settings.boundary .resolveSpec name
    (.ofOutcome (some (registry.resolveSpec name)))

/-- `_readiness_error`. -/
def loggedReadinessError (serviceName : Name) (ok : Bool)
    (error : Option String) : Logged PyExc (Option String) :=
  logging.settings.boundary .readinessError serviceName
    (if ok then pure error
    else do
      let spec ← loggedResolveSpec logging registry serviceName
      pure (policyError registry spec error))

/-- The loop body of `readiness` for one entry. -/
def loggedDetail (service : ServiceHealthStatus) :
    Logged PyExc (Name × HealthServiceDetail) := do
  let spec ← loggedResolveSpec logging registry service.service
  let error ←
    loggedReadinessError logging registry service.service service.ok
      service.error
  pure
    (service.service,
      { ok := service.ok
        latencyMs := service.latencyMs
        error
        required := spec.required
        enabled := true })

/-- `_log_readiness_failure`. -/
def loggedReadinessFailure (outcome : HealthStatus)
    (failure : Name × HealthServiceDetail) : Logged PyExc Unit :=
  logging.settings.boundary .logReadinessFailure failure.1
    (if logging.settings.isEnabledFor healthRouterModule .warning then
      .emit
        { logger := healthRouterModule
          level := .warning
          message := "readiness_check_failed"
          event :=
            some
              (logging.buildServiceLogEvent failure.1 "readiness_check"
                outcome failure.2.latencyMs failure.2.error
                failure.2.required failure.2.enabled) }
    else pure ())

/-- The part of `readiness` after the checks. -/
def loggedRespond (services : List ServiceHealthStatus) :
    Logged PyExc HealthReply := do
  let collected : CollectedDetails ←
    (services.map (loggedDetail logging registry)).foldlM
      (fun collected detail => do
        let named ← detail
        pure (collected.store named))
      {}
  collected.failures.forM
    (loggedReadinessFailure logging (statusText collected.failures))
  pure collected.reply

/-- The record for an overall timeout. -/
def loggedTimeout : Logged PyExc HealthReply := do
  if logging.settings.isEnabledFor healthRouterModule .warning then
    .emit
      { logger := healthRouterModule
        level := .warning
        message := "readiness_check_timeout"
        event :=
          some
            [("operation", "readiness_check"), ("outcome", "error"),
              ("timeout_scope", "overall")] }
  else pure ()
  pure (.jsonResponse 503 { status := .error })

/-- The handlers of `readiness` for the outcome of the checks. -/
def loggedAnswer :
    Option (Except CheckFailure HealthCheckResult) →
      Logged PyExc HealthReply
  | none => .ofOutcome none
  | some (.ok result) => loggedRespond logging registry result.services
  | some (.error (.healthCheckError _ result)) =>
      loggedRespond logging registry result.services
  | some (.error .timeoutError) => loggedTimeout logging
  | some (.error (.raised exception)) => .ofOutcome (some (.error exception))

/-- The accessors which `readiness` calls before it looks at the checks. -/
def accessRecords : List LogRecord :=
  (logging.settings.boundary .getReadinessRegistry ""
      (pure ())).records ++
    (logging.settings.boundary .getConfig "" (pure ())).records

/-- `readiness` with the records which it writes. -/
def loggedReadiness (config : AppConfig) (sdk : HealthSdk)
    (environment : CheckEnvironment) : Logged PyExc HealthReply :=
  logging.settings.boundary .readiness ""
    (if registry.specList = [] then
      { records := accessRecords logging
        outcome := some (.ok (.model { status := .ok })) }
    else
      let checked :=
        registry.loggedCheck logging environment sdk none
          config.readinessParallel config.readinessOverallTimeoutSeconds
      let answer := loggedAnswer logging registry checked.outcome
      { records :=
          accessRecords logging ++ checked.records ++ answer.records
        outcome := answer.outcome })

/-! ## Forgetting the records -/

theorem outcome_loggedInvokeCheck {α : Type} (settings : LogSettings)
    (origin : Name) (check : CheckBehaviour α)
    (timeoutSeconds : Option ℚ) :
    (loggedInvokeCheck settings origin check timeoutSeconds).outcome =
      (FastapiCore.invokeCheck check timeoutSeconds).value? := by
  rw [loggedInvokeCheck, LogSettings.outcome_boundary, invokeCheck]
  cases timeoutSeconds with
  | none => simp [expires, waitFor, loggedInvoke, Logged.ofOutcome]
  | some limit =>
      cases check.invoke with
      | pending => simp [expires, waitFor, Completion.value?]
      | settles elapsed outcome =>
          by_cases inTime : elapsed ≤ limit
          · simp [expires, waitFor, inTime, loggedInvoke,
              Logged.ofOutcome]
          · simp [expires, waitFor, inTime, Completion.value?]

namespace ReadinessRegistry

variable {logging registry} {environment : CheckEnvironment}

theorem outcome_loggedReport (spec : ReadinessCheckSpec) :
    (registry.loggedReport logging environment spec).outcome =
      (registry.report environment spec).value? := by
  have invoked :=
    outcome_loggedInvokeCheck logging.settings spec.name
      (environment.check spec) (registry.effectiveTimeout spec)
  rw [loggedReport, report]
  cases completion :
      invokeCheck (environment.check spec)
        (registry.effectiveTimeout spec) with
  | pending =>
      rw [completion] at invoked
      rw [Logged.bind_eq_of_none invoked]
      rfl
  | settles elapsed outcome =>
      rw [completion] at invoked
      cases outcome with
      | error exception =>
          rw [Logged.bind_eq_of_error invoked]
          rfl
      | ok value =>
          rw [Logged.bind_eq_of_ok invoked]
          cases spec.healthResultAdapter with
          | none => rfl
          | some adapter =>
              simp only [Completion.andThen]
              cases environment.adapter spec value with
              | error exception => rfl
              | ok result =>
                  cases awaited : result.await with
                  | pending => simp [Logged.ofOutcome, awaited]
                  | settles later reported =>
                      simp [Logged.ofOutcome, awaited, Completion.value?]

end ReadinessRegistry

variable {logging registry}

/-- The loop body looks up and stores as `readinessDetail` does. -/
theorem outcome_loggedDetail (service : ServiceHealthStatus) :
    (loggedDetail logging registry service).outcome =
      some
        ((readinessDetail registry service).map
          (service.service, ·)) := by
  have resolved :
      (loggedResolveSpec logging registry service.service).outcome =
        some (registry.resolveSpec service.service) :=
    rfl
  rw [loggedDetail, readinessDetail_eq]
  cases governs : registry.resolveSpec service.service with
  | error exception =>
      rw [governs] at resolved
      rw [Logged.bind_eq_of_error resolved]
      rfl
  | ok spec =>
      rw [governs] at resolved
      rw [Logged.bind_eq_of_ok resolved]
      have text :
          (loggedReadinessError logging registry service.service
              service.ok service.error).outcome =
            some
              (.ok
                (if service.ok then service.error
                else policyError registry spec service.error)) := by
        rw [loggedReadinessError, LogSettings.outcome_boundary]
        cases service.ok with
        | true => rfl
        | false =>
            rw [if_neg nofun, Logged.bind_eq_of_ok resolved]
            rfl
      rw [Logged.bind_eq_of_ok text]
      rfl

/-- A loop over logged lookups stores what the lookups return. -/
theorem outcome_foldlM_store {β γ : Type} (store : γ → β → γ)
    (calls : List (Logged PyExc β)) (results : List (Except PyExc β))
    (outcomes : calls.map Logged.outcome = results.map some) (start : γ) :
    (calls.foldlM
        (fun collected call => do
          let found ← call
          pure (store collected found))
        start : Logged PyExc γ).outcome =
      some
        (results.foldlM
          (fun collected result => do
            let found ← result
            pure (store collected found))
          start) := by
  induction calls generalizing results start with
  | nil =>
      rw [List.map_nil, eq_comm, List.map_eq_nil_iff] at outcomes
      rw [outcomes]
      rfl
  | cons call rest induction =>
      cases results with
      | nil => cases outcomes
      | cons result others =>
          rw [List.map_cons, List.map_cons, List.cons.injEq] at outcomes
          rcases outcomes with ⟨first, remaining⟩
          rw [List.foldlM_cons, List.foldlM_cons]
          cases result with
          | error exception =>
              rw [Logged.bind_eq_of_error first,
                Logged.bind_eq_of_error rfl]
              rfl
          | ok found =>
              rw [Logged.bind_eq_of_ok first, Logged.bind_eq_of_ok rfl]
              exact induction others remaining (store start found)

theorem outcome_forM_readinessFailure (status : HealthStatus)
    (failures : List (Name × HealthServiceDetail)) :
    (failures.forM
        (loggedReadinessFailure logging status)).outcome =
      some (.ok ()) := by
  induction failures with
  | nil => rfl
  | cons failure rest induction =>
      have written :
          (loggedReadinessFailure logging status failure).outcome =
            some (.ok ()) := by
        rw [loggedReadinessFailure, LogSettings.outcome_boundary]
        split_ifs <;> rfl
      show
        (loggedReadinessFailure logging status failure >>= fun _ =>
          rest.forM (loggedReadinessFailure logging status)).outcome = _
      rw [Logged.bind_eq_of_ok written]
      exact induction

theorem outcome_loggedRespond (result : HealthCheckResult) :
    (loggedRespond logging registry result.services).outcome =
      some (respond registry result) := by
  have outcomes :
      (result.services.map (loggedDetail logging registry)).map
          Logged.outcome =
        (result.services.map fun service =>
            (readinessDetail registry service).map
              (service.service, ·)).map some := by
    rw [List.map_map, List.map_map]
    exact List.map_congr_left fun service _ => outcome_loggedDetail service
  have loop :=
    outcome_foldlM_store CollectedDetails.store _ _ outcomes {}
  have lookups :
      collectDetails registry result.services =
        (result.services.map fun service =>
            (readinessDetail registry service).map
              (service.service, ·)).foldlM
          (fun collected found => do
            let named ← found
            pure (collected.store named))
          {} := by
    rw [collectDetails, List.foldlM_map]
  rw [← lookups] at loop
  rw [loggedRespond, respond]
  cases collected : collectDetails registry result.services with
  | error exception =>
      rw [collected] at loop
      rw [Logged.bind_eq_of_error loop]
      rfl
  | ok details =>
      rw [collected] at loop
      rw [Logged.bind_eq_of_ok loop,
        Logged.bind_eq_of_ok (outcome_forM_readinessFailure _ _)]
      rfl

/-- The wrappers and the records do not change how a request ends. -/
theorem outcome_loggedReadiness (config : AppConfig) (sdk : HealthSdk)
    (environment : CheckEnvironment) :
    (loggedReadiness logging registry config sdk environment).outcome =
      readiness registry config sdk environment := by
  rw [loggedReadiness, LogSettings.outcome_boundary, readiness]
  split_ifs with empty
  · rfl
  · show
      (loggedAnswer logging registry
        (registry.check sdk environment none config.readinessParallel
          config.readinessOverallTimeoutSeconds)).outcome = _
    cases
      registry.check sdk environment none config.readinessParallel
        config.readinessOverallTimeoutSeconds with
    | none => rfl
    | some checked =>
        cases checked with
        | ok result => exact outcome_loggedRespond result
        | error failure =>
            cases failure with
            | healthCheckError failure result =>
                exact outcome_loggedRespond result
            | timeoutError =>
                rw [loggedAnswer, loggedTimeout]
                split_ifs <;> rfl
            | raised exception => rfl

end FastapiCore
