import FastapiCore.ReadinessRegistry
import Mathlib.Data.List.Sort

/-!
# Running the readiness checks

`ReadinessRegistry.check` runs the selected checks through
`async_check_all_services` of the service SDK and then replaces the entry of
every check which returned a structured result by the entries of its children.

User code enters as the behaviour of each check and adapter, including an
awaitable which never completes.  The SDK function is a parameter `HealthSdk`;
what the code relies on is stated separately as `HealthSdk.Contract`.  The
checks write their structured results into one shared dictionary in the order
in which they finish, and that order belongs to the SDK as well.
-/

namespace FastapiCore

open Library

/-! ## Awaiting user code -/

/-- What awaiting comes to: a value after some time, or no completion. -/
inductive Completion (α : Type) where
  | settles (elapsed : ℚ) (value : α)
  | pending
deriving DecidableEq

namespace Completion

/-- Await one completion after another. -/
def andThen {α β : Type} (completion : Completion α)
    (next : α → Completion β) : Completion β :=
  match completion with
  | .pending => .pending
  | .settles elapsed value =>
      match next value with
      | .pending => .pending
      | .settles later result => .settles (elapsed + later) result

/-- The value of a completion which settles. -/
def value? {α : Type} : Completion α → Option α
  | .settles _ value => some value
  | .pending => none

def map {α β : Type} (change : α → β) : Completion α → Completion β
  | .settles elapsed value => .settles elapsed (change value)
  | .pending => .pending

end Completion

/-- A call returns a value, or an awaitable of one. -/
inductive Returned (α : Type) where
  | value (result : α)
  | awaitable (completion : Completion (Except PyExc α))

/-- `if inspect.isawaitable(result): result = await result`. -/
def Returned.await {α : Type} : Returned α → Completion (Except PyExc α)
  | .value result => .settles 0 (.ok result)
  | .awaitable completion => completion

/-- How a check behaves when it is invoked. -/
inductive CheckBehaviour (α : Type) where
  | coroutineFunction (completion : Completion (Except PyExc α))
  | syncFunction (call : Completion (Except PyExc (Returned α)))

/--
The inner `invoke` of `_invoke_check`: a coroutine function is awaited, any
other callable runs in a worker thread and its result is awaited if needed.
-/
def CheckBehaviour.invoke {α : Type} :
    CheckBehaviour α → Completion (Except PyExc α)
  | .coroutineFunction completion => completion
  | .syncFunction call =>
      call.andThen fun
        | .error exception => .settles 0 (.error exception)
        | .ok result => result.await

/-- `asyncio.wait_for(awaitable, timeout=timeout)`. -/
def waitFor {α : Type} (timeout : Option ℚ)
    (awaitable : Completion (Except PyExc α)) :
    Completion (Except PyExc α) :=
  match timeout with
  | none => awaitable
  | some limit =>
      match awaitable with
      | .pending => .settles limit (.error .timeoutError)
      | .settles elapsed outcome =>
          if elapsed ≤ limit then .settles elapsed outcome
          else .settles limit (.error .timeoutError)

/-- `_invoke_check`. -/
def invokeCheck {α : Type} (check : CheckBehaviour α)
    (timeoutSeconds : Option ℚ) : Completion (Except PyExc α) :=
  waitFor timeoutSeconds check.invoke

/-! ## Health results -/

/-- The status of one service in a health result. -/
structure ServiceHealthStatus where
  service : Name
  ok : Bool
  latencyMs : Option Int := none
  required : Bool := false
  error : Option String := none
  errorType : Option String := none
deriving DecidableEq, Repr

/-- The aggregate of the services of a health check. -/
structure HealthCheckResult where
  ok : Bool
  services : List ServiceHealthStatus
deriving DecidableEq, Repr

/-- What a check, or its adapter, may report. -/
inductive CheckValue where
  | none
  | bool (value : Bool)
  | healthCheckResult (result : HealthCheckResult)
  | serviceHealthStatus (status : ServiceHealthStatus)
  | healthOutcome (ok : Except PyExc Bool) (error : Option String)
  | sentinel (object : PyObject)

/-- `text or default`. -/
def orDefault (text : Option String) (default : String) : String :=
  match text with
  | some found => if found = "" then default else found
  | none => default

/-- A structured child under the name and policy of its parent. -/
def renameChild (parent : Name) (required : Bool)
    (service : ServiceHealthStatus) : ServiceHealthStatus :=
  { service with service := childName parent service.service, required }

/-- `_structured_result`. -/
def structuredResult (parent : Name) (result : HealthCheckResult)
    (required : Bool) : HealthCheckResult where
  ok := result.ok && result.services.all ServiceHealthStatus.ok
  services := result.services.map (renameChild parent required)

/--
The entries which stand for a check in the merged result: the children of its
structured result, unless there are none or the entry of the check is the
only one to report its failure.
-/
def mergeEntry (service : ServiceHealthStatus) :
    Option HealthCheckResult → List ServiceHealthStatus
  | none => [service]
  | some nested =>
      if nested.services = [] ∨
          (nested.ok = false ∧
            nested.services.all ServiceHealthStatus.ok = true) then
        [service]
      else nested.services

/-- One iteration of the loop in `_merge_structured_results`. -/
def mergeService
    (structured : OrderedDict Name HealthCheckResult)
    (service : ServiceHealthStatus) : List ServiceHealthStatus :=
  mergeEntry service (structured.get? service.service)

/-- `_merge_structured_results`. -/
def mergeStructuredResults (result : HealthCheckResult)
    (structured : OrderedDict Name HealthCheckResult) :
    HealthCheckResult where
  ok :=
    (result.services.flatMap (mergeService structured)).all
      ServiceHealthStatus.ok
  services := result.services.flatMap (mergeService structured)

/-! ## One check -/

/-- The behaviour of the checks and adapters of a registry. -/
structure CheckEnvironment where
  check : ReadinessCheckSpec → CheckBehaviour CheckValue
  adapter :
    ReadinessCheckSpec → CheckValue → Except PyExc (Returned CheckValue)

/-- What one inner `run` stores, and how it ends. -/
structure CheckRun where
  structured : Option HealthCheckResult
  outcome : Except PyExc Unit

/-- The tail of `run`: what the reported value means for the check. -/
def interpretValue (name : Name) (required : Bool) : CheckValue → CheckRun
  | .bool false =>
      { structured := none
        outcome := .error (.runtimeError "readiness check returned False") }
  | .healthCheckResult result =>
      let nested := structuredResult name result required
      { structured := some nested
        outcome :=
          if nested.ok then .ok ()
          else .error (.runtimeError "structured readiness check failed") }
  | .serviceHealthStatus status =>
      { structured := none
        outcome :=
          if status.ok then .ok ()
          else
            .error
              (.runtimeError
                (orDefault status.error "service health check failed")) }
  | .none => { structured := none, outcome := .ok () }
  | .bool true => { structured := none, outcome := .ok () }
  | .healthOutcome (.error exception) _ =>
      { structured := none, outcome := .error exception }
  | .healthOutcome (.ok true) _ => { structured := none, outcome := .ok () }
  | .healthOutcome (.ok false) error =>
      { structured := none
        outcome :=
          .error
            (.runtimeError (orDefault error "health outcome was not ok")) }
  | .sentinel _ => { structured := none, outcome := .ok () }

/-- How `run` ends once the value of the check and its adapter is known. -/
def runOfReport (spec : ReadinessCheckSpec) :
    Except PyExc CheckValue → CheckRun
  | .error exception => { structured := none, outcome := .error exception }
  | .ok value => interpretValue spec.name spec.required value

namespace ReadinessRegistry

variable (registry : ReadinessRegistry)

/-- `spec.timeout_seconds or self.default_timeout_seconds`. -/
def effectiveTimeout (spec : ReadinessCheckSpec) : Option ℚ :=
  match spec.timeoutSeconds with
  | some seconds =>
      if seconds = 0 then registry.defaultTimeoutSeconds else some seconds
  | none => registry.defaultTimeoutSeconds

/-- The value of the check after its adapter. -/
def report (environment : CheckEnvironment) (spec : ReadinessCheckSpec) :
    Completion (Except PyExc CheckValue) :=
  (invokeCheck (environment.check spec)
      (registry.effectiveTimeout spec)).andThen fun
    | .error exception => .settles 0 (.error exception)
    | .ok value =>
        match spec.healthResultAdapter with
        | none => .settles 0 (.ok value)
        | some _ =>
            match environment.adapter spec value with
            | .error exception => .settles 0 (.error exception)
            | .ok result => result.await

/-- The inner `run` of `check` for one spec. -/
def run (environment : CheckEnvironment) (spec : ReadinessCheckSpec) :
    Completion CheckRun :=
  (registry.report environment spec).map (runOfReport spec)

end ReadinessRegistry

/-! ## The service SDK -/

/-- How `async_check_all_services` raises. -/
inductive SdkFailure where
  | healthCheckError (result : HealthCheckResult)
  | timeoutError
  | raised (exception : PyExc)

/-- A check as the SDK receives it, with what awaiting it comes to. -/
abbrev SdkCheck := Name × Completion (Except PyExc Unit)

/--
The SDK side of a health check.  `describe` makes the entry of one check,
`overruns` decides from the timing of the checks whether the overall timeout
fires, and `finishOrder` is the order in which the checks finish.
-/
structure HealthSdk where
  asyncCheckAllServices :
    (parallel : Bool) → (overallTimeoutSeconds : Option ℚ) →
      (requiredServices : List Name) → List SdkCheck →
        Option (Except SdkFailure HealthCheckResult)
  describe :
    Name → (required : Bool) → (elapsed : ℚ) → Except PyExc Unit →
      ServiceHealthStatus
  overruns :
    (parallel : Bool) → (overallTimeoutSeconds : Option ℚ) →
      List (Name × Completion Unit) → Bool
  finishOrder :
    (parallel : Bool) → (overallTimeoutSeconds : Option ℚ) →
      List (Name × Completion Unit) → List Name

/-- The timing of the checks, without their outcomes. -/
def sdkTimings (checks : List SdkCheck) : List (Name × Completion Unit) :=
  checks.map fun check => (check.1, check.2.map fun _ => ())

/-- The entries of the checks which complete, in mapping order. -/
def describedEntries
    (describe :
      Name → Bool → ℚ → Except PyExc Unit → ServiceHealthStatus)
    (requiredServices : List Name) (checks : List SdkCheck) :
    List ServiceHealthStatus :=
  checks.filterMap fun check =>
    match check.2 with
    | .settles elapsed outcome =>
        some (describe check.1 (check.1 ∈ requiredServices) elapsed outcome)
    | .pending => none

/-- The aggregate over a list of entries. -/
def HealthCheckResult.ofServices (services : List ServiceHealthStatus) :
    HealthCheckResult where
  ok := services.all ServiceHealthStatus.ok
  services

/-- The first required entry which failed. -/
def HealthCheckResult.requiredFailure? (result : HealthCheckResult) :
    Option ServiceHealthStatus :=
  result.services.find? fun service => service.required && !service.ok

/-- A result with a required failure is raised, any other is returned. -/
def HealthCheckResult.sdkReply (result : HealthCheckResult) :
    Except SdkFailure HealthCheckResult :=
  match result.requiredFailure? with
  | some _ => .error (.healthCheckError result)
  | none => .ok result

/-- The aggregate over the entries of the checks. -/
def HealthSdk.aggregate (sdk : HealthSdk) (requiredServices : List Name)
    (checks : List SdkCheck) : HealthCheckResult :=
  .ofServices (describedEntries sdk.describe requiredServices checks)

/-- The documented behaviour of the SDK on checks which all complete. -/
structure HealthSdk.Contract (sdk : HealthSdk) : Prop where
  describe_service :
    ∀ name required elapsed outcome,
      (sdk.describe name required elapsed outcome).service = name
  describe_required :
    ∀ name required elapsed outcome,
      (sdk.describe name required elapsed outcome).required = required
  describe_ok :
    ∀ name required elapsed outcome,
      (sdk.describe name required elapsed outcome).ok = true ↔
        outcome = .ok ()
  finishOrder_perm :
    ∀ parallel overall (timings : List (Name × Completion Unit)),
      (∀ timing ∈ timings, timing.2.value?.isSome) →
        sdk.overruns parallel overall timings = false →
          (sdk.finishOrder parallel overall timings).Perm
            (timings.map Prod.fst)
  overruns_none :
    ∀ parallel timings, sdk.overruns parallel none timings = false
  timeout :
    ∀ parallel overall required checks,
      sdk.overruns parallel overall (sdkTimings checks) = true →
        sdk.asyncCheckAllServices parallel overall required checks =
          some (.error .timeoutError)
  reply :
    ∀ parallel overall required (checks : List SdkCheck),
      (∀ check ∈ checks, check.2.value?.isSome) →
        sdk.overruns parallel overall (sdkTimings checks) = false →
          sdk.asyncCheckAllServices parallel overall required checks =
            some (sdk.aggregate required checks).sdkReply

/-! ## A concrete SDK -/

namespace HealthSdk

/-- The entry of one check, with the text of a raised exception. -/
def documentedEntry (name : Name) (required : Bool) (elapsed : ℚ) :
    Except PyExc Unit → ServiceHealthStatus
  | .ok () =>
      { service := name
        ok := true
        latencyMs := some (elapsed * 1000).floor
        required }
  | .error exception =>
      { service := name
        ok := false
        latencyMs := some (elapsed * 1000).floor
        required
        error := some exception.message
        errorType := some exception.cls.name }

/-- The time until all checks have completed. -/
def totalTime (parallel : Bool) :
    List (Name × Completion Unit) → Option ℚ
  | [] => some 0
  | (_, .pending) :: _ => none
  | (_, .settles elapsed _) :: rest =>
      (totalTime parallel rest).map fun later =>
        if parallel then max elapsed later else elapsed + later

/-- The overall timeout fires before all checks have completed. -/
def documentedOverruns (parallel : Bool)
    (overallTimeoutSeconds : Option ℚ)
    (timings : List (Name × Completion Unit)) : Bool :=
  match overallTimeoutSeconds with
  | none => false
  | some limit =>
      match totalTime parallel timings with
      | none => true
      | some total => limit < total

/-- One check completes no later than another. -/
def finishesBefore (first second : Name × Completion Unit) : Bool :=
  match first.2, second.2 with
  | .settles elapsed _, .settles later _ => elapsed ≤ later
  | .settles _ _, .pending => true
  | .pending, .settles _ _ => false
  | .pending, .pending => true

/-- The mapping order, or the order of completion for a parallel run. -/
def documentedFinishOrder (parallel : Bool)
    (timings : List (Name × Completion Unit)) : List Name :=
  if parallel then
    (timings.insertionSort fun first second =>
        finishesBefore first second = true).map Prod.fst
  else timings.map Prod.fst

/-- An SDK which does what its documentation says. -/
def documented : HealthSdk where
  describe := documentedEntry
  overruns := documentedOverruns
  finishOrder parallel _ timings := documentedFinishOrder parallel timings
  asyncCheckAllServices parallel overall required checks :=
    if documentedOverruns parallel overall (sdkTimings checks) then
      some (.error .timeoutError)
    else if checks.all fun check => check.2.value?.isSome then
      let result :=
        HealthCheckResult.ofServices
          (describedEntries documentedEntry required checks)
      some result.sdkReply
    else none

/-- The contract can be kept. -/
theorem documented_contract : documented.Contract where
  describe_service := by
    rintro name required elapsed (exception | ⟨⟩) <;> rfl
  describe_required := by
    rintro name required elapsed (exception | ⟨⟩) <;> rfl
  describe_ok := by
    rintro name required elapsed (exception | ⟨⟩) <;>
      simp [documented, documentedEntry]
  finishOrder_perm := by
    intro parallel overall timings _ _
    cases parallel with
    | false => exact .refl _
    | true => exact (List.perm_insertionSort _ timings).map Prod.fst
  overruns_none := by
    intro parallel timings
    rfl
  timeout := by
    intro parallel overall required checks overrun
    exact if_pos overrun
  reply := by
    intro parallel overall required checks settled inTime
    have allSettled :
        (checks.all fun check => check.2.value?.isSome) = true :=
      List.all_eq_true.mpr settled
    exact (if_neg (ne_true_of_eq_false inTime)).trans (if_pos allSettled)

end HealthSdk

/-! ## All selected checks -/

/-- How `ReadinessRegistry.check` raises. -/
inductive CheckFailure where
  | healthCheckError
      (failure : ServiceHealthStatus) (result : HealthCheckResult)
  | timeoutError
  | raised (exception : PyExc)

namespace ReadinessRegistry

variable (registry : ReadinessRegistry)

/-- The specs which a `names` argument selects, in registration order. -/
def selected (names : Option (List Name)) : List ReadinessCheckSpec :=
  registry.specList.filter fun spec =>
    match names with
    | none => true
    | some chosen => spec.name ∈ chosen

/-- The `checks` mapping, with what awaiting each check comes to. -/
def sdkChecks (environment : CheckEnvironment)
    (specs : List ReadinessCheckSpec) : List SdkCheck :=
  specs.map fun spec =>
    (spec.name, (registry.run environment spec).map CheckRun.outcome)

/-- The names of the required specs. -/
def requiredNames (specs : List ReadinessCheckSpec) : List Name :=
  (specs.filter ReadinessCheckSpec.required).map ReadinessCheckSpec.name

/-- The write of one finished check into the shared dictionary. -/
def storeStructured (environment : CheckEnvironment)
    (specs : List ReadinessCheckSpec)
    (structured : OrderedDict Name HealthCheckResult) (name : Name) :
    OrderedDict Name HealthCheckResult :=
  match specs.find? fun spec => spec.name = name with
  | none => structured
  | some spec =>
      match (registry.run environment spec).value? with
      | some { structured := some nested, .. } =>
          structured.insert name nested
      | _ => structured

/-- The `structured` dictionary after the checks finished. -/
def structuredResults (environment : CheckEnvironment)
    (specs : List ReadinessCheckSpec) (finished : List Name) :
    OrderedDict Name HealthCheckResult :=
  finished.foldl (registry.storeStructured environment specs) .empty

/--
`ReadinessRegistry.check`.  The value `none` is a call which never completes.
A failed search for the reported failure would end the coroutine with the
`RuntimeError` which Python makes of a `StopIteration`.
-/
def check (sdk : HealthSdk) (environment : CheckEnvironment)
    (names : Option (List Name)) (parallel : Bool)
    (overallTimeoutSeconds : Option ℚ) :
    Option (Except CheckFailure HealthCheckResult) :=
  let specs := registry.selected names
  let checks := registry.sdkChecks environment specs
  let structured :=
    registry.structuredResults environment specs
      (sdk.finishOrder parallel overallTimeoutSeconds (sdkTimings checks))
  match
    sdk.asyncCheckAllServices parallel overallTimeoutSeconds
      (requiredNames specs) checks
  with
  | none => none
  | some (.ok result) => some (.ok (mergeStructuredResults result structured))
  | some (.error (.healthCheckError result)) =>
      let merged := mergeStructuredResults result structured
      match merged.requiredFailure? with
      | some failure => some (.error (.healthCheckError failure merged))
      | none =>
          some
            (.error
              (.raised (.runtimeError "coroutine raised StopIteration")))
  | some (.error .timeoutError) => some (.error .timeoutError)
  | some (.error (.raised exception)) => some (.error (.raised exception))

end ReadinessRegistry

end FastapiCore
