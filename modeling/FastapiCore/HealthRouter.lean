import FastapiCore.AppConfig
import FastapiCore.Library.FallibleLoop
import FastapiCore.ReadinessCheck

/-!
# The readiness endpoint

`GET /health/readiness` runs the registered checks and answers with one detail
for each entry of the result.  The flags and the visible error text of a detail
come from the spec which `resolveSpec` finds for the name of the entry, not
from the spec which produced the entry.

A handler returns the response model, which is sent with status 200, or a
`JSONResponse` with a status of its own.  An exception of the handler is a
response with status 500.
-/

namespace FastapiCore

open Library

/-! ## The response -/

/-- The detail of one entry in the response. -/
structure HealthServiceDetail where
  ok : Bool
  latencyMs : Option Int := none
  error : Option String := none
  required : Bool := false
  enabled : Bool := true
deriving DecidableEq, Repr

inductive HealthStatus where
  | ok
  | degraded
  | error
deriving DecidableEq, Repr

structure HealthResponse where
  status : HealthStatus
  details : Option (OrderedDict Name HealthServiceDetail) := none
deriving DecidableEq, Repr

/-- What the handler returns. -/
inductive HealthReply where
  | model (response : HealthResponse)
  | jsonResponse (statusCode : Nat) (content : HealthResponse)
deriving DecidableEq, Repr

/-- The HTTP status which the client receives. -/
def HealthReply.statusCode : HealthReply → Nat
  | .model _ => 200
  | .jsonResponse statusCode _ => statusCode

/-- The body which the client receives. -/
def HealthReply.body : HealthReply → HealthResponse
  | .model response => response
  | .jsonResponse _ content => content

/-! ## Details -/

/-- The visible error text of a failing entry under the policy of a spec. -/
def policyError (registry : ReadinessRegistry) (spec : ReadinessCheckSpec)
    (error : Option String) : Option String :=
  if spec.redactErrors then some "readiness check failed"
  else if error.getD "" ≠ "" then error
  else
    match registry.effectiveTimeout spec with
    | some _ => some "health check timed out"
    | none => none

/-- `_readiness_error`. -/
def readinessError (serviceName : Name) (ok : Bool) (error : Option String)
    (registry : ReadinessRegistry) : Except PyExc (Option String) := do
  if ok then
    return error
  let spec ← registry.resolveSpec serviceName
  return policyError registry spec error

/-- The detail of one entry, in the loop of `readiness`. -/
def readinessDetail (registry : ReadinessRegistry)
    (service : ServiceHealthStatus) : Except PyExc HealthServiceDetail := do
  let spec ← registry.resolveSpec service.service
  let error ←
    readinessError service.service service.ok service.error registry
  return {
    ok := service.ok
    latencyMs := service.latencyMs
    error
    required := spec.required
    enabled := true }

/-- The variables which the loop of `readiness` fills. -/
structure CollectedDetails where
  details : OrderedDict Name HealthServiceDetail := .empty
  failures : List (Name × HealthServiceDetail) := []

/-- Store the detail of one entry. -/
def CollectedDetails.store (collected : CollectedDetails)
    (named : Name × HealthServiceDetail) : CollectedDetails where
  details := collected.details.insert named.1 named.2
  failures :=
    if named.2.ok then collected.failures
    else collected.failures ++ [named]

/-- The loop of `readiness` over the entries of the result. -/
def collectDetails (registry : ReadinessRegistry)
    (services : List ServiceHealthStatus) : Except PyExc CollectedDetails :=
  services.foldlM
    (fun collected service => do
      let named ←
        (readinessDetail registry service).map (service.service, ·)
      pure (collected.store named))
    {}

/-- The status for a list of failing details. -/
def statusText (failures : List (Name × HealthServiceDetail)) :
    HealthStatus :=
  if failures.any fun failure => failure.2.required then .error
  else if failures ≠ [] then .degraded
  else .ok

/-- The reply for a filled pair of variables. -/
def CollectedDetails.reply (collected : CollectedDetails) : HealthReply :=
  let status := statusText collected.failures
  let response : HealthResponse :=
    { status, details := some collected.details }
  if status = .error then .jsonResponse 503 response else .model response

/-- The part of `readiness` after the checks. -/
def respond (registry : ReadinessRegistry) (result : HealthCheckResult) :
    Except PyExc HealthReply :=
  (collectDetails registry result.services).map CollectedDetails.reply

/--
`readiness`.  The value `none` is a request which is never answered, because
an awaited check never completes.
-/
def readiness (registry : ReadinessRegistry) (config : AppConfig)
    (sdk : HealthSdk) (environment : CheckEnvironment) :
    Option (Except PyExc HealthReply) :=
  if registry.specList = [] then
    some (.ok (.model { status := .ok }))
  else
    match
      registry.check sdk environment none config.readinessParallel
        config.readinessOverallTimeoutSeconds
    with
    | none => none
    | some (.ok result) => some (respond registry result)
    | some (.error (.healthCheckError _ result)) =>
        some (respond registry result)
    | some (.error .timeoutError) =>
        some (.ok (.jsonResponse 503 { status := .error }))
    | some (.error (.raised exception)) => some (.error exception)

/-! ## The detail under the governing spec -/

namespace ReadinessRegistry

variable (registry : ReadinessRegistry)

/-- Some spec governs the entry of this name. -/
def Resolves (name : Name) : Prop :=
  ∃ spec, registry.resolveSpec name = .ok spec

/-- The detail of an entry under the policy of a spec. -/
def detailUnder (spec : ReadinessCheckSpec)
    (service : ServiceHealthStatus) : HealthServiceDetail where
  ok := service.ok
  latencyMs := service.latencyMs
  error :=
    if service.ok then service.error
    else policyError registry spec service.error
  required := spec.required
  enabled := true

end ReadinessRegistry

variable {registry : ReadinessRegistry}

/-- The only lookup which can fail is the resolution of the name. -/
theorem readinessDetail_eq (service : ServiceHealthStatus) :
    readinessDetail registry service =
      (registry.resolveSpec service.service).map fun spec =>
        registry.detailUnder spec service := by
  rw [readinessDetail]
  cases resolved : registry.resolveSpec service.service with
  | error exception => rfl
  | ok spec =>
      cases flag : service.ok with
      | true => simp [readinessError, ReadinessRegistry.detailUnder, flag]; rfl
      | false =>
          simp [readinessError, ReadinessRegistry.detailUnder, flag,
            resolved]
          rfl

/-- The loop is a series of lookups and a pure fold. -/
theorem collectDetails_eq (services : List ServiceHealthStatus) :
    collectDetails registry services =
      (services.mapM fun service =>
          (readinessDetail registry service).map (service.service, ·)).map
        fun named => named.foldl CollectedDetails.store {} :=
  foldlM_lookup_store _ _ _ _

theorem details_foldl_store (named : List (Name × HealthServiceDetail))
    (start : CollectedDetails) :
    (named.foldl CollectedDetails.store start).details =
      named.foldl (fun details pair => details.insert pair.1 pair.2)
        start.details := by
  induction named generalizing start with
  | nil => rfl
  | cons pair rest induction => exact induction _

theorem failures_foldl_store (named : List (Name × HealthServiceDetail))
    (start : CollectedDetails) :
    (named.foldl CollectedDetails.store start).failures =
      start.failures ++ named.filter fun pair => !pair.2.ok := by
  induction named generalizing start with
  | nil => simp
  | cons pair rest induction =>
      rw [List.foldl_cons, induction, CollectedDetails.store]
      cases ok : pair.2.ok <;> simp [ok]

/-! ## The reply when every name resolves -/

/-- The detail of an entry whose name resolves. -/
def ReadinessRegistry.visibleDetail (registry : ReadinessRegistry)
    (service : ServiceHealthStatus) : HealthServiceDetail :=
  match registry.resolveSpec service.service with
  | .ok spec => registry.detailUnder spec service
  | .error _ => { ok := service.ok }

/-- The named details of a list of entries. -/
def ReadinessRegistry.visibleDetails (registry : ReadinessRegistry)
    (services : List ServiceHealthStatus) :
    List (Name × HealthServiceDetail) :=
  services.map fun service =>
    (service.service, registry.visibleDetail service)

theorem ReadinessRegistry.visibleDetail_of_resolveSpec
    {service : ServiceHealthStatus} {spec : ReadinessCheckSpec}
    (resolved : registry.resolveSpec service.service = .ok spec) :
    registry.visibleDetail service = registry.detailUnder spec service := by
  rw [visibleDetail, resolved]

@[simp]
theorem ReadinessRegistry.visibleDetail_ok
    (service : ServiceHealthStatus) :
    (registry.visibleDetail service).ok = service.ok := by
  rw [visibleDetail]
  cases registry.resolveSpec service.service <;> rfl

theorem respond_eq_ok {result : HealthCheckResult}
    (resolved :
      ∀ service ∈ result.services, registry.Resolves service.service) :
    respond registry result =
      .ok
        ((registry.visibleDetails result.services).foldl
          CollectedDetails.store {}).reply := by
  rw [respond, collectDetails_eq, mapM_eq_ok]
  · rfl
  · intro service member
    rcases resolved service member with ⟨spec, governs⟩
    rw [readinessDetail_eq, governs,
      registry.visibleDetail_of_resolveSpec governs]
    rfl

theorem respond_isOk_iff {result : HealthCheckResult} :
    (∃ reply, respond registry result = .ok reply) ↔
      ∀ service ∈ result.services, registry.Resolves service.service := by
  constructor
  · rintro ⟨reply, responded⟩
    rw [respond, collectDetails_eq] at responded
    cases loop :
        result.services.mapM fun service =>
          (readinessDetail registry service).map (service.service, ·) with
    | error exception => rw [loop] at responded; cases responded
    | ok named =>
        intro service member
        rcases mapM_isOk_iff.mp ⟨named, loop⟩ service member with
          ⟨pair, found⟩
        rw [readinessDetail_eq] at found
        cases resolved : registry.resolveSpec service.service with
        | error exception => rw [resolved] at found; cases found
        | ok spec => exact ⟨spec, resolved⟩
  · intro resolved
    exact ⟨_, respond_eq_ok resolved⟩

/-! ## The status of the reply -/

namespace CollectedDetails

variable (collected : CollectedDetails)

/-- Some failing detail is required. -/
def RequiredFailure : Prop :=
  ∃ failure ∈ collected.failures, failure.2.required = true

theorem statusText_eq_error_iff :
    statusText collected.failures = .error ↔ collected.RequiredFailure := by
  rw [statusText, RequiredFailure, ← List.any_eq_true]
  split_ifs <;> simp [*]

theorem statusText_eq_ok_iff :
    statusText collected.failures = .ok ↔ collected.failures = [] := by
  rw [statusText]
  split_ifs with required failed
  · simp only [false_iff]
    intro none
    rw [none] at required
    cases required
  · simpa using failed
  · simpa using failed

/-- The reply has status 503 for an error and 200 otherwise. -/
theorem reply_error_iff :
    collected.reply.statusCode = 503 ∧
        collected.reply.body.status = .error ↔
      collected.RequiredFailure := by
  rw [← statusText_eq_error_iff, reply]
  split_ifs with error <;>
    simp [error, HealthReply.statusCode, HealthReply.body]

theorem reply_ok_iff :
    collected.reply.statusCode = 200 ∧
        collected.reply.body.status = .ok ↔
      collected.failures = [] := by
  rw [← statusText_eq_ok_iff, reply]
  split_ifs with error <;>
    simp [error, HealthReply.statusCode, HealthReply.body]

theorem reply_degraded_iff :
    collected.reply.statusCode = 200 ∧
        collected.reply.body.status = .degraded ↔
      ¬ collected.RequiredFailure ∧ collected.failures ≠ [] := by
  rw [← statusText_eq_error_iff, Ne, ← statusText_eq_ok_iff, reply]
  split_ifs with error
  · simp [error, HealthReply.statusCode]
  · cases status : statusText collected.failures with
    | error => exact (error status).elim
    | ok => simp [HealthReply.statusCode, HealthReply.body]
    | degraded => simp [HealthReply.statusCode, HealthReply.body]

/-- The reply is determined by the details and two facts about failures. -/
theorem reply_congr {first second : CollectedDetails}
    (details : first.details = second.details)
    (required : first.RequiredFailure ↔ second.RequiredFailure)
    (failures : first.failures = [] ↔ second.failures = []) :
    first.reply = second.reply := by
  have status :
      statusText first.failures = statusText second.failures := by
    rw [← first.statusText_eq_error_iff,
      ← second.statusText_eq_error_iff] at required
    rw [← first.statusText_eq_ok_iff,
      ← second.statusText_eq_ok_iff] at failures
    cases firstStatus : statusText first.failures <;>
      cases secondStatus : statusText second.failures <;>
      simp_all
  rw [reply, reply, status, details]

theorem reply_details (collected : CollectedDetails) :
    collected.reply.body.details = some collected.details := by
  rw [reply]
  split_ifs <;> rfl

end CollectedDetails

end FastapiCore
