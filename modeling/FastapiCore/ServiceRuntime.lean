import FastapiCore.AppConfig
import FastapiCore.ReadinessCheck
import Mathlib.Data.List.Dedup

/-!
# The service runtime

The runtime, the runtime plan and the clients belong to the service SDK.  A
`ServiceRuntime` records what the application reads from a runtime: the sets
of selected and required services, the health check of each service, and what
`get` returns for a service.  A service stands for its `value`; the values are
distinct and not blank.
-/

namespace FastapiCore

open Library

/-! ## Policies and plans -/

/-- `HealthcheckPolicy`. -/
structure HealthcheckPolicy where
  onStartup : Bool
  parallel : Bool
  timeoutSeconds : Option ℚ
  overallTimeoutSeconds : Option ℚ
  failureMode : StartupFailureMode
  attempts : Nat
  retryDelaySeconds : ℚ
deriving DecidableEq

/-- `_build_healthcheck_policy`. -/
def buildHealthcheckPolicy (config : AppConfig) : HealthcheckPolicy where
  onStartup := config.startupHealthcheck
  parallel := config.readinessParallel
  timeoutSeconds := config.readinessTimeoutSeconds
  overallTimeoutSeconds := config.readinessOverallTimeoutSeconds
  failureMode := config.startupFailureMode
  attempts := config.startupHealthcheckAttempts
  retryDelaySeconds := config.startupHealthcheckRetryDelaySeconds

/-- `Service.required()` or `Service.optional()`. -/
structure PlannedService where
  service : Name
  required : Bool
deriving DecidableEq

/-- `RuntimePlan`. -/
structure RuntimePlan where
  services : List PlannedService
  oneOf : List (List Name)
  healthcheck : HealthcheckPolicy
deriving DecidableEq

/-- `runtime_plan.selected_services`. -/
def RuntimePlan.selectedServices (plan : RuntimePlan) : List Name :=
  plan.services.map PlannedService.service

/--
The functions of the service SDK which work on services and plans.  The
diagnosis of a plan is the text of `to_dict` unless it is `ok`.
-/
structure ServiceSdk where
  parseService : String → Except PyExc Name
  validatePlan : RuntimePlan → Except PyExc Unit
  diagnoseServices : RuntimePlan → Option String

/-- Every text is a service, and every plan is valid. -/
def ServiceSdk.accepting : ServiceSdk where
  parseService := .ok
  validatePlan := fun _ => .ok ()
  diagnoseServices := fun _ => none

/-- `build_runtime_plan`. -/
def buildRuntimePlan (sdk : ServiceSdk) (config : AppConfig) :
    Except PyExc RuntimePlan := do
  let services ←
    config.enabledServices.mapM fun serviceName =>
      (sdk.parseService serviceName).map fun service =>
        { service, required := serviceName ∈ config.requiredServices }
  let oneOf ←
    config.serviceAlternatives.mapM fun group =>
      group.mapM sdk.parseService
  let plan : RuntimePlan :=
    { services, oneOf, healthcheck := buildHealthcheckPolicy config }
  sdk.validatePlan plan
  pure plan

/-! ## The runtime -/

/-- What `ServiceClientWrapper.unwrap` returns. -/
inductive UnwrappedClient where
  | keycloakAuthService (provider : PyObject)
  | other (client : PyObject)
deriving DecidableEq

/-- What the runtime holds for a service. -/
inductive ServiceClient where
  | wrapper (unwrap : Except PyExc UnwrappedClient)
  | natsConnectionBuilder (builder : PyObject)

/-- A runtime of the service SDK. -/
structure ServiceRuntime where
  selectedServices : List Name
  requiredServices : List Name := []
  checks : OrderedDict Name Callable
  get : Name → Except PyExc (Option ServiceClient) := fun _ => .ok none
  notBlank : ∀ service ∈ checks.keys, isBlank service = false := by decide

/-- The runtime which owns no service. -/
def ServiceRuntime.empty : ServiceRuntime where
  selectedServices := []
  checks := .empty

/-- `Service.KEYCLOAK`. -/
def keycloakService : Name :=
  "keycloak"

namespace ServiceRuntime

variable (runtime : ServiceRuntime)

/-- The spec which `configure_service_runtime` makes for a check. -/
def readinessSpec (service : Name) (check : Callable) :
    ReadinessCheckSpec where
  name := service
  check
  required := service ∈ runtime.requiredServices
  redactErrors := true

/-- `readiness_specs`, in the order of the checks. -/
def readinessSpecs : List ReadinessCheckSpec :=
  runtime.checks.entries.map fun entry =>
    runtime.readinessSpec entry.1 entry.2

/-- `runtime.selected_services.difference(checks)`. -/
def missingChecks : List Name :=
  (runtime.selectedServices.filter (· ∉ runtime.checks.keys)).dedup

/-- The names of runtime checks which a registry already holds. -/
def duplicateNames (registry : ReadinessRegistry) : List Name :=
  (runtime.readinessSpecs.map ReadinessCheckSpec.name).filter
    (· ∈ registry.names)

@[simp]
theorem names_readinessSpecs :
    runtime.readinessSpecs.map ReadinessCheckSpec.name =
      runtime.checks.keys := by
  simp [readinessSpecs, readinessSpec, OrderedDict.keys,
    Function.comp_def]

theorem registeredAs_of_mem_readinessSpecs {spec : ReadinessCheckSpec}
    (member : spec ∈ runtime.readinessSpecs) :
    spec.RegisteredAs spec.name := by
  rcases List.mem_map.mp member with ⟨entry, entryMember, rfl⟩
  exact
    ⟨rfl,
      runtime.notBlank entry.1
        (List.mem_map_of_mem (f := Prod.fst) entryMember),
      rfl⟩

theorem duplicateNames_eq_nil_iff {registry : ReadinessRegistry} :
    runtime.duplicateNames registry = [] ↔
      ∀ service ∈ runtime.checks.keys, service ∉ registry.names := by
  simp [duplicateNames]

end ServiceRuntime

end FastapiCore
