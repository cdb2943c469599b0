import FastapiCore.FunctionLogging
import FastapiCore.Library.Effect
import FastapiCore.ResourceRegistry
import FastapiCore.ServiceRuntime

/-!
# The lifespan of an application

`managedLifespan` runs the startup, the user lifespan and the teardown of an
application over `AppState`: the part of `app.state` which they change, the
live instances of the resource registry, and a trace of the steps which user
code or the service SDK decide.  How each of these steps ends is given by a
`LifespanEnvironment`, one for every run; a step may raise any exception, and
a cancellation of the server is one of them.

The statements follow the source: a block with `except` or `finally` is
`tryExcept` or `tryFinally`, and the local variable `app_runtime` is a field
of the state.
-/

namespace FastapiCore

open Library
open Library.Effect

/-! ## Steps, environments and states -/

/-- The steps of a run which user code or the service SDK decide. -/
inductive LifespanStep where
  | assembleRuntime
  | configureRuntime
  | checkRuntimeOnStartup
  | requireAuthProvider
  | createResource (name : Name)
  | registerCheck (spec : ReadinessCheckSpec)
  | checkResourcesOnStartup
  | enterLifespan
  | serve
  | exitLifespan
  | closeResource (name : Name) (closer : Option Closer)
  | closeRuntime
deriving DecidableEq

/-- A step which has ended, with the exception it raised, if any. -/
structure LifespanEvent where
  step : LifespanStep
  raised : Option PyExc

/-- How the steps of one run end. -/
structure LifespanEnvironment where
  assembleServiceRuntime : RuntimePlan → Except PyExc ServiceRuntime
  createEmptyServiceRuntime : Except PyExc ServiceRuntime
  configureInterrupt : Option PyExc
  checkWithPolicy :
    HealthcheckPolicy → Except CheckFailure HealthCheckResult
  factory : Name → Except PyExc PyObject
  registrationInterrupt : Name → Option PyExc
  startupInterrupt : Option PyExc
  healthSdk : HealthSdk
  checks : CheckEnvironment
  healthCheckErrorText : HealthCheckResult → String
  enter : Except PyExc PUnit
  serve : Except PyExc PUnit
  exit : Option PyExc → Except PyExc Bool
  closer : Name → Except PyExc PUnit
  closeRuntime : Except PyExc PUnit

/-- Every step returns, and assembly makes this runtime. -/
def LifespanEnvironment.quiet (runtime : ServiceRuntime) :
    LifespanEnvironment where
  assembleServiceRuntime := fun _ => .ok runtime
  createEmptyServiceRuntime := .ok runtime
  configureInterrupt := none
  checkWithPolicy := fun _ => .ok { ok := true, services := [] }
  factory := fun _ => .ok { ref := 0 }
  registrationInterrupt := fun _ => none
  startupInterrupt := none
  healthSdk := .documented
  checks :=
    { check := fun _ => .syncFunction (.settles 0 (.ok (.value .none)))
      adapter := fun _ value => .ok (.value value) }
  healthCheckErrorText := fun _ => ""
  enter := .ok ⟨⟩
  serve := .ok ⟨⟩
  exit := fun _ => .ok false
  closer := fun _ => .ok ⟨⟩
  closeRuntime := .ok ⟨⟩

/-- The state which the runs of one application share. -/
structure AppState where
  readinessRegistry : ReadinessRegistry
  instances : OrderedDict Name PyObject := .empty
  serviceRuntime : Option ServiceRuntime := none
  authProvider : Option PyObject := none
  allowedAlgorithms : OrderedDict Nat (List String) := .empty
  startupHealthcheckResult : Option HealthCheckResult := none
  appRuntime : Option ServiceRuntime := none
  events : List LifespanEvent := []
  logs : List LogRecord := []

/-- A block of the lifespan. -/
abbrev Lifespan := Effect AppState PyExc

namespace AppState

variable (state : AppState)

/-- Append a step which has ended to the trace. -/
def record (step : LifespanStep) (raised : Option PyExc) : AppState :=
  { state with events := state.events ++ [⟨step, raised⟩] }

/-- `instances[name] = value`. -/
def assignInstance (name : Name) (value : PyObject) : AppState :=
  { state with instances := state.instances.insert name value }

/-- `instances.pop(name)`. -/
def popInstance (name : Name) : AppState :=
  { state with instances := state.instances.erase name }

/-- A state between two runs, with an empty trace. -/
def atRest : AppState :=
  { state with instances := .empty, events := [] }

/-- Replace the content of the readiness registry. -/
def setReadiness (registry : ReadinessRegistry) : AppState :=
  { state with readinessRegistry := registry }

end AppState

/-- Run a block as one step of the trace. -/
def recorded {α : Type} (step : LifespanStep) (block : Lifespan α) :
    Lifespan α :=
  tryExcept
    (do
      let value ← block
      update fun state => state.record step none
      pure value)
    fun exception => do
      update fun state => state.record step (some exception)
      raise exception

/-- Raise if the environment interrupts this step. -/
def interrupt : Option PyExc → Lifespan PUnit
  | none => pure ⟨⟩
  | some exception => raise exception

/-! ## Connecting the service runtime -/

/-- `readiness_registry.register(spec)`. -/
def registerSpec (spec : ReadinessCheckSpec) : Lifespan PUnit := do
  let state ← read
  let registry ← ofExcept (state.readinessRegistry.register spec)
  update fun state => state.setReadiness registry

/-- `configure_keycloak_provider` and the publication of the provider. -/
def publishProvider (provider : PyObject) : Lifespan PUnit :=
  update fun state =>
    { state with
      allowedAlgorithms :=
        state.allowedAlgorithms.insert provider.ref ["RS256"]
      authProvider := some provider }

/-- The Keycloak part of `configure_service_runtime`. -/
def publishKeycloak (runtime : ServiceRuntime) : Lifespan PUnit := do
  match ← ofExcept (runtime.get keycloakService) with
  | some (.wrapper unwrap) =>
      match ← ofExcept unwrap with
      | .keycloakAuthService provider => publishProvider provider
      | .other _ => pure ⟨⟩
  | _ => pure ⟨⟩

/-- Refuse a runtime which selects a service without a check. -/
def refuseMissingChecks (runtime : ServiceRuntime) : Lifespan PUnit :=
  match runtime.missingChecks.insertionSort (· ≤ ·) with
  | [] => pure ⟨⟩
  | missing =>
      raise
        (.attributeError
          ("Runtime services do not expose callable checks: " ++
            ", ".intercalate missing))

/-- Refuse a runtime with a check whose name is already registered. -/
def refuseDuplicateNames (runtime : ServiceRuntime)
    (registry : ReadinessRegistry) : Lifespan PUnit :=
  match (runtime.duplicateNames registry).insertionSort (· ≤ ·) with
  | [] => pure ⟨⟩
  | name :: _ =>
      raise
        (.valueError
          ("readiness check '" ++ name ++ "' is already registered"))

/-- `configure_service_runtime`. -/
def configureServiceRuntime (runtime : ServiceRuntime) :
    Lifespan PUnit := do
  let state ← read
  refuseMissingChecks runtime
  refuseDuplicateNames runtime state.readinessRegistry
  forM runtime.readinessSpecs registerSpec
  publishKeycloak runtime
  update fun state => { state with serviceRuntime := some runtime }

/-! ## Starting and closing resources -/

/-- The registration of the check of a started resource. -/
def registerResourceCheck (environment : LifespanEnvironment)
    (spec : ReadinessCheckSpec) : Lifespan PUnit :=
  recorded (.registerCheck spec) do
    interrupt (environment.registrationInterrupt spec.name)
    registerSpec spec

/-- `_close_resource`. -/
def closeResource (environment : LifespanEnvironment)
    (resource : ManagedResource) (value : PyObject) : Lifespan PUnit :=
  let name := resource.name.resolve
  recorded (.closeResource name (resource.closer value))
    (match resource.closer value with
    | none => pure ⟨⟩
    | some _ => ofExcept (environment.closer name))

/-- Unregister the check under the name of a resource if it is its own. -/
def unregisterOwn (resource : ManagedResource) (value : PyObject) :
    Lifespan PUnit := do
  let name := resource.name.resolve
  let state ← read
  match state.readinessRegistry.specs.get? name with
  | none => pure ⟨⟩
  | some spec =>
      if resource.ownsCheck value spec.check then
        update fun state =>
          state.setReadiness (state.readinessRegistry.unregister name)
      else pure ⟨⟩

/-- One iteration of the loop in `close`, with the failures so far. -/
def closeInstance (environment : LifespanEnvironment)
    (failures : List PyExc) (resource : ManagedResource) :
    Lifespan (List PyExc) := do
  let name := resource.name.resolve
  let state ← read
  match state.instances.get? name with
  | none => pure failures
  | some value => do
      update fun state => state.popInstance name
      tryFinally
        (tryExcept
          (do
            closeResource environment resource value
            pure failures)
          fun exception => pure (failures ++ [exception]))
        (unregisterOwn resource value)

/-- One iteration of the loop in `start`. -/
def startResource (environment : LifespanEnvironment)
    (resource : ManagedResource) : Lifespan PUnit := do
  let name := resource.name.resolve
  let value ←
    recorded (.createResource name) (ofExcept (environment.factory name))
  update fun state => state.assignInstance name value
  match resource.healthcheck with
  | none => pure ⟨⟩
  | some healthcheck =>
      registerResourceCheck environment
        (resource.readinessCheckSpec healthcheck value)

/-- The exception of a startup check which did not pass. -/
def CheckFailure.exception (healthCheckErrorText : HealthCheckResult → String) :
    CheckFailure → PyExc
  | .healthCheckError _ result =>
      { cls := .healthCheckError, message := healthCheckErrorText result }
  | .timeoutError => .timeoutError
  | .raised exception => exception

namespace ResourceRegistry

variable (registry : ResourceRegistry)
variable (environment : LifespanEnvironment)

/-- `ResourceRegistry.close`. -/
def close : Lifespan PUnit := do
  let failures ←
    registry.resources.reverse.foldlM (closeInstance environment) []
  match failures with
  | [] => pure ⟨⟩
  | _ => raise (.group "managed resource shutdown failed" failures)

/-- The `except` block of `start`. -/
def rollback (exception : PyExc) : Lifespan PUnit := do
  let noted ←
    tryExcept
      (do
        registry.close environment
        pure exception)
      fun closeException =>
        pure
          (exception.addNote
            ("managed resource rollback failed: " ++ closeException.str))
  raise noted

/-- `ResourceRegistry.start`. -/
def start : Lifespan PUnit :=
  tryExcept
    (forM registry.resources (startResource environment))
    (registry.rollback environment)

/-- The names of the required resources which have a health check. -/
def requiredNames : List Name :=
  resourceNames
    (registry.resources.filter fun resource =>
      resource.healthcheck.isSome && resource.required)

/--
`ResourceRegistry.check_startup`.  A check which never completes ends with
the cancellation of the startup.
-/
def checkStartup (parallel : Bool) (overallTimeoutSeconds : Option ℚ) :
    Lifespan PUnit := do
  match registry.requiredNames with
  | [] => pure ⟨⟩
  | names =>
      let state ← read
      match
        state.readinessRegistry.check environment.healthSdk
          environment.checks (some names) parallel overallTimeoutSeconds
      with
      | some (.ok _) => pure ⟨⟩
      | some (.error failure) =>
          raise (failure.exception environment.healthCheckErrorText)
      | none => raise .cancelledError

end ResourceRegistry

/-! ## The lifespan -/

/-- The arguments of `build_lifespan`. -/
structure LifespanArguments where
  lifespan : Option Callable := none
  config : AppConfig
  runtime : Option ServiceRuntime := none
  runtimePlan : Option RuntimePlan := none
  resources : ResourceRegistry
  requireAuthProvider : Bool := false

/-- `assemble_runtime`. -/
def assembleRuntime (environment : LifespanEnvironment) :
    Option RuntimePlan → Except PyExc ServiceRuntime
  | some plan => environment.assembleServiceRuntime plan
  | none => environment.createEmptyServiceRuntime

/-- `_check_runtime_on_startup`. -/
def checkRuntimeOnStartup (environment : LifespanEnvironment)
    (config : AppConfig) : Lifespan PUnit :=
  let store (result : HealthCheckResult) : Lifespan PUnit :=
    update fun state => { state with startupHealthcheckResult := some result }
  match environment.checkWithPolicy (buildHealthcheckPolicy config) with
  | .ok result => store result
  | .error (.healthCheckError failure result) => do
      store result
      raise
        ((CheckFailure.healthCheckError failure result).exception
          environment.healthCheckErrorText)
  | .error failure =>
      raise (failure.exception environment.healthCheckErrorText)

/-- `async with lifespan(app): yield`, or `yield` without a lifespan. -/
def runUserLifespan (environment : LifespanEnvironment) :
    Option Callable → Lifespan PUnit
  | none => recorded .serve (ofExcept environment.serve)
  | some _ => do
      recorded .enterLifespan (ofExcept environment.enter)
      let served ←
        tryExcept
          (do
            recorded .serve (ofExcept environment.serve)
            pure none)
          fun exception => pure (some exception)
      let suppressed ←
        recorded .exitLifespan (ofExcept (environment.exit served))
      match served with
      | none => pure ⟨⟩
      | some exception =>
          if suppressed then pure ⟨⟩ else raise exception

/-- The record of a `ServiceCloseError`. -/
def closeFailureRecord (exception : PyExc) : LogRecord where
  logger := "fastapi_core.lifecycle"
  level := .error
  message := "service_runtime_close_failed"
  event :=
    some
      [("operation", "service_runtime_close"), ("outcome", "error"),
        ("failure_count", toString exception.members.length)]

/-- The `except ServiceCloseError` block, and any other exception. -/
def reportCloseFailure (exception : PyExc) : Lifespan PUnit := do
  if exception.cls = .serviceCloseError then
    update fun state =>
      { state with logs := state.logs ++ [closeFailureRecord exception] }
  raise exception

/-- The innermost `finally` of `managed_lifespan`. -/
def closeAppRuntime (environment : LifespanEnvironment) :
    Lifespan PUnit := do
  let state ← read
  match state.appRuntime with
  | none => pure ⟨⟩
  | some _ =>
      tryExcept
        (recorded .closeRuntime (ofExcept environment.closeRuntime))
        reportCloseFailure

namespace LifespanArguments

variable (arguments : LifespanArguments)
variable (environment : LifespanEnvironment)

/-- The runtime is assembled and connected, or the injected one is checked. -/
def startRuntime : Lifespan PUnit := do
  let state ← read
  match state.appRuntime with
  | none => do
      let runtime ←
        recorded .assembleRuntime
          (ofExcept (assembleRuntime environment arguments.runtimePlan))
      update fun state => { state with appRuntime := some runtime }
      recorded .configureRuntime do
        interrupt environment.configureInterrupt
        configureServiceRuntime runtime
  | some _ =>
      if arguments.config.startupHealthcheck then
        recorded .checkRuntimeOnStartup
          (checkRuntimeOnStartup environment arguments.config)
      else pure ⟨⟩

/-- The auth router needs an auth provider. -/
def checkAuthProvider : Lifespan PUnit := do
  let state ← read
  if arguments.requireAuthProvider ∧ state.authProvider.isNone then
    recorded .requireAuthProvider
      (raise
        (.valueError "auth router requires a configured auth provider"))
  else pure ⟨⟩

/-- The required resources are checked if the configuration asks for it. -/
def checkResources : Lifespan PUnit :=
  if arguments.config.startupHealthcheck then
    recorded .checkResourcesOnStartup do
      interrupt environment.startupInterrupt
      arguments.resources.checkStartup environment
        arguments.config.readinessParallel
        arguments.config.readinessOverallTimeoutSeconds
  else pure ⟨⟩

/-- The `try` block of `managed_lifespan`. -/
def startAndServe : Lifespan PUnit := do
  arguments.startRuntime environment
  arguments.checkAuthProvider
  arguments.resources.start environment
  arguments.checkResources environment
  runUserLifespan environment arguments.lifespan

/-- `managed_lifespan`. -/
def managedLifespan : Lifespan PUnit := do
  update fun state => { state with appRuntime := arguments.runtime }
  tryFinally
    (arguments.startAndServe environment)
    (tryFinally
      (arguments.resources.close environment)
      (closeAppRuntime environment))

end LifespanArguments

end FastapiCore
