import FastapiCore.Library.FallibleLoop
import FastapiCore.Lifecycle

/-!
# Application creation

`createApp` is the part of `create_app` which decides what a lifespan runs
over: the runtime plan, the names of all extensions, the readiness and
resource registries, and the state of the new application.  The routers, the
error mappers, the transport policies and the middleware, which no lifespan
reads, are no part of it.
-/

namespace FastapiCore

open Library
open Library.Effect

/-- The resources and checks of a `DomainModule`. -/
structure DomainModule where
  name : Name
  resources : List ResourceDeclaration := []
  readinessChecks : List ReadinessCheckSpec := []
  notBlank : isBlank name = false := by decide

/-- The arguments of `create_app`. -/
structure AppRequest where
  config : AppConfig
  runtime : Option ServiceRuntime := none
  lifespan : Option Callable := none
  includeAuthRouter : Bool := false
  modules : List DomainModule := []
  resources : List ResourceDeclaration := []
  authProvider : Option PyObject := none

/-- A created application: its state, and what its lifespan runs with. -/
structure App where
  state : AppState
  arguments : LifespanArguments

/-- The state of an application after one run of its lifespan. -/
def App.afterRun (app : App) (state : AppState)
    (environment : LifespanEnvironment) : AppState :=
  ((app.arguments.managedLifespan environment).run state).2

/-! ## Validation -/

/-- `_resource_name`. -/
def ResourceDeclaration.resourceName : ResourceDeclaration → Name
  | .managedResource resource => resource.name.resolve
  | .resourceBinding binding => binding.name

/-- The loop of `_flatten_modules` over the module names seen so far. -/
def validateModuleNames : List Name → List DomainModule →
    Except PyExc Unit
  | _, [] => .ok ()
  | names, module :: rest =>
      if module.name ∈ names then
        .error
          (.valueError
            ("domain module '" ++ module.name ++
              "' is already registered"))
      else validateModuleNames (module.name :: names) rest

/-- `_flatten_modules`. -/
def flattenModules (modules : List DomainModule) :
    Except PyExc (List ResourceDeclaration × List ReadinessCheckSpec) :=
  (validateModuleNames [] modules).map fun _ =>
    (modules.flatMap DomainModule.resources,
      modules.flatMap DomainModule.readinessChecks)

/-- The exception for a name which two extensions share. -/
def extensionNameTaken (name : Name) : PyExc :=
  .valueError ("extension name '" ++ name ++ "' is already registered")

/-- `_register_extension_name`. -/
def registerExtensionName (names : List Name) (name : Name) :
    Except PyExc (List Name) :=
  if name ∈ names then .error (extensionNameTaken name)
  else .ok (names ++ [name])

/-- `_validate_extension_names`. -/
def validateExtensionNames (resources : List ResourceDeclaration)
    (checks : List ReadinessCheckSpec) (runtime : Option ServiceRuntime)
    (runtimePlan : Option RuntimePlan) : Except PyExc Unit := do
  let names ←
    (resources.map ResourceDeclaration.resourceName).foldlM
      registerExtensionName []
  let names ←
    (checks.map ReadinessCheckSpec.name).foldlM registerExtensionName names
  let names ←
    ((runtime.map fun injected => injected.checks.keys).getD []).foldlM
      registerExtensionName names
  match runtimePlan with
  | none => .ok ()
  | some plan =>
      match
        (names.filter (· ∈ plan.selectedServices)).insertionSort (· ≤ ·)
      with
      | [] => .ok ()
      | name :: _ => .error (extensionNameTaken name)

/-- `_diagnose_auth_configuration`. -/
def diagnoseAuthConfiguration (sdk : ServiceSdk) (config : AppConfig)
    (runtimePlan : RuntimePlan) : Except PyExc Unit :=
  if keycloakService ∉ config.enabledServices then
    .error
      (.valueError
        "auth router requires the keycloak service to be enabled")
  else if keycloakService ∉ config.requiredServices then
    .error
      (.valueError
        "auth router requires the keycloak service to be required")
  else
    match sdk.diagnoseServices runtimePlan with
    | none => .ok ()
    | some diagnosis =>
        .error
          (.valueError
            ("auth router service configuration is invalid: " ++
              diagnosis))

/-! ## Creation -/

namespace AppRequest

variable (sdk : ServiceSdk) (request : AppRequest)

/-- The runtime plan, which only an assembled runtime needs. -/
def buildPlan : Except PyExc (Option RuntimePlan) :=
  if request.runtime.isNone ∧ request.config.enabledServices ≠ [] then
    (buildRuntimePlan sdk request.config).map some
  else .ok none

/-- The auth configuration is diagnosed if the runtime has to provide it. -/
def diagnose (runtimePlan : Option RuntimePlan) : Except PyExc Unit :=
  if request.includeAuthRouter ∧ request.authProvider.isNone ∧
      request.runtime.isNone then
    match runtimePlan with
    | none =>
        .error
          (.valueError
            "auth router requires the keycloak service to be enabled")
    | some plan => diagnoseAuthConfiguration sdk request.config plan
  else .ok ()

/-- An injected runtime is connected at once. -/
def connectInjected (state : AppState) : Except PyExc AppState :=
  match request.runtime with
  | none => .ok state
  | some runtime =>
      match (configureServiceRuntime runtime).run state with
      | (.ok _, connected) => .ok connected
      | (.error exception, _) => .error exception

/-- `if auth_provider is not None: app.state.auth_provider = auth_provider`. -/
def publishAuthProvider (state : AppState) : AppState :=
  match request.authProvider with
  | none => state
  | some provider => { state with authProvider := some provider }

/-- An injected runtime has to provide what the auth router needs. -/
def checkAuthProvider (state : AppState) : Except PyExc Unit :=
  if request.includeAuthRouter ∧ request.runtime.isSome ∧
      state.authProvider.isNone then
    .error
      (.valueError "auth router requires a configured auth provider")
  else .ok ()

/-- The state of an app before any runtime is connected. -/
def newState (readiness : ReadinessRegistry) : AppState where
  readinessRegistry := readiness
  serviceRuntime := request.runtime

/-- `create_app`. -/
def createApp : Except PyExc App := do
  let runtimePlan ← request.buildPlan sdk
  request.diagnose sdk runtimePlan
  let (moduleResources, moduleChecks) ← flattenModules request.modules
  let allResources := request.resources ++ moduleResources
  validateExtensionNames allResources moduleChecks request.runtime
    runtimePlan
  let readiness ←
    moduleChecks.foldlM ReadinessRegistry.register
      (ReadinessRegistry.new request.config.readinessTimeoutSeconds)
  let resources ← ResourceRegistry.new allResources
  let connected ← request.connectInjected (request.newState readiness)
  let state := request.publishAuthProvider connected
  request.checkAuthProvider state
  pure
    { state
      arguments :=
        { lifespan := request.lifespan
          config := request.config
          runtime := request.runtime
          runtimePlan
          resources
          requireAuthProvider := request.includeAuthRouter } }

/-! ## What a created application has passed -/

/-- The resources of the application and of its modules. -/
def allResources : List ResourceDeclaration :=
  request.resources ++ request.modules.flatMap DomainModule.resources

/-- The readiness checks of the modules. -/
def moduleChecks : List ReadinessCheckSpec :=
  request.modules.flatMap DomainModule.readinessChecks

/-- The steps which `createApp` has passed before it returns `app`. -/
structure Created (app : App) : Prop where
  namesValid :
    validateExtensionNames request.allResources request.moduleChecks
        request.runtime app.arguments.runtimePlan =
      .ok ()
  resources :
    ResourceRegistry.new request.allResources = .ok app.arguments.resources
  runtime : app.arguments.runtime = request.runtime
  state :
    ∃ initial connected,
      request.connectInjected initial = .ok connected ∧
        app.state = request.publishAuthProvider connected

/-- The arguments of the lifespan of a created application. -/
def lifespanArguments (runtimePlan : Option RuntimePlan)
    (resources : ResourceRegistry) : LifespanArguments where
  lifespan := request.lifespan
  config := request.config
  runtime := request.runtime
  runtimePlan
  resources
  requireAuthProvider := request.includeAuthRouter

/-- The values which `createApp` passes on between its steps. -/
structure Steps (app : App) where
  runtimePlan : Option RuntimePlan
  readiness : ReadinessRegistry
  resources : ResourceRegistry
  connected : AppState
  buildPlan : request.buildPlan sdk = .ok runtimePlan
  namesValid :
    validateExtensionNames request.allResources request.moduleChecks
        request.runtime runtimePlan =
      .ok ()
  registered :
    request.moduleChecks.foldlM ReadinessRegistry.register
        (.new request.config.readinessTimeoutSeconds) =
      .ok readiness
  bound : ResourceRegistry.new request.allResources = .ok resources
  connects :
    request.connectInjected (request.newState readiness) = .ok connected
  state : app.state = request.publishAuthProvider connected
  arguments :
    app.arguments = request.lifespanArguments runtimePlan resources

theorem exists_steps_of_createApp {app : App}
    (created : request.createApp sdk = .ok app) :
    Nonempty (request.Steps sdk app) := by
  rcases bind_eq_ok_iff.mp created with ⟨plan, planned, rest⟩
  rcases bind_eq_ok_iff.mp rest with ⟨_, -, rest⟩
  rcases bind_eq_ok_iff.mp rest with
    ⟨⟨moduleResources, moduleChecks⟩, flattened, rest⟩
  rcases bind_eq_ok_iff.mp rest with ⟨_, namesValid, rest⟩
  rcases bind_eq_ok_iff.mp rest with ⟨readiness, registered, rest⟩
  rcases bind_eq_ok_iff.mp rest with ⟨resources, bound, rest⟩
  rcases bind_eq_ok_iff.mp rest with ⟨connected, connects, rest⟩
  rcases bind_eq_ok_iff.mp rest with ⟨_, -, returned⟩
  rw [flattenModules] at flattened
  cases names : validateModuleNames [] request.modules with
  | error exception =>
      rw [names] at flattened
      cases flattened
  | ok _ =>
      rw [names] at flattened
      cases flattened
      cases returned
      exact
        ⟨{ runtimePlan := plan
           readiness
           resources
           connected
           buildPlan := planned
           namesValid
           registered
           bound
           connects
           state := rfl
           arguments := rfl }⟩

theorem created_of_createApp {app : App}
    (created : request.createApp sdk = .ok app) : request.Created app := by
  rcases request.exists_steps_of_createApp sdk created with ⟨steps⟩
  exact
    { namesValid := by
        rw [steps.arguments]
        exact steps.namesValid
      resources := by
        rw [steps.arguments]
        exact steps.bound
      runtime := by
        rw [steps.arguments]
        rfl
      state := ⟨_, steps.connected, steps.connects, steps.state⟩ }

end AppRequest

/-! ## Extension names -/

/-- Registering names one by one refuses exactly a repeated name. -/
theorem foldlM_registerExtensionName_eq_ok_iff
    {added names final : List Name} (nodup : names.Nodup) :
    added.foldlM registerExtensionName names = .ok final ↔
      final = names ++ added ∧ (names ++ added).Nodup := by
  have register :
      registerExtensionName = registerDistinct extensionNameTaken := rfl
  rw [register]
  exact foldlM_registerDistinct_eq_ok_iff nodup

/-- The names of all extensions, in the order of their validation. -/
def extensionNames (resources : List ResourceDeclaration)
    (checks : List ReadinessCheckSpec) (runtime : Option ServiceRuntime) :
    List Name :=
  resources.map ResourceDeclaration.resourceName ++
      checks.map ReadinessCheckSpec.name ++
    (runtime.map fun injected => injected.checks.keys).getD []

section ExtensionNames

variable {resources : List ResourceDeclaration}
variable {checks : List ReadinessCheckSpec}
variable {runtime : Option ServiceRuntime}

/-- An accepted validation has seen distinct names, outside the plan. -/
theorem exists_names_of_validateExtensionNames
    {runtimePlan : Option RuntimePlan}
    (valid :
      validateExtensionNames resources checks runtime runtimePlan =
        .ok ()) :
    (extensionNames resources checks runtime).Nodup ∧
      ∀ plan, runtimePlan = some plan →
        (extensionNames resources checks runtime).filter
            (· ∈ plan.selectedServices) =
          [] := by
  rcases bind_eq_ok_iff.mp valid with ⟨_, resourcesRegistered, valid⟩
  rcases bind_eq_ok_iff.mp valid with ⟨_, checksRegistered, valid⟩
  rcases bind_eq_ok_iff.mp valid with ⟨names, servicesRegistered, valid⟩
  rcases
    (foldlM_registerExtensionName_eq_ok_iff List.nodup_nil).mp
      resourcesRegistered with ⟨rfl, resourcesNodup⟩
  rcases
    (foldlM_registerExtensionName_eq_ok_iff resourcesNodup).mp
      checksRegistered with ⟨rfl, checksNodup⟩
  rcases
    (foldlM_registerExtensionName_eq_ok_iff checksNodup).mp
      servicesRegistered with ⟨rfl, servicesNodup⟩
  refine ⟨servicesNodup, ?_⟩
  rintro plan rfl
  dsimp only at valid
  split at valid
  · next sorted =>
      rw [← List.length_eq_zero_iff, List.length_insertionSort,
        List.length_eq_zero_iff] at sorted
      exact sorted
  · cases valid

theorem nodup_extensionNames_of_validateExtensionNames
    {runtimePlan : Option RuntimePlan}
    (valid :
      validateExtensionNames resources checks runtime runtimePlan =
        .ok ()) :
    (extensionNames resources checks runtime).Nodup :=
  (exists_names_of_validateExtensionNames valid).1

/-- No extension has the name of a service which the plan selects. -/
theorem not_mem_selectedServices_of_mem_extensionNames {plan : RuntimePlan}
    (valid :
      validateExtensionNames resources checks runtime (some plan) = .ok ())
    {name : Name} (member : name ∈ extensionNames resources checks runtime) :
    name ∉ plan.selectedServices := by
  have none_ := (exists_names_of_validateExtensionNames valid).2 plan rfl
  simpa using List.filter_eq_nil_iff.mp none_ name member

end ExtensionNames

theorem name_of_bind {declaration : ResourceDeclaration}
    {binding : ResourceBinding}
    (bound : declaration.bind = .ok binding) :
    binding.name = declaration.resourceName := by
  cases declaration with
  | resourceBinding declared =>
      cases bound
      rfl
  | managedResource resource =>
      rcases resource with ⟨name⟩
      cases name with
      | key resourceKey =>
          cases bound
          rfl
      | str name =>
          rw [ResourceDeclaration.bind, ManagedResource.bind] at bound
          dsimp only at bound
          split at bound
          · cases bound
          · next notBlank =>
              rw [ResourceBinding.new, ResourceName.toKey,
                ResourceKey.new, dif_neg notBlank] at bound
              cases bound
              rfl

/-- The registry keeps the names under which resources are declared. -/
theorem ResourceRegistry.names_of_new
    {declarations : List ResourceDeclaration} {registry : ResourceRegistry}
    (registered : ResourceRegistry.new declarations = .ok registry) :
    registry.names =
      declarations.map ResourceDeclaration.resourceName := by
  have names :=
    map_eq_of_mapM_eq_ok (fun _ _ => name_of_bind)
      (ResourceRegistry.new_eq_ok_iff.mp registered)
  rw [← names, ResourceRegistry.names, resourceNames,
    ResourceRegistry.resources, List.map_map]
  rfl

/-- A planned service is not the name of a resource of the application. -/
theorem AppRequest.Created.not_mem_names {request : AppRequest} {app : App}
    (created : request.Created app) {plan : RuntimePlan}
    (planned : app.arguments.runtimePlan = some plan) {service : Name}
    (selected : service ∈ plan.selectedServices) :
    service ∉ app.arguments.resources.names := by
  intro member
  have valid := created.namesValid
  rw [planned] at valid
  rw [ResourceRegistry.names_of_new created.resources] at member
  have extension :
      service ∈
        extensionNames request.allResources request.moduleChecks
          request.runtime :=
    List.mem_append_left _ (List.mem_append_left _ member)
  exact
    not_mem_selectedServices_of_mem_extensionNames valid extension selected

end FastapiCore
