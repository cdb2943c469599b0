import FastapiCore.ExceptionDispatch
import FastapiCore.Factory
import FastapiCore.PolicyConflicts
import FastapiCore.PolicyLocality
import FastapiCore.RuntimeConnection

/-!
# The whole of application creation

`create` is `create_app` with all its parts in the order of the source: the
runtime plan, the modules, the routes, the names, the error mappers, the
logging, the registries, the injected runtime, and the routes of the new
application.  It is the parts `createApp`, `createRoutes` and `installMappers`
together, so what holds of them holds of every application, and it may be
refused by the logging or by FastAPI, which are those of a `Framework`.

A request is accepted exactly if it satisfies a list of conditions, none of
which depends on an order; requests which list their parts in another order
give applications which agree.
-/

namespace FastapiCore

open Library

/-! ## Requests -/

/-- `DomainModule`. -/
structure ApplicationModule extends DomainModule, ModuleRoutes where
  errorMappers : List ErrorMapperSpec := []

/-- The arguments of `create_app`. -/
structure ApplicationRequest where
  config : AppConfig
  runtime : Option ServiceRuntime := none
  lifespan : Option Callable := none
  includeAuthRouter : Bool := false
  routers : List RouterArgument := []
  modules : List ApplicationModule := []
  resources : List ResourceDeclaration := []
  errorMappers : List ErrorMapperSpec := []
  authProvider : Option PyObject := none
  transportPolicy : Option TransportPolicy := none

/--
What `create_app` calls for its effects, and may be refused by: the set-up of
the logging, and `include_router`, which refuses an empty path, for example.
-/
structure Framework where
  configureApplicationLogging : AppConfig → Except PyExc Unit
  includeRouter :
    RouterArgument → List PyObject →
      OrderedDict Nat ResponseDefinition → Except PyExc Unit

/-- A framework which refuses nothing. -/
def Framework.accepting : Framework where
  configureApplicationLogging _ := .ok ()
  includeRouter _ _ _ := .ok ()

/-- `app.include_router(...)`, for what it raises. -/
def Framework.include (framework : Framework) (inclusion : Inclusion) :
    Except PyExc Unit :=
  framework.includeRouter inclusion.router inclusion.dependencies
    inclusion.responses

/-- What `create_app` returns: the parts of the application. -/
structure Application where
  app : App
  routes : AppRoutes
  handlers : HandlerState

/-- `_flatten_modules`, with the policies and the error mappers. -/
def ApplicationModule.flatten (modules : List ApplicationModule) :
    Except PyExc
      (List ResourceDeclaration × List ReadinessCheckSpec ×
        List ErrorMapperSpec) := do
  validateModuleNames [] (modules.map ApplicationModule.toDomainModule)
  TransportPolicy.validateModuleConflicts
    (modules.filterMap fun module => module.transportPolicy)
  pure
    (modules.flatMap fun module => module.resources,
      modules.flatMap fun module => module.readinessChecks,
      modules.flatMap fun module => module.errorMappers)

/-- The routers which `create_app` includes once all has been validated. -/
def RoutesRequest.included (request : RoutesRequest) : AppRoutes :=
  let app : AppRoutes :=
    { transportPolicy := TransportPolicy.resolve none request.transportPolicy }
  let app :=
    request.builtinRouters.foldl
      (fun app router => app.includeRouter router [] .empty) app
  let app :=
    request.routers.foldl
      (fun app router => app.includeDirect request.transportPolicy router)
      app
  request.modules.foldl
    (fun app module => app.includeModule request.transportPolicy module) app

namespace ApplicationRequest

variable (sdk : ServiceSdk) (hierarchy : ClassHierarchy ExcClass)
  (framework : Framework) (request : ApplicationRequest)

/-- The arguments which the lifespan depends on. -/
def appRequest : AppRequest where
  config := request.config
  runtime := request.runtime
  lifespan := request.lifespan
  includeAuthRouter := request.includeAuthRouter
  modules := request.modules.map ApplicationModule.toDomainModule
  resources := request.resources
  authProvider := request.authProvider

/-- The arguments which the routes depend on. -/
def routesRequest : RoutesRequest where
  includeAuthRouter := request.includeAuthRouter
  routers := request.routers
  modules := request.modules.map ApplicationModule.toModuleRoutes
  transportPolicy := request.transportPolicy

/-- `all_mappers`. -/
def allMappers : List ErrorMapperSpec :=
  request.errorMappers ++
    request.modules.flatMap fun module => module.errorMappers

/--
`create_app`.  The routers are included one after the other, until one of
them is refused.
-/
def create : Except PyExc Application := do
  let runtimePlan ← request.appRequest.buildPlan sdk
  request.appRequest.diagnose sdk runtimePlan
  let (moduleResources, moduleChecks, moduleMappers) ←
    ApplicationModule.flatten request.modules
  let allResources := request.resources ++ moduleResources
  let allMappers := request.errorMappers ++ moduleMappers
  validateRoutes request.routesRequest.allRouters
  validateExtensionNames allResources moduleChecks request.runtime
    runtimePlan
  validateErrorMappers hierarchy allMappers
  framework.configureApplicationLogging request.config
  let readiness ←
    moduleChecks.foldlM ReadinessRegistry.register
      (ReadinessRegistry.new request.config.readinessTimeoutSeconds)
  let resources ← ResourceRegistry.new allResources
  let connected ←
    request.appRequest.connectInjected
      (request.appRequest.newState readiness)
  let state := request.appRequest.publishAuthProvider connected
  request.appRequest.checkAuthProvider state
  let handlers ←
    allMappers.foldlM HandlerState.registerErrorMapper
      HandlerState.new.installProblemHandlers
  request.routesRequest.inclusions.forM framework.include
  pure
    { app :=
        { state
          arguments :=
            request.appRequest.lifespanArguments runtimePlan resources }
      routes := request.routesRequest.included
      handlers }

end ApplicationRequest

/-- The logging and FastAPI accept what they are asked for. -/
structure Framework.Admits (framework : Framework)
    (request : ApplicationRequest) : Prop where
  logging : framework.configureApplicationLogging request.config = .ok ()
  inclusions :
    ∀ inclusion ∈ request.routesRequest.inclusions,
      framework.include inclusion = .ok ()

/-! ## The parts of creation -/

theorem RoutesRequest.createRoutes_eq_ok_iff {request : RoutesRequest}
    {app : AppRoutes} :
    request.createRoutes = .ok app ↔
      TransportPolicy.validateModuleConflicts
          (request.modules.filterMap ModuleRoutes.transportPolicy) =
        .ok () ∧
      validateRoutes request.allRouters = .ok () ∧
      app = request.included := by
  rw [createRoutes, check_bind_eq_ok_iff, check_bind_eq_ok_iff]
  refine and_congr_right fun _ => and_congr_right fun _ => ?_
  show Except.ok request.included = .ok app ↔ _
  rw [Except.ok.injEq, eq_comm]

/-- The names of modules are accepted exactly if they are distinct. -/
theorem validateModuleNames_eq_ok_iff {names : List Name}
    {modules : List DomainModule} :
    validateModuleNames names modules = .ok () ↔
      (modules.map DomainModule.name).Nodup ∧
        ∀ module ∈ modules, module.name ∉ names := by
  induction modules generalizing names with
  | nil => simp [validateModuleNames]
  | cons module rest induction =>
      rw [validateModuleNames, List.map_cons, List.nodup_cons,
        List.forall_mem_cons]
      split
      · next taken =>
          constructor
          · nofun
          · exact fun valid => (valid.2.1 taken).elim
      · next fresh =>
          rw [induction]
          constructor
          · rintro ⟨nodup, absent⟩
            refine ⟨⟨?_, nodup⟩, fresh, ?_⟩
            · intro member
              rcases List.mem_map.mp member with ⟨other, among, same⟩
              exact absent other among (same ▸ List.mem_cons_self)
            · exact fun other among seen =>
                absent other among (.tail _ seen)
          · rintro ⟨⟨new, nodup⟩, -, absent⟩
            refine ⟨nodup, fun other among seen => ?_⟩
            rcases List.mem_cons.mp seen with same | older
            · exact new (List.mem_map.mpr ⟨other, among, same⟩)
            · exact absent other among older

theorem flattenModules_eq_ok_iff {modules : List DomainModule}
    {flat : List ResourceDeclaration × List ReadinessCheckSpec} :
    flattenModules modules = .ok flat ↔
      validateModuleNames [] modules = .ok () ∧
        flat =
          (modules.flatMap DomainModule.resources,
            modules.flatMap DomainModule.readinessChecks) := by
  rw [flattenModules]
  cases validateModuleNames [] modules with
  | error exception => simp [Except.map]
  | ok _ => simp [Except.map, eq_comm]

theorem AppRequest.createApp_eq_ok_iff {sdk : ServiceSdk}
    {request : AppRequest} {app : App} :
    request.createApp sdk = .ok app ↔
      ∃ runtimePlan, request.buildPlan sdk = .ok runtimePlan ∧
        request.diagnose sdk runtimePlan = .ok () ∧
        validateModuleNames [] request.modules = .ok () ∧
        validateExtensionNames request.allResources request.moduleChecks
            request.runtime runtimePlan =
          .ok () ∧
        ∃ readiness,
          request.moduleChecks.foldlM ReadinessRegistry.register
              (.new request.config.readinessTimeoutSeconds) =
            .ok readiness ∧
          ∃ resources,
            ResourceRegistry.new request.allResources = .ok resources ∧
            ∃ connected,
              request.connectInjected (request.newState readiness) =
                .ok connected ∧
              request.checkAuthProvider
                  (request.publishAuthProvider connected) =
                .ok () ∧
              app =
                { state := request.publishAuthProvider connected
                  arguments :=
                    request.lifespanArguments runtimePlan resources } := by
  rw [createApp, bind_eq_ok_iff]
  refine exists_congr fun runtimePlan => and_congr_right fun _ => ?_
  rw [check_bind_eq_ok_iff]
  refine and_congr_right fun _ => ?_
  rw [bind_eq_ok_iff]
  simp only [flattenModules_eq_ok_iff, and_assoc, exists_and_left,
    exists_eq_left]
  refine and_congr_right fun _ => ?_
  rw [check_bind_eq_ok_iff]
  refine and_congr_right fun _ => ?_
  rw [bind_eq_ok_iff]
  refine exists_congr fun readiness => and_congr_right fun _ => ?_
  rw [bind_eq_ok_iff]
  refine exists_congr fun resources => and_congr_right fun _ => ?_
  rw [bind_eq_ok_iff]
  refine exists_congr fun connected => and_congr_right fun _ => ?_
  rw [check_bind_eq_ok_iff]
  refine and_congr_right fun _ => ?_
  exact ⟨fun | rfl => rfl, fun | rfl => rfl⟩

namespace ApplicationRequest

variable {sdk : ServiceSdk} {hierarchy : ClassHierarchy ExcClass}
  {framework : Framework} {request : ApplicationRequest}

theorem policies_routesRequest :
    request.routesRequest.modules.filterMap ModuleRoutes.transportPolicy =
      request.modules.filterMap fun module => module.transportPolicy := by
  rw [routesRequest, List.filterMap_map]
  rfl

theorem allResources_appRequest :
    request.appRequest.allResources =
      request.resources ++
        request.modules.flatMap fun module => module.resources := by
  rw [AppRequest.allResources, appRequest, List.flatMap_map]

theorem moduleChecks_appRequest :
    request.appRequest.moduleChecks =
      request.modules.flatMap fun module => module.readinessChecks := by
  rw [AppRequest.moduleChecks, appRequest, List.flatMap_map]

/-- An application is created exactly if all of its parts are. -/
theorem create_eq_ok_iff_parts {application : Application} :
    request.create sdk hierarchy framework = .ok application ↔
      request.appRequest.createApp sdk = .ok application.app ∧
      request.routesRequest.createRoutes = .ok application.routes ∧
      installMappers hierarchy request.allMappers =
        .ok application.handlers ∧
      framework.Admits request := by
  rw [AppRequest.createApp_eq_ok_iff, RoutesRequest.createRoutes_eq_ok_iff,
    installMappers, check_bind_eq_ok_iff, policies_routesRequest,
    allResources_appRequest, moduleChecks_appRequest]
  constructor
  · intro created
    rw [create] at created
    rcases bind_eq_ok_iff.mp created with ⟨plan, planned, created⟩
    rcases check_bind_eq_ok_iff.mp created with ⟨diagnosed, created⟩
    rcases bind_eq_ok_iff.mp created with ⟨flat, flattened, created⟩
    rcases check_bind_eq_ok_iff.mp flattened with ⟨names, flattened⟩
    rcases check_bind_eq_ok_iff.mp flattened with ⟨policies, ⟨⟩⟩
    rcases check_bind_eq_ok_iff.mp created with ⟨routes, created⟩
    rcases check_bind_eq_ok_iff.mp created with ⟨extensions, created⟩
    rcases check_bind_eq_ok_iff.mp created with ⟨mappers, created⟩
    rcases check_bind_eq_ok_iff.mp created with ⟨logging, created⟩
    rcases bind_eq_ok_iff.mp created with ⟨readiness, registered, created⟩
    rcases bind_eq_ok_iff.mp created with ⟨resources, bound, created⟩
    rcases bind_eq_ok_iff.mp created with ⟨connected, connects, created⟩
    rcases check_bind_eq_ok_iff.mp created with ⟨provided, created⟩
    rcases bind_eq_ok_iff.mp created with ⟨handlers, installed, created⟩
    rcases check_bind_eq_ok_iff.mp created with ⟨included, ⟨⟩⟩
    exact
      ⟨⟨plan, planned, diagnosed, names, extensions, readiness, registered,
          resources, bound, connected, connects, provided, rfl⟩,
        ⟨policies, routes, rfl⟩, ⟨mappers, installed⟩,
        ⟨logging, forM_eq_ok_iff.mp included⟩⟩
  · rintro ⟨⟨plan, planned, diagnosed, names, extensions, readiness,
      registered, resources, bound, connected, connects, provided, app⟩,
      ⟨policies, routes, included⟩, ⟨mappers, installed⟩, admits⟩
    rw [create]
    apply bind_eq_ok_iff.mpr
    refine ⟨plan, planned, check_bind_eq_ok_iff.mpr ⟨diagnosed, ?_⟩⟩
    apply bind_eq_ok_iff.mpr
    refine ⟨_, check_bind_eq_ok_iff.mpr
      ⟨names, check_bind_eq_ok_iff.mpr ⟨policies, rfl⟩⟩, ?_⟩
    apply check_bind_eq_ok_iff.mpr
    refine ⟨routes, check_bind_eq_ok_iff.mpr ⟨extensions, ?_⟩⟩
    apply check_bind_eq_ok_iff.mpr
    refine ⟨mappers, check_bind_eq_ok_iff.mpr ⟨admits.logging, ?_⟩⟩
    apply bind_eq_ok_iff.mpr
    refine ⟨readiness, registered, ?_⟩
    apply bind_eq_ok_iff.mpr
    refine ⟨resources, bound, bind_eq_ok_iff.mpr
      ⟨connected, connects, ?_⟩⟩
    apply check_bind_eq_ok_iff.mpr
    refine ⟨provided, bind_eq_ok_iff.mpr
      ⟨application.handlers, installed, ?_⟩⟩
    apply check_bind_eq_ok_iff.mpr
    refine ⟨forM_eq_ok_iff.mpr admits.inclusions, ?_⟩
    rw [← app, ← included]
    rfl

end ApplicationRequest

/-! ## What each part accepts -/

theorem validateExtensionNames_eq_ok_iff
    {resources : List ResourceDeclaration}
    {checks : List ReadinessCheckSpec} {runtime : Option ServiceRuntime}
    {runtimePlan : Option RuntimePlan} :
    validateExtensionNames resources checks runtime runtimePlan = .ok () ↔
      (extensionNames resources checks runtime).Nodup ∧
        ∀ plan, runtimePlan = some plan →
          ∀ name ∈ extensionNames resources checks runtime,
            name ∉ plan.selectedServices := by
  constructor
  · intro valid
    refine ⟨nodup_extensionNames_of_validateExtensionNames valid, ?_⟩
    rintro plan rfl name member
    exact not_mem_selectedServices_of_mem_extensionNames valid member
  · rintro ⟨nodup, unplanned⟩
    have checksNodup := (List.nodup_append.mp nodup).1
    have resourcesNodup := (List.nodup_append.mp checksNodup).1
    rw [validateExtensionNames]
    apply bind_eq_ok_iff.mpr
    refine ⟨_, (foldlM_registerExtensionName_eq_ok_iff
      List.nodup_nil).mpr ⟨rfl, resourcesNodup⟩, ?_⟩
    apply bind_eq_ok_iff.mpr
    refine ⟨_, (foldlM_registerExtensionName_eq_ok_iff
      resourcesNodup).mpr ⟨rfl, checksNodup⟩, ?_⟩
    apply bind_eq_ok_iff.mpr
    refine ⟨_, (foldlM_registerExtensionName_eq_ok_iff
      checksNodup).mpr ⟨rfl, nodup⟩, ?_⟩
    cases runtimePlan with
    | none => rfl
    | some plan =>
        dsimp only
        split
        · rfl
        · next name rest sorted =>
            have member : name ∈ name :: rest := List.mem_cons_self
            rw [← sorted, List.mem_insertionSort, List.mem_filter] at member
            have selected := of_decide_eq_true member.2
            exact (unplanned plan rfl name member.1 selected).elim

/-- Checks are registered exactly if each is valid and no name repeats. -/
theorem exists_registered_iff {checks : List ReadinessCheckSpec}
    {timeout : Option ℚ}
    (nodup : (checks.map ReadinessCheckSpec.name).Nodup) :
    (∃ readiness,
        checks.foldlM ReadinessRegistry.register (.new timeout) =
          .ok readiness) ↔
      ∀ spec ∈ checks, spec.RegisteredAs spec.name := by
  constructor
  · rintro ⟨readiness, registered⟩ spec member
    rcases exists_step_of_foldlM_eq_ok registered spec member with
      ⟨before, after, accepted⟩
    rcases ReadinessRegistry.register_eq_ok_iff.mp accepted with
      ⟨notBlank, -, positive, -⟩
    exact ⟨rfl, notBlank, positive⟩
  · intro valid
    rcases @ReadinessRegistry.exists_foldlM_register checks (.new timeout)
      valid nodup (by simp) with ⟨readiness, registered, -⟩
    exact ⟨readiness, registered⟩

/-- The resource which a declaration declares. -/
def ResourceDeclaration.resource : ResourceDeclaration → ManagedResource
  | .managedResource resource => resource
  | .resourceBinding binding => binding.managedResource

theorem ResourceDeclaration.bind_of_valid {declaration : ResourceDeclaration}
    (valid : declaration.resource.Valid) :
    ∃ binding, declaration.bind = .ok binding := by
  cases declaration with
  | resourceBinding binding => exact ⟨binding, rfl⟩
  | managedResource resource =>
      rcases resource with ⟨name⟩
      cases name with
      | key resourceKey => exact ⟨_, rfl⟩
      | str name =>
          have notBlank : ¬isBlank name = true := by
            rw [Bool.not_eq_true]
            exact valid.notBlank
          rw [ResourceDeclaration.bind, ManagedResource.bind]
          dsimp only
          rw [if_neg notBlank, ResourceBinding.new, ResourceName.toKey,
            ResourceKey.new, dif_neg notBlank]
          exact ⟨_, rfl⟩

theorem ResourceDeclaration.valid_of_bind {declaration : ResourceDeclaration}
    {binding : ResourceBinding} (bound : declaration.bind = .ok binding) :
    binding.managedResource.Valid ↔ declaration.resource.Valid := by
  have named :
      binding.managedResource.name.resolve =
        declaration.resource.name.resolve :=
    (name_of_bind bound).trans (by cases declaration <;> rfl)
  have timeout :
      binding.managedResource.readinessTimeoutSeconds =
        declaration.resource.readinessTimeoutSeconds := by
    cases declaration with
    | resourceBinding other =>
        cases bound
        rfl
    | managedResource resource =>
        have new : ResourceBinding.new resource = .ok binding := by
          rw [ResourceDeclaration.bind, ManagedResource.bind] at bound
          split at bound
          · split at bound
            · cases bound
            · exact bound
          · exact bound
        rw [ResourceBinding.new] at new
        cases key : resource.name.toKey with
        | error exception =>
            rw [key] at new
            cases new
        | ok resourceKey =>
            rw [key] at new
            cases new
            rfl
  constructor
  · rintro ⟨notBlank, notReserved, positive⟩
    rw [named] at notBlank notReserved
    exact ⟨notBlank, notReserved, timeout ▸ positive⟩
  · rintro ⟨notBlank, notReserved, positive⟩
    rw [← named] at notBlank notReserved
    exact ⟨notBlank, notReserved, timeout ▸ positive⟩

/-- Resources are bound exactly if each is valid and no name repeats. -/
theorem ResourceRegistry.exists_new_iff
    {declarations : List ResourceDeclaration} :
    (∃ registry, ResourceRegistry.new declarations = .ok registry) ↔
      (∀ declaration ∈ declarations, declaration.resource.Valid) ∧
        (declarations.map ResourceDeclaration.resourceName).Nodup := by
  constructor
  · rintro ⟨registry, made⟩
    have bound := ResourceRegistry.new_eq_ok_iff.mp made
    refine ⟨?_, ResourceRegistry.names_of_new made ▸ registry.nodup_names⟩
    intro declaration member
    rcases mapM_isOk_iff.mp ⟨_, bound⟩ declaration member with
      ⟨binding, own⟩
    have among : binding ∈ registry.bindings :=
      (mem_of_mapM_eq_ok bound binding).mpr ⟨declaration, member, own⟩
    exact (ResourceDeclaration.valid_of_bind own).mp
      (registry.valid _ (List.mem_map_of_mem among))
  · rintro ⟨valid, nodup⟩
    rcases mapM_isOk_iff.mpr fun declaration member =>
      ResourceDeclaration.bind_of_valid (valid declaration member) with
      ⟨bindings, bound⟩
    have names :=
      map_eq_of_mapM_eq_ok (fun _ _ => name_of_bind) bound
    refine ⟨⟨bindings, ?_, ?_⟩, ResourceRegistry.new_eq_ok_iff.mpr bound⟩
    · intro resource member
      rcases List.mem_map.mp member with ⟨binding, among, rfl⟩
      rcases (mem_of_mapM_eq_ok bound binding).mp among with
        ⟨declaration, declared, own⟩
      exact (ResourceDeclaration.valid_of_bind own).mpr
        (valid declaration declared)
    · rw [resourceNames, List.map_map]
      rw [← names] at nodup
      exact nodup

/-! ## Connecting an injected runtime -/

namespace AppRequest

variable {request : AppRequest} {readiness : ReadinessRegistry}
  {connected : AppState}

/-- The names of the checks of an injected runtime are free. -/
def FreshServices (request : AppRequest) (readiness : ReadinessRegistry) :
    Prop :=
  ∀ runtime, request.runtime = some runtime →
    ∀ service ∈ runtime.checks.keys, service ∉ readiness.names

/-- What the connection of an injected runtime makes of the new state. -/
def Connects (request : AppRequest) (readiness : ReadinessRegistry)
    (connected : AppState) : Prop :=
  match request.runtime with
  | none => connected = request.newState readiness
  | some runtime =>
      ∃ registry provider,
        registry.specs.entries =
            readiness.specs.entries ++
              runtime.readinessSpecs.map (fun spec => (spec.name, spec)) ∧
          runtime.keycloakProvider = .ok provider ∧
          connected =
            { ((request.newState readiness).setReadiness registry).publish
                provider with
              serviceRuntime := some runtime }

theorem connects_of_connectInjected
    (connects :
      request.connectInjected (request.newState readiness) =
        .ok connected) :
    request.Connects readiness connected := by
  rw [connectInjected] at connects
  rw [Connects]
  cases injected : request.runtime with
  | none =>
      rw [injected] at connects
      cases connects
      rfl
  | some runtime =>
      rw [injected] at connects
      dsimp only at connects ⊢
      cases refused : runtime.refusal readiness with
      | some exception =>
          rw [@run_configureServiceRuntime_of_refused runtime
            (request.newState readiness) exception refused] at connects
          cases connects
      | none =>
          rcases @run_configureServiceRuntime_of_accepted runtime
            (request.newState readiness) refused with
            ⟨registry, entries, run⟩
          rw [run, AppState.connect] at connects
          cases provided : runtime.keycloakProvider with
          | error exception =>
              rw [provided] at connects
              cases connects
          | ok provider =>
              rw [provided] at connects
              cases connects
              exact ⟨registry, provider, entries, rfl, rfl⟩

theorem exists_connectInjected_iff
    (fresh : request.FreshServices readiness) :
    (∃ connected,
        request.connectInjected (request.newState readiness) =
          .ok connected) ↔
      ∀ runtime, request.runtime = some runtime →
        runtime.missingChecks = [] ∧
          ∃ provider, runtime.keycloakProvider = .ok provider := by
  rw [connectInjected]
  cases injected : request.runtime with
  | none => exact ⟨fun _ _ => nofun, fun _ => ⟨_, rfl⟩⟩
  | some runtime =>
      simp only [Option.some.injEq, forall_eq']
      have free : runtime.duplicateNames readiness = [] :=
        runtime.duplicateNames_eq_nil_iff.mpr (fresh runtime injected)
      cases refused : runtime.refusal readiness with
      | some exception =>
          rw [@run_configureServiceRuntime_of_refused runtime
            (request.newState readiness) exception refused]
          refine ⟨nofun, fun complete => ?_⟩
          rw [ServiceRuntime.refusal_eq_none_iff.mpr
            ⟨complete.1, free⟩] at refused
          cases refused
      | none =>
          have complete := (ServiceRuntime.refusal_eq_none_iff.mp refused).1
          rcases @run_configureServiceRuntime_of_accepted runtime
            (request.newState readiness) refused with ⟨registry, -, run⟩
          rw [run, and_iff_right complete]
          cases runtime.keycloakProvider with
          | error exception => exact ⟨nofun, nofun⟩
          | ok provider => exact ⟨fun _ => ⟨_, rfl⟩, fun _ => ⟨_, rfl⟩⟩

/-- The provider which an application has after its creation. -/
theorem checkAuthProvider_eq_ok_iff
    (connects : request.Connects readiness connected) :
    request.checkAuthProvider (request.publishAuthProvider connected) =
        .ok () ↔
      (request.includeAuthRouter = true → request.authProvider = none →
        ∀ runtime, request.runtime = some runtime →
          ∃ provider, runtime.keycloakProvider = .ok (some provider)) := by
  rw [checkAuthProvider, publishAuthProvider]
  cases request.includeAuthRouter with
  | false => simp
  | true =>
      cases request.authProvider with
      | some provider => simp
      | none =>
          rw [Connects] at connects
          cases injected : request.runtime with
          | none => simp
          | some runtime =>
              rw [injected] at connects
              rcases connects with ⟨registry, provider, -, provided, rfl⟩
              cases provider with
              | none =>
                  simp [provided, AppState.publish, AppState.setReadiness,
                    newState]
              | some provider => simp [provided, AppState.publish]

/-- The configuration is diagnosed if the runtime provides the auth. -/
theorem diagnose_eq_ok_iff {sdk : ServiceSdk}
    {runtimePlan : Option RuntimePlan}
    (planned : request.buildPlan sdk = .ok runtimePlan) :
    request.diagnose sdk runtimePlan = .ok () ↔
      (request.includeAuthRouter = true → request.authProvider = none →
        request.runtime = none →
          keycloakService ∈ request.config.requiredServices ∧
            ∀ plan, runtimePlan = some plan →
              sdk.diagnoseServices plan = none) := by
  unfold diagnose
  split
  · next diagnosed =>
      rcases diagnosed with ⟨included, unprovided, assembled⟩
      rw [Option.isNone_iff_eq_none] at unprovided assembled
      simp only [included, unprovided, assembled, true_implies]
      have enabled := request.config.requiredEnabled keycloakService
      cases runtimePlan with
      | none =>
          -- Without enabled services there is no plan.
          rw [buildPlan] at planned
          split at planned
          · cases made : buildRuntimePlan sdk request.config <;>
              rw [made] at planned <;> cases planned
          · next unplanned =>
              rw [assembled, not_and] at unplanned
              have empty := not_not.mp (unplanned rfl)
              rw [empty] at enabled
              exact ⟨nofun, fun needs => nomatch enabled needs.1⟩
      | some plan =>
          simp only [Option.some.injEq, forall_eq']
          rw [diagnoseAuthConfiguration]
          split
          · next disabled =>
              exact ⟨nofun, fun needs => (disabled (enabled needs.1)).elim⟩
          split
          · next optional =>
              exact ⟨nofun, fun needs => (optional needs.1).elim⟩
          · next required =>
              rw [not_not] at required
              rw [and_iff_right required]
              cases sdk.diagnoseServices plan with
              | none => exact ⟨fun _ => rfl, fun _ => rfl⟩
              | some diagnosis => exact ⟨nofun, nofun⟩
  · next skipped =>
      refine ⟨fun _ included unprovided assembled => ?_, fun _ => rfl⟩
      exact (skipped
        ⟨included, by rw [unprovided]; rfl, by rw [assembled]; rfl⟩).elim

end AppRequest

/-! ## What is accepted -/

namespace ApplicationRequest

variable (sdk : ServiceSdk) (hierarchy : ClassHierarchy ExcClass)
  (request : ApplicationRequest)

/-- `all_resources`. -/
def allResources : List ResourceDeclaration :=
  request.resources ++
    request.modules.flatMap fun module => module.resources

/-- The readiness checks of the modules. -/
def moduleChecks : List ReadinessCheckSpec :=
  request.modules.flatMap fun module => module.readinessChecks

/-- The names which resources, checks and an injected runtime use. -/
def extensionNames : List Name :=
  FastapiCore.extensionNames request.allResources request.moduleChecks
    request.runtime

/-- The policies which modules declare. -/
def modulePolicies : List TransportPolicy :=
  request.modules.filterMap fun module => module.transportPolicy

/-- The conditions under which a request is accepted with a runtime plan. -/
structure Acceptable (runtimePlan : Option RuntimePlan) : Prop where
  planned : request.appRequest.buildPlan sdk = .ok runtimePlan
  diagnosed :
    request.includeAuthRouter = true → request.authProvider = none →
      request.runtime = none →
        keycloakService ∈ request.config.requiredServices ∧
          ∀ plan, runtimePlan = some plan →
            sdk.diagnoseServices plan = none
  modules : (request.modules.map fun module => module.name).Nodup
  policies : ¬Conflict (request.modulePolicies.map TransportPolicy.attributes)
  routers :
    ∀ router ∈ request.routesRequest.allRouters, router.IsApiRouter
  contracts :
    ((apiRoutes request.routesRequest.allRouters).flatMap
      ApiRoute.contracts).Nodup
  operationIds :
    ((apiRoutes request.routesRequest.allRouters).map
      ApiRoute.uniqueId).Nodup
  names : request.extensionNames.Nodup
  unplanned :
    ∀ plan, runtimePlan = some plan →
      ∀ name ∈ request.extensionNames, name ∉ plan.selectedServices
  mappers : ValidMappers hierarchy request.allMappers
  checks : ∀ spec ∈ request.moduleChecks, spec.RegisteredAs spec.name
  resources :
    ∀ declaration ∈ request.allResources, declaration.resource.Valid
  runtime :
    ∀ runtime, request.runtime = some runtime →
      runtime.missingChecks = [] ∧
        ∃ provider, runtime.keycloakProvider = .ok provider
  provided :
    request.includeAuthRouter = true → request.authProvider = none →
      ∀ runtime, request.runtime = some runtime →
        ∃ provider, runtime.keycloakProvider = .ok (some provider)

variable {sdk hierarchy request}

theorem validateModuleNames_appRequest :
    validateModuleNames [] request.appRequest.modules = .ok () ↔
      (request.modules.map fun module => module.name).Nodup := by
  rw [validateModuleNames_eq_ok_iff, appRequest, List.map_map]
  simp only [List.not_mem_nil, not_false_eq_true, implies_true, and_true]
  rfl

theorem validateModuleConflicts_eq_ok_iff {policies : List TransportPolicy} :
    TransportPolicy.validateModuleConflicts policies = .ok () ↔
      ¬Conflict (policies.map TransportPolicy.attributes) := by
  rw [← TransportPolicy.validateModuleConflicts_attributes,
    PolicyAttributes.validateModuleConflicts_eq_ok_iff]

/-- The parts of a list of distinct extension names are distinct. -/
theorem nodup_of_extensionNames (nodup : request.extensionNames.Nodup) :
    (request.allResources.map ResourceDeclaration.resourceName).Nodup ∧
      (request.moduleChecks.map ReadinessCheckSpec.name).Nodup := by
  have checks := List.nodup_append.mp (List.nodup_append.mp nodup).1
  exact ⟨checks.1, checks.2.1⟩

/-- Registered checks leave the names of an injected runtime free. -/
theorem freshServices {readiness : ReadinessRegistry} {timeout : Option ℚ}
    (nodup : request.extensionNames.Nodup)
    (registered :
      request.moduleChecks.foldlM ReadinessRegistry.register (.new timeout) =
        .ok readiness) :
    request.appRequest.FreshServices readiness := by
  intro runtime injected service member taken
  rw [ReadinessRegistry.names_foldlM_register registered] at taken
  have apart := (List.nodup_append.mp nodup).2.2
  have given : request.runtime = some runtime := injected
  rw [given] at apart
  exact apart service (List.mem_append_right _ (by simpa using taken))
    service member rfl

/-- The parts of a created application, as the source validates them. -/
theorem createApp_appRequest_eq_ok_iff {app : App} :
    request.appRequest.createApp sdk = .ok app ↔
      ∃ runtimePlan, request.appRequest.buildPlan sdk = .ok runtimePlan ∧
        request.appRequest.diagnose sdk runtimePlan = .ok () ∧
        (request.modules.map fun module => module.name).Nodup ∧
        (request.extensionNames.Nodup ∧
          ∀ plan, runtimePlan = some plan →
            ∀ name ∈ request.extensionNames,
              name ∉ plan.selectedServices) ∧
        ∃ readiness,
          request.moduleChecks.foldlM ReadinessRegistry.register
              (.new request.config.readinessTimeoutSeconds) =
            .ok readiness ∧
          ∃ resources,
            ResourceRegistry.new request.allResources = .ok resources ∧
            ∃ connected,
              request.appRequest.connectInjected
                  (request.appRequest.newState readiness) =
                .ok connected ∧
              request.appRequest.checkAuthProvider
                  (request.appRequest.publishAuthProvider connected) =
                .ok () ∧
              app =
                { state := request.appRequest.publishAuthProvider connected
                  arguments :=
                    request.appRequest.lifespanArguments runtimePlan
                      resources } := by
  rw [AppRequest.createApp_eq_ok_iff, allResources_appRequest,
    moduleChecks_appRequest]
  simp only [validateModuleNames_appRequest,
    validateExtensionNames_eq_ok_iff]
  rfl

theorem acceptable_of_create {application : Application}
    (created : request.create sdk hierarchy framework = .ok application) :
    request.Acceptable sdk hierarchy
      application.app.arguments.runtimePlan := by
  rcases create_eq_ok_iff_parts.mp created with ⟨app, routes, mappers, -⟩
  rcases createApp_appRequest_eq_ok_iff.mp app with
    ⟨plan, planned, diagnosed, modules, ⟨names, unplanned⟩, readiness,
      registered, resources, bound, connected, connects, provided, same⟩
  rcases RoutesRequest.createRoutes_eq_ok_iff.mp routes with
    ⟨policies, valid, -⟩
  rcases validateRoutes_eq_ok_iff.mp valid with
    ⟨routers, contracts, operationIds⟩
  rw [policies_routesRequest] at policies
  have distinct := nodup_of_extensionNames names
  have facts := AppRequest.connects_of_connectInjected connects
  rw [same]
  exact
    { planned
      diagnosed := (AppRequest.diagnose_eq_ok_iff planned).mp diagnosed
      modules
      policies := validateModuleConflicts_eq_ok_iff.mp policies
      routers
      contracts
      operationIds
      names
      unplanned
      mappers := (installMappers_eq_ok_iff.mp mappers).1
      checks :=
        (exists_registered_iff distinct.2).mp ⟨readiness, registered⟩
      resources :=
        (ResourceRegistry.exists_new_iff.mp ⟨resources, bound⟩).1
      runtime :=
        (AppRequest.exists_connectInjected_iff
          (freshServices names registered)).mp ⟨connected, connects⟩
      provided :=
        (AppRequest.checkAuthProvider_eq_ok_iff facts).mp provided }

theorem exists_create_of_acceptable {runtimePlan : Option RuntimePlan}
    (acceptable : request.Acceptable sdk hierarchy runtimePlan)
    (admits : framework.Admits request) :
    ∃ application,
      request.create sdk hierarchy framework = .ok application := by
  have distinct := nodup_of_extensionNames acceptable.names
  rcases @exists_registered_iff _ request.config.readinessTimeoutSeconds
    distinct.2 |>.mpr acceptable.checks with ⟨readiness, registers⟩
  rcases ResourceRegistry.exists_new_iff.mpr
    ⟨acceptable.resources, distinct.1⟩ with ⟨resources, bound⟩
  rcases (AppRequest.exists_connectInjected_iff
    (freshServices acceptable.names registers)).mpr
      acceptable.runtime with ⟨connected, connects⟩
  have facts := AppRequest.connects_of_connectInjected connects
  have createdApp : ∃ app, request.appRequest.createApp sdk = .ok app :=
    ⟨_, createApp_appRequest_eq_ok_iff.mpr
      ⟨runtimePlan, acceptable.planned,
        (AppRequest.diagnose_eq_ok_iff acceptable.planned).mpr
          acceptable.diagnosed,
        acceptable.modules, ⟨acceptable.names, acceptable.unplanned⟩,
        readiness, registers, resources, bound, connected, connects,
        (AppRequest.checkAuthProvider_eq_ok_iff facts).mpr
          acceptable.provided,
        rfl⟩⟩
  have createdRoutes :
      request.routesRequest.createRoutes =
        .ok request.routesRequest.included := by
    rw [RoutesRequest.createRoutes_eq_ok_iff, policies_routesRequest]
    exact
      ⟨validateModuleConflicts_eq_ok_iff.mpr acceptable.policies,
        validateRoutes_eq_ok_iff.mpr
          ⟨acceptable.routers, acceptable.contracts,
            acceptable.operationIds⟩,
        rfl⟩
  have installed :=
    (@installMappers_eq_ok_iff hierarchy request.allMappers _).mpr
      ⟨acceptable.mappers, rfl⟩
  rcases createdApp with ⟨app, createdApp⟩
  exact
    ⟨⟨app, _, _⟩,
      create_eq_ok_iff_parts.mpr
        ⟨createdApp, createdRoutes, installed, admits⟩⟩

theorem admits_of_create {application : Application}
    (created : request.create sdk hierarchy framework = .ok application) :
    framework.Admits request :=
  (create_eq_ok_iff_parts.mp created).2.2.2

/--
A request is accepted exactly if it is acceptable and neither the logging nor
FastAPI refuses it, and then its application has the parts which the lifespan,
the routes and the mappers give.
-/
theorem create_accepts (sdk : ServiceSdk)
    (hierarchy : ClassHierarchy ExcClass) (framework : Framework)
    (request : ApplicationRequest) :
    ((∃ application,
          request.create sdk hierarchy framework = .ok application) ↔
        (∃ runtimePlan, request.Acceptable sdk hierarchy runtimePlan) ∧
          framework.Admits request) ∧
      ∀ application,
        request.create sdk hierarchy framework = .ok application ↔
          request.appRequest.createApp sdk = .ok application.app ∧
          request.routesRequest.createRoutes = .ok application.routes ∧
          installMappers hierarchy request.allMappers =
            .ok application.handlers ∧
          framework.Admits request := by
  refine ⟨⟨?_, ?_⟩, fun application => create_eq_ok_iff_parts⟩
  · rintro ⟨application, created⟩
    exact ⟨⟨_, acceptable_of_create created⟩, admits_of_create created⟩
  · rintro ⟨⟨runtimePlan, acceptable⟩, admits⟩
    exact exists_create_of_acceptable acceptable admits

end ApplicationRequest

end FastapiCore
