import FastapiCore.ApplicationCreation

/-!
# The order of what an application is made of

The conditions under which a request is accepted do not mention an order, so
modules, resources, routers and error mappers may be listed in any order.  The
applications of two such requests have the same routes, checks and resources
up to their order, the same policy for every route, and the same handler for
every exception.
-/

namespace FastapiCore

open Library

/-! ## Requests in another order -/

/-- The requests differ in the order of their parts only. -/
structure ApplicationRequest.Reordered
    (request other : ApplicationRequest) : Prop where
  config : other.config = request.config
  runtime : other.runtime = request.runtime
  lifespan : other.lifespan = request.lifespan
  includeAuthRouter : other.includeAuthRouter = request.includeAuthRouter
  authProvider : other.authProvider = request.authProvider
  transportPolicy : other.transportPolicy = request.transportPolicy
  routers : request.routers.Perm other.routers
  modules : request.modules.Perm other.modules
  resources : request.resources.Perm other.resources
  errorMappers : request.errorMappers.Perm other.errorMappers

/-- The applications differ in the order of their parts only. -/
structure Application.Agree (mro : ExcClass → List ExcClass)
    (left right : Application) : Prop where
  /-- The states differ in the readiness registry only. -/
  state :
    right.app.state =
      left.app.state.setReadiness right.app.state.readinessRegistry
  checks :
    left.app.state.readinessRegistry.specs.entries.Perm
      right.app.state.readinessRegistry.specs.entries
  /-- The arguments of the lifespan differ in the resources only. -/
  arguments :
    right.app.arguments =
      { left.app.arguments with
        resources := right.app.arguments.resources }
  resources :
    left.app.arguments.resources.bindings.Perm
      right.app.arguments.resources.bindings
  routes : left.routes.routes.Perm right.routes.routes
  policies :
    ∀ path method,
      right.routes.routePolicy path method =
        left.routes.routePolicy path method
  handlers :
    ∀ cls, right.handlers.handlerFor mro cls =
      left.handlers.handlerFor mro cls

namespace ApplicationRequest

variable {sdk : ServiceSdk} {hierarchy : ClassHierarchy ExcClass}
  {framework : Framework} {request other : ApplicationRequest}

namespace Reordered

theorem symm (same : request.Reordered other) : other.Reordered request where
  config := same.config.symm
  runtime := same.runtime.symm
  lifespan := same.lifespan.symm
  includeAuthRouter := same.includeAuthRouter.symm
  authProvider := same.authProvider.symm
  transportPolicy := same.transportPolicy.symm
  routers := same.routers.symm
  modules := same.modules.symm
  resources := same.resources.symm
  errorMappers := same.errorMappers.symm

variable (same : request.Reordered other)
include same

theorem allResources : request.allResources.Perm other.allResources :=
  same.resources.append (same.modules.flatMap_right _)

theorem moduleChecks : request.moduleChecks.Perm other.moduleChecks :=
  same.modules.flatMap_right _

theorem allMappers : request.allMappers.Perm other.allMappers :=
  same.errorMappers.append (same.modules.flatMap_right _)

theorem modulePolicies : request.modulePolicies.Perm other.modulePolicies :=
  same.modules.filterMap _

theorem extensionNames : request.extensionNames.Perm other.extensionNames := by
  rw [ApplicationRequest.extensionNames, ApplicationRequest.extensionNames,
    FastapiCore.extensionNames, FastapiCore.extensionNames, same.runtime]
  exact
    ((same.allResources.map _).append (same.moduleChecks.map _)).append_right _

theorem builtinRouters :
    other.routesRequest.builtinRouters =
      request.routesRequest.builtinRouters := by
  rw [RoutesRequest.builtinRouters, RoutesRequest.builtinRouters,
    routesRequest, routesRequest, same.includeAuthRouter]

theorem allRouters :
    request.routesRequest.allRouters.Perm
      other.routesRequest.allRouters := by
  rw [RoutesRequest.allRouters, RoutesRequest.allRouters,
    same.builtinRouters]
  exact
    (same.routers.append_left _).append
      ((same.modules.map _).flatMap_right _)

theorem buildPlan :
    other.appRequest.buildPlan sdk = request.appRequest.buildPlan sdk := by
  show (if other.runtime.isNone ∧ other.config.enabledServices ≠ [] then
      (buildRuntimePlan sdk other.config).map some
    else .ok none) = _
  rw [same.runtime, same.config]
  rfl

theorem apiRoutes :
    (FastapiCore.apiRoutes request.routesRequest.allRouters).Perm
      (FastapiCore.apiRoutes other.routesRequest.allRouters) :=
  same.allRouters.flatMap_right _

end Reordered

/-- The conditions do not depend on the order of what is listed. -/
theorem Acceptable.reordered {runtimePlan : Option RuntimePlan}
    (acceptable : request.Acceptable sdk hierarchy runtimePlan)
    (same : request.Reordered other) :
    other.Acceptable sdk hierarchy runtimePlan where
  planned := same.buildPlan.trans acceptable.planned
  diagnosed := by
    rw [same.includeAuthRouter, same.authProvider, same.runtime, same.config]
    exact acceptable.diagnosed
  modules := (same.modules.map _).nodup_iff.mp acceptable.modules
  policies := by
    rintro ⟨field, left, isLeft, right, isRight, conflict⟩
    have policies := same.modulePolicies.map TransportPolicy.attributes
    exact acceptable.policies
      ⟨field, left, policies.mem_iff.mpr isLeft, right,
        policies.mem_iff.mpr isRight, conflict⟩
  routers router member :=
    acceptable.routers router (same.allRouters.mem_iff.mpr member)
  contracts :=
    (same.apiRoutes.flatMap_right _).nodup_iff.mp acceptable.contracts
  operationIds := (same.apiRoutes.map _).nodup_iff.mp acceptable.operationIds
  names := same.extensionNames.nodup_iff.mp acceptable.names
  unplanned plan planned name member :=
    acceptable.unplanned plan planned name
      (same.extensionNames.mem_iff.mpr member)
  mappers := acceptable.mappers.of_perm same.allMappers
  checks spec member :=
    acceptable.checks spec (same.moduleChecks.mem_iff.mpr member)
  resources declaration member :=
    acceptable.resources declaration (same.allResources.mem_iff.mpr member)
  runtime := by
    rw [same.runtime]
    exact acceptable.runtime
  provided := by
    rw [same.includeAuthRouter, same.authProvider, same.runtime]
    exact acceptable.provided

/-! ## What an application is made of -/

/-- The provider of an injected runtime. -/
def runtimeProvider (request : ApplicationRequest) : Option PyObject :=
  request.runtime.bind fun runtime => runtime.keycloakProvider.toOption.join

/-- The state of a new application, with its readiness registry. -/
def stateWith (request : ApplicationRequest)
    (registry : ReadinessRegistry) : AppState where
  readinessRegistry := registry
  serviceRuntime := request.runtime
  authProvider := request.authProvider.or request.runtimeProvider
  allowedAlgorithms :=
    (request.runtimeProvider.map fun provider =>
      OrderedDict.empty.insert provider.ref ["RS256"]).getD .empty

/-- The checks of a new application. -/
def initialChecks (request : ApplicationRequest) : List ReadinessCheckSpec :=
  request.moduleChecks ++
    (request.runtime.map ServiceRuntime.readinessSpecs).getD []

theorem entries_of_registered {readiness : ReadinessRegistry}
    {timeout : Option ℚ} {checks : List ReadinessCheckSpec}
    (valid : ∀ spec ∈ checks, spec.RegisteredAs spec.name)
    (nodup : (checks.map ReadinessCheckSpec.name).Nodup)
    (registered :
      checks.foldlM ReadinessRegistry.register (.new timeout) =
        .ok readiness) :
    readiness.specs.entries = checks.map fun spec => (spec.name, spec) := by
  rcases @ReadinessRegistry.exists_foldlM_register checks (.new timeout)
    valid nodup (by simp) with ⟨final, appended, entries⟩
  rw [registered] at appended
  cases appended
  exact entries.trans (List.nil_append _)

/-- A connected runtime gives the state which the request describes. -/
theorem exists_state_of_connects {readiness : ReadinessRegistry}
    {connected : AppState}
    (connects : request.appRequest.Connects readiness connected) :
    ∃ registry,
      request.appRequest.publishAuthProvider connected =
          request.stateWith registry ∧
        registry.specs.entries =
          readiness.specs.entries ++
            ((request.runtime.map ServiceRuntime.readinessSpecs).getD []).map
              fun spec => (spec.name, spec) := by
  rw [AppRequest.Connects] at connects
  have injected : request.appRequest.runtime = request.runtime := rfl
  have given : request.appRequest.authProvider = request.authProvider := rfl
  unfold stateWith runtimeProvider AppRequest.publishAuthProvider
  rw [given]
  rw [injected] at connects
  cases assembled : request.runtime with
  | none =>
      rw [assembled] at connects
      rw [connects, AppRequest.newState, injected, assembled]
      refine ⟨readiness, ?_, (List.append_nil _).symm⟩
      cases request.authProvider <;> rfl
  | some runtime =>
      rw [assembled] at connects
      rcases connects with ⟨registry, provider, entries, provided, rfl⟩
      refine ⟨registry, ?_, entries⟩
      rw [Option.bind_some, provided]
      cases request.authProvider <;> cases provider <;> rfl

/-- The state and the checks of a created application. -/
theorem state_of_create {application : Application}
    (created : request.create sdk hierarchy framework = .ok application) :
    application.app.state =
        request.stateWith application.app.state.readinessRegistry ∧
      application.app.state.readinessRegistry.specs.entries =
        request.initialChecks.map fun spec => (spec.name, spec) := by
  have acceptable := acceptable_of_create created
  rcases create_eq_ok_iff_parts.mp created with ⟨app, -, -⟩
  rcases createApp_appRequest_eq_ok_iff.mp app with
    ⟨_, -, -, -, -, readiness, registered, _, -, connected, connects, -,
      same⟩
  have entries := entries_of_registered acceptable.checks
    (nodup_of_extensionNames acceptable.names).2 registered
  have facts := AppRequest.connects_of_connectInjected connects
  rcases exists_state_of_connects
    (AppRequest.connects_of_connectInjected connects) with
    ⟨registry, state, extended⟩
  rw [same, state, initialChecks, List.map_append, ← entries]
  exact ⟨rfl, extended⟩

/-! ## Applications of requests in another order -/

theorem Reordered.runtimeProvider (same : request.Reordered other) :
    other.runtimeProvider = request.runtimeProvider := by
  rw [ApplicationRequest.runtimeProvider, ApplicationRequest.runtimeProvider,
    same.runtime]

theorem Reordered.stateWith (same : request.Reordered other)
    (registry later : ReadinessRegistry) :
    other.stateWith later =
      (request.stateWith registry).setReadiness later := by
  rw [ApplicationRequest.stateWith, ApplicationRequest.stateWith,
    same.runtimeProvider, same.runtime, same.authProvider]
  rfl

theorem Reordered.initialChecks (same : request.Reordered other) :
    request.initialChecks.Perm other.initialChecks := by
  rw [ApplicationRequest.initialChecks, ApplicationRequest.initialChecks,
    same.runtime]
  exact same.moduleChecks.append_right _

theorem Reordered.bindings (same : request.Reordered other)
    {resources others : ResourceRegistry}
    (bound : ResourceRegistry.new request.allResources = .ok resources)
    (bounds : ResourceRegistry.new other.allResources = .ok others) :
    resources.bindings.Perm others.bindings := by
  have results := eq_filterMap_of_mapM_eq_ok
    (ResourceRegistry.new_eq_ok_iff.mp bound)
  have others := eq_filterMap_of_mapM_eq_ok
    (ResourceRegistry.new_eq_ok_iff.mp bounds)
  rw [results, others]
  exact same.allResources.filterMap _

/-- The same routers are included, each with the same policy. -/
theorem Reordered.inclusions (same : request.Reordered other) :
    request.routesRequest.inclusions.Perm other.routesRequest.inclusions := by
  have direct :
      other.routesRequest.directInclusion =
        request.routesRequest.directInclusion := by
    funext router
    rw [RoutesRequest.directInclusion, RoutesRequest.directInclusion,
      routesRequest, routesRequest, same.transportPolicy]
  have ofModule :
      other.routesRequest.moduleInclusion =
        request.routesRequest.moduleInclusion := by
    have policy (module : ModuleRoutes) :
        other.routesRequest.modulePolicy module =
          request.routesRequest.modulePolicy module := by
      show (if other.transportPolicy.isSome || module.transportPolicy.isSome
        then
          some
            (TransportPolicy.resolve
              (some (TransportPolicy.resolve none other.transportPolicy))
              module.transportPolicy)
        else none) = _
      rw [same.transportPolicy]
      rfl
    funext module router
    rw [RoutesRequest.moduleInclusion, RoutesRequest.moduleInclusion, policy,
      RoutesRequest.moduleDependencies, RoutesRequest.moduleDependencies,
      routesRequest, routesRequest, same.transportPolicy]
  rw [RoutesRequest.inclusions, RoutesRequest.inclusions,
    same.builtinRouters, direct, ofModule]
  exact
    ((same.routers.map _).append_left _).append
      ((same.modules.map _).flatMap_right _)

/-- What is set up and included does not depend on the order either. -/
theorem Reordered.admits (same : request.Reordered other)
    (admits : framework.Admits request) : framework.Admits other where
  logging := by
    rw [same.config]
    exact admits.logging
  inclusions inclusion member :=
    admits.inclusions inclusion (same.inclusions.mem_iff.mpr member)

theorem Reordered.routes (same : request.Reordered other)
    {app others : AppRoutes}
    (created : request.routesRequest.createRoutes = .ok app)
    (createds : other.routesRequest.createRoutes = .ok others) :
    app.routes.Perm others.routes ∧
      ∀ path method,
        others.routePolicy path method = app.routePolicy path method := by
  constructor
  · rw [(RoutesRequest.performed_of_createRoutes created).2,
      (RoutesRequest.performed_of_createRoutes createds).2,
      AppRoutes.routes_foldl_perform, AppRoutes.routes_foldl_perform]
    exact (same.inclusions.flatMap_right _).append_left _
  · intro path method
    have entries : app.transportPolicies.entries.Perm
        others.transportPolicies.entries := by
      rw [RoutesRequest.entries_transportPolicies created,
        RoutesRequest.entries_transportPolicies createds]
      exact same.inclusions.flatMap_right _
    cases path with
    | none => rfl
    | some path =>
        exact OrderedDict.get?_eq_of_mem_iff fun _ => entries.mem_iff.symm

/-- Applications of reordered requests agree. -/
theorem agree_of_reordered (same : request.Reordered other)
    {application others : Application}
    (created : request.create sdk hierarchy framework = .ok application)
    (createds : other.create sdk hierarchy framework = .ok others) :
    application.Agree hierarchy.mro others := by
  rcases create_eq_ok_iff_parts.mp created with ⟨app, routes, handlers, -⟩
  rcases create_eq_ok_iff_parts.mp createds with
    ⟨apps, otherRoutes, otherHandlers, -⟩
  rcases createApp_appRequest_eq_ok_iff.mp app with
    ⟨plan, planned, -, -, -, _, -, resources, bound, _, -, -, made⟩
  rcases createApp_appRequest_eq_ok_iff.mp apps with
    ⟨plans, planneds, -, -, -, _, -, otherResources, bounds, _, -, -, mades⟩
  have policies := same.routes routes otherRoutes
  constructor
  case state =>
    rw [(state_of_create createds).1, (state_of_create created).1]
    exact same.stateWith _ _
  case checks =>
    rw [(state_of_create createds).2, (state_of_create created).2]
    exact same.initialChecks.map _
  case arguments =>
    rw [same.buildPlan, planned] at planneds
    cases planneds
    rw [made, mades]
    simp only [AppRequest.lifespanArguments, appRequest, same.lifespan,
      same.config, same.runtime, same.includeAuthRouter]
  case resources =>
    rw [made, mades]
    exact same.bindings bound bounds
  case routes => exact policies.1
  case policies => exact policies.2
  case handlers =>
    intro cls
    rcases installMappers_eq_ok_iff.mp handlers with ⟨valid, installed⟩
    rcases installMappers_eq_ok_iff.mp otherHandlers with ⟨-, installeds⟩
    rw [installed, installeds]
    exact handlerFor_of_perm valid same.allMappers cls

/--
Requests which differ in the order of their parts are accepted alike, and
their applications agree.
-/
theorem create_reordered (same : request.Reordered other) :
    ((∃ application, request.create sdk hierarchy framework = .ok application) ↔
        ∃ application, other.create sdk hierarchy framework = .ok application) ∧
      ∀ application others,
        request.create sdk hierarchy framework = .ok application →
          other.create sdk hierarchy framework = .ok others →
            application.Agree hierarchy.mro others := by
  constructor
  · constructor
    · rintro ⟨application, created⟩
      exact exists_create_of_acceptable
        ((acceptable_of_create created).reordered same)
        (same.admits (admits_of_create created))
    · rintro ⟨application, created⟩
      exact exists_create_of_acceptable
        ((acceptable_of_create created).reordered same.symm)
        (same.symm.admits (admits_of_create created))
  · exact fun _ _ created createds =>
      agree_of_reordered same created createds

end ApplicationRequest

/-! ## An application of two modules -/

/-- A module with routes, a resource and a mapper. -/
def itemsDomain : ApplicationModule where
  name := "items"
  routers := [itemsRouter]
  resources :=
    [.managedResource { name := .str "store", factory := .function 2 }]
  errorMappers := [httpMapper]

/-- A module with a check, a policy and a mapper. -/
def ordersDomain : ApplicationModule where
  name := "orders"
  readinessChecks := [{ name := "queue", check := .function 1 }]
  errorMappers := [missingMapper]
  transportPolicy := some { validationStatus := some 409 }

/-- An application of modules in some order. -/
def shopRequest (modules : List ApplicationModule) : ApplicationRequest where
  config := .enabling []
  modules

theorem reordered_shopRequest :
    (shopRequest [itemsDomain, ordersDomain]).Reordered
      (shopRequest [ordersDomain, itemsDomain]) where
  config := rfl
  runtime := rfl
  lifespan := rfl
  includeAuthRouter := rfl
  authProvider := rfl
  transportPolicy := rfl
  routers := .refl _
  modules := .swap _ _ _
  resources := .refl _
  errorMappers := .refl _

theorem create_shopRequest :
    ∃ application others,
      (shopRequest [itemsDomain, ordersDomain]).create .accepting family
          .accepting =
          .ok application ∧
        (shopRequest [ordersDomain, itemsDomain]).create .accepting family
          .accepting =
          .ok others ∧
        application.Agree family.mro others := by
  have law := @ApplicationRequest.create_reordered .accepting family
    .accepting _ _ reordered_shopRequest
  have accepted : ∃ application,
      (shopRequest [itemsDomain, ordersDomain]).create .accepting family
        .accepting = .ok application :=
    ⟨_, rfl⟩
  rcases accepted with ⟨application, created⟩
  rcases law.1.mp ⟨application, created⟩ with ⟨others, createds⟩
  exact
    ⟨application, others, created, createds, law.2 _ _ created createds⟩

end FastapiCore
