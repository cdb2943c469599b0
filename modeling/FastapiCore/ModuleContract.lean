import FastapiCore.ApplicationOrder
import FastapiCore.OpenApiServedContract
import FastapiCore.RuntimeChecks

/-!
# The contract of an installed module

`assert_module_contract` reads what an application keeps in its state, and
the schema which it serves.  An application which has been created with a
module keeps the module, its resources and its error mappers, and no run of
the lifespan takes a readiness check of a module out of the registry.  So the
assertion is decided by the documented routes, and by what the module itself
declares.
-/

namespace FastapiCore

open Library
open Library.Effect
open Library.JsonTree

/-! ## The assertion -/

/-- What is asserted of `app`: parts of `app.state`, and `app.openapi()`. -/
structure InstalledApp where
  domainModules : List ApplicationModule
  openapi : JsonTree
  resourceRegistry : ResourceRegistry
  readinessRegistry : ReadinessRegistry
  errorMapperTypes : List ExcClass

/-- The arguments of `assert_module_contract` about the module. -/
structure ModuleExpectations where
  transportPolicy : Option TransportPolicy := none
  resourceNames : List Name := []
  readinessNames : List Name := []
  errorMapperTypes : List ExcClass := []
  securityDependencyCount : Option Int := none
  commonErrorStatuses : List Int := []

/-- The operator `==` on transport policies, a frozen dataclass. -/
def TransportPolicy.isEqual (left right : TransportPolicy) : Bool :=
  left.dependencies = right.dependencies &&
    left.validationStatus = right.validationStatus &&
    left.validationResponseModel = right.validationResponseModel &&
    left.commonErrorResponseModel = right.commonErrorResponseModel &&
    left.fallbackResponseModel = right.fallbackResponseModel &&
    left.commonErrorStatuses = right.commonErrorStatuses &&
    left.includeSynthetic422 = right.includeSynthetic422 &&
    left.responses.isEqual definitionsEqual right.responses &&
    left.errorRenderer = right.errorRenderer

/-- `router.routes`. -/
def RouterArgument.getRoutes : RouterArgument → Except PyExc (List Route)
  | .apiRouter router => .ok router.routes
  | .other _ => .error (.attributeError "object has no attribute 'routes'")

/-- The loop over the API routes of the routers, and over their methods. -/
def forEachMethod (check : ApiRoute → String → Except PyExc Unit)
    (routers : List RouterArgument) : Except PyExc Unit :=
  routers.forM fun router => do
    let routes ← router.getRoutes
    routes.forM fun route =>
      match route.apiRoute? with
      | none => .ok ()
      | some route => route.methods.forM (check route)

/-- The body of the loop over the routes of the module. -/
def assertRouteInstalled (openapiPaths : JsonTree) (route : ApiRoute)
    (method : String) : Except PyExc Unit := do
  let pathItem ← dictGetOrEmpty openapiPaths route.path
  let installed ← contains pathItem (lower method)
  pyAssert installed
    ("module route '" ++ method ++ " " ++ route.path ++
      "' is not installed")

/-- A loop over declared parts, which have to be among the installed ones. -/
def assertInstalled {α : Type} [DecidableEq α] (kind : String)
    (label : α → String) (installed declared : List α) :
    Except PyExc Unit :=
  declared.forM fun part =>
    pyAssert (part ∈ installed)
      ("module " ++ kind ++ " '" ++ label part ++ "' is not installed")

/-- The loop over `module.resources`. -/
def assertResourcesInstalled (app : InstalledApp)
    (module : ApplicationModule) : Except PyExc Unit :=
  assertInstalled "resource" id app.resourceRegistry.names
    (module.resources.map ResourceDeclaration.resourceName)

/-- The loop over `module.readiness_checks`. -/
def assertChecksInstalled (app : InstalledApp)
    (module : ApplicationModule) : Except PyExc Unit :=
  assertInstalled "readiness check" id app.readinessRegistry.names
    (module.readinessChecks.map ReadinessCheckSpec.name)

/-- The loop over `module.error_mappers`. -/
def assertMappersInstalled (app : InstalledApp)
    (module : ApplicationModule) : Except PyExc Unit :=
  assertInstalled "error mapper" ExcClass.name app.errorMapperTypes
    (module.errorMappers.map ErrorMapperSpec.exceptionType)

/-- `assert set(expected) <= declared`. -/
def assertDeclared {α : Type} [DecidableEq α] (expected declared : List α) :
    Except PyExc Unit :=
  pyAssert (expected.all fun part => part ∈ declared) ""

/-- `len(module.dependencies) + policy_dependencies`. -/
def ApplicationModule.securityDependencyCount (module : ApplicationModule) :
    Nat :=
  let policyDependencies :=
    match module.transportPolicy with
    | some policy => policy.dependencies.length
    | none => 0
  module.dependencies.length + policyDependencies

/-- The block for `expected_transport_policy`. -/
def assertTransportPolicy (module : ApplicationModule)
    (expected : Option TransportPolicy) : Except PyExc Unit :=
  match expected, module.transportPolicy with
  | none, _ => .ok ()
  | some _, none => pyAssert false ""
  | some expected, some policy => pyAssert (policy.isEqual expected) ""

/-- The block for `expected_security_dependency_count`. -/
def assertSecurityDependencies (module : ApplicationModule)
    (expected : Option Int) : Except PyExc Unit :=
  match expected with
  | none => .ok ()
  | some expected =>
      pyAssert ((module.securityDependencyCount : Int) = expected) ""

/-- The assertions about what the module declares. -/
def assertDeclarations (module : ApplicationModule)
    (expectations : ModuleExpectations) : Except PyExc Unit := do
  assertTransportPolicy module expectations.transportPolicy
  assertDeclared expectations.resourceNames
    (module.resources.map ResourceDeclaration.resourceName)
  assertDeclared expectations.readinessNames
    (module.readinessChecks.map ReadinessCheckSpec.name)
  assertDeclared expectations.errorMapperTypes
    (module.errorMappers.map ErrorMapperSpec.exceptionType)
  assertSecurityDependencies module expectations.securityDependencyCount

/-- The body of the loop over the routes for the common error statuses. -/
def assertCommonStatuses (openapi : JsonTree) (expectedStatuses : List Int)
    (route : ApiRoute) (method : String) : Except PyExc Unit := do
  let paths ← subscript openapi "paths"
  let pathItem ← subscript paths route.path
  let operation ← subscript pathItem (lower method)
  let responses ← subscript operation "responses"
  let codes ← iterate responses
  let responseCodes ← codes.mapM intOf
  pyAssert (expectedStatuses.all fun status => status ∈ responseCodes) ""

/-- The block for `expected_common_error_statuses`. -/
def assertErrorStatuses (openapi : JsonTree) (module : ApplicationModule)
    (expectedStatuses : List Int) : Except PyExc Unit :=
  if expectedStatuses = [] then .ok ()
  else
    forEachMethod (assertCommonStatuses openapi expectedStatuses)
      module.routers

/--
`assert_module_contract`.  `sameModule` is what `in` compares modules by:
identity, or else the `==` of the dataclass.
-/
def assertModuleContract
    (sameModule : ApplicationModule → ApplicationModule → Bool)
    (app : InstalledApp) (module : ApplicationModule)
    (expectations : ModuleExpectations) : Except PyExc Unit := do
  pyAssert (app.domainModules.any (sameModule module))
    ("module '" ++ module.name ++ "' is not installed")
  let openapiPaths ← dictGetOrEmpty app.openapi "paths"
  forEachMethod (assertRouteInstalled openapiPaths) module.routers
  assertResourcesInstalled app module
  assertChecksInstalled app module
  assertMappersInstalled app module
  assertDeclarations module expectations
  assertErrorStatuses app.openapi module expectations.commonErrorStatuses

/-! ## What each part asserts -/

/-- A property holds of every API route of the routers and its methods. -/
def EveryRoute (routers : List RouterArgument)
    (holds : String → String → Prop) : Prop :=
  ∀ route ∈ apiRoutes routers, ∀ method ∈ route.methods,
    holds route.path method

/-- What is expected of the declarations of a module. -/
structure ModuleExpectations.DeclaredBy (expectations : ModuleExpectations)
    (module : ApplicationModule) : Prop where
  transportPolicy :
    ∀ expected, expectations.transportPolicy = some expected →
      ∃ policy, module.transportPolicy = some policy ∧
        policy.isEqual expected = true
  resources :
    ∀ name ∈ expectations.resourceNames,
      ∃ declaration ∈ module.resources, declaration.resourceName = name
  readinessChecks :
    ∀ name ∈ expectations.readinessNames,
      ∃ spec ∈ module.readinessChecks, spec.name = name
  errorMappers :
    ∀ exceptionType ∈ expectations.errorMapperTypes,
      ∃ spec ∈ module.errorMappers, spec.exceptionType = exceptionType
  securityDependencies :
    ∀ expected, expectations.securityDependencyCount = some expected →
      (module.securityDependencyCount : Int) = expected

section Parts

variable {module : ApplicationModule} {expectations : ModuleExpectations}

/-- The loop over routers of FastAPI checks every route. -/
theorem forEachMethod_eq_ok_iff {routers : List RouterArgument}
    {check : ApiRoute → String → Except PyExc Unit}
    (valid : ∀ router ∈ routers, router.IsApiRouter) :
    forEachMethod check routers = .ok () ↔
      ∀ route ∈ apiRoutes routers, ∀ method ∈ route.methods,
        check route method = .ok () := by
  have ofRoute (route : Route) :
      (match route.apiRoute? with
        | none => .ok ()
        | some route => route.methods.forM (check route)) =
          (.ok () : Except PyExc Unit) ↔
        ∀ found, route.apiRoute? = some found →
          ∀ method ∈ found.methods, check found method = .ok () := by
    cases route.apiRoute? with
    | none => exact ⟨fun _ => nofun, fun _ => Eq.refl _⟩
    | some route =>
        simp only [forM_eq_ok_iff, Option.some.injEq, forall_eq']
  simp only [forEachMethod, forM_eq_ok_iff, apiRoutes, List.mem_flatMap]
  constructor
  · rintro checked route ⟨router, member, among⟩
    rcases valid router member with ⟨router, rfl⟩
    rcases List.mem_filterMap.mp among with ⟨declared, declaredIn, same⟩
    have routes := forM_eq_ok_iff.mp (checked _ member)
    exact (ofRoute declared).mp (routes declared declaredIn) route same
  · intro checked router member
    rcases valid router member with ⟨router, rfl⟩
    apply forM_eq_ok_iff.mpr
    intro declared declaredIn
    apply (ofRoute declared).mpr
    intro route same
    exact checked route
      ⟨_, member, List.mem_filterMap.mpr ⟨declared, declaredIn, same⟩⟩

theorem assertInstalled_eq_ok_iff {α : Type} [DecidableEq α]
    {kind : String} {label : α → String} {installed declared : List α} :
    assertInstalled kind label installed declared = .ok () ↔
      declared ⊆ installed := by
  simp only [assertInstalled, forM_eq_ok_iff, pyAssert_eq_ok_iff,
    decide_eq_true_eq]
  exact Iff.rfl

theorem assertDeclared_eq_ok_iff {α β : Type} [DecidableEq β]
    {expected : List β} {declared : List α} {label : α → β} :
    assertDeclared expected (declared.map label) = .ok () ↔
      ∀ part ∈ expected, ∃ element ∈ declared, label element = part := by
  simp only [assertDeclared, pyAssert_eq_ok_iff, List.all_eq_true,
    decide_eq_true_eq, List.mem_map]

theorem assertTransportPolicy_eq_ok_iff {expected : Option TransportPolicy} :
    assertTransportPolicy module expected = .ok () ↔
      ∀ other, expected = some other →
        ∃ policy, module.transportPolicy = some policy ∧
          policy.isEqual other = true := by
  simp only [assertTransportPolicy]
  cases expected with
  | none => exact ⟨fun _ _ => nofun, fun _ => Eq.refl _⟩
  | some expected =>
      simp only [Option.some.injEq, forall_eq']
      cases module.transportPolicy with
      | none =>
          simp only [pyAssert_eq_ok_iff, Bool.false_eq_true, reduceCtorEq,
            false_and, exists_false]
      | some policy =>
          simp only [pyAssert_eq_ok_iff, Option.some.injEq,
            exists_eq_left']

theorem assertSecurityDependencies_eq_ok_iff {expected : Option Int} :
    assertSecurityDependencies module expected = .ok () ↔
      ∀ count, expected = some count →
        (module.securityDependencyCount : Int) = count := by
  cases expected with
  | none => exact ⟨fun _ _ => nofun, fun _ => Eq.refl _⟩
  | some expected =>
      simp only [assertSecurityDependencies, pyAssert_eq_ok_iff,
        decide_eq_true_eq, Option.some.injEq, forall_eq']

theorem assertDeclarations_eq_ok_iff :
    assertDeclarations module expectations = .ok () ↔
      expectations.DeclaredBy module := by
  simp only [assertDeclarations, check_bind_eq_ok_iff,
    assertTransportPolicy_eq_ok_iff, assertDeclared_eq_ok_iff,
    assertSecurityDependencies_eq_ok_iff]
  constructor
  · rintro ⟨policy, resources, checks, mappers, security⟩
    exact ⟨policy, resources, checks, mappers, security⟩
  · rintro ⟨policy, resources, checks, mappers, security⟩
    exact ⟨policy, resources, checks, mappers, security⟩

end Parts

/-! ## The routes in a schema -/

/-- The codes of an operation can be read, and contain the statuses. -/
def DocumentsStatuses (codes : Option (List String)) (statuses : List Int) :
    Prop :=
  ∃ documented, codes = some documented ∧
    (∀ code ∈ documented, IsStatusCode code) ∧
      ∀ status ∈ statuses, toString status ∈ documented

section Routes

variable {schema : OpenApiSchema} {module : ApplicationModule}
  {statuses : List Int}

theorem assertRouteInstalled_eq_ok_iff {route : ApiRoute} {method : String}
    (pathItems :
      ∀ path value, (path, value) ∈ schema.pathMembers →
        ∃ pathItem, value = .object pathItem) :
    assertRouteInstalled (.object schema.pathMembers) route method =
        .ok () ↔
      schema.HasMethod route.path method := by
  have holds : HoldsObject schema.pathMembers route.path :=
    fun value found => pathItems _ value (mem_of_lookup found)
  simp only [assertRouteInstalled, dictGetOrEmpty_bind holds]
  refine pyAssert_eq_ok_iff.trans ?_
  have installed :
      decide (lower method ∈
          memberNames (objectMember schema.pathMembers route.path)) =
        true ↔
      lower method ∈
        memberNames (objectMember schema.pathMembers route.path) :=
    decide_eq_true_iff
  refine installed.trans ?_
  simp only [objectMember, OpenApiSchema.HasMethod]
  cases found : schema.pathMembers.lookup route.path with
  | none =>
      simp only [memberNames, List.map_nil, List.not_mem_nil, reduceCtorEq,
        false_and, exists_false]
  | some value =>
      rcases holds value found with ⟨pathItem, rfl⟩
      simp only [Option.some.injEq, JsonTree.object.injEq, exists_eq_left']

/-- Statuses are expected, so the operation has responses. -/
theorem assertCommonStatuses_eq_ok_iff {route : ApiRoute} {method : String}
    (expected : statuses ≠ []) :
    assertCommonStatuses schema.root statuses route method = .ok () ↔
      DocumentsStatuses (codesAt schema.root route.path (lower method))
        statuses := by
  constructor
  · intro returned
    rcases bind_eq_ok_iff.mp returned with ⟨_, atPaths, returned⟩
    rcases bind_eq_ok_iff.mp returned with ⟨_, atPath, returned⟩
    rcases bind_eq_ok_iff.mp returned with ⟨_, atMethod, returned⟩
    rcases bind_eq_ok_iff.mp returned with ⟨responses, found, returned⟩
    rcases subscript_eq_ok_iff.mp found with ⟨operation, rfl, present⟩
    rcases subscript_eq_ok_iff.mp atMethod with ⟨pathItem, rfl, inItem⟩
    rcases subscript_eq_ok_iff.mp atPath with ⟨paths, rfl, inPaths⟩
    rcases subscript_eq_ok_iff.mp atPaths with ⟨_, ⟨⟩, inMembers⟩
    have members : schema.pathMembers = paths := by
      simp only [OpenApiSchema.pathMembers, objectMember, inMembers]
    have operationAt : schema.OperationAt route.path method operation :=
      ⟨pathItem, members ▸ inPaths, inItem⟩
    rcases operationAt.shape.1 responses present with ⟨inner, rfl⟩
    have keys : responseKeys operation = memberNames inner := by
      simp only [responseKeys, objectMember, present]
    have forms := operationAt.shape.2
    rw [keys] at forms
    rcases (assertStatuses_eq_ok_iff forms).mp returned with
      ⟨codes, documented⟩
    exact
      ⟨_, OpenApiSchema.codesAt_eq_some_iff.mpr
        ⟨operation, operationAt, keys⟩, codes, documented⟩
  · rintro ⟨keys, read, codes, documented⟩
    rcases OpenApiSchema.codesAt_eq_some_iff.mp read with
      ⟨operation, operationAt, rfl⟩
    have shape := operationAt.shape
    rcases List.exists_mem_of_ne_nil _ expected with ⟨status, member⟩
    have some_ := documented status member
    rcases operationAt with ⟨pathItem, atPath, atMethod⟩
    have atPaths : ∃ paths,
        schema.members.lookup "paths" = some (.object paths) ∧
          schema.pathMembers = paths := by
      simp only [OpenApiSchema.pathMembers, objectMember] at atPath ⊢
      split at atPath
      · next paths found =>
          simp only [found]
          exact ⟨paths, Eq.refl _, Eq.refl _⟩
      · cases atPath
    rcases atPaths with ⟨paths, atPaths, same⟩
    have found : ∃ responses,
        operation.lookup "responses" = some (.object responses) ∧
          responseKeys operation = memberNames responses := by
      simp only [responseKeys, objectMember] at some_ ⊢
      split at some_
      · next responses found =>
          simp only [found]
          exact ⟨responses, Eq.refl _, Eq.refl _⟩
      · cases some_
    rcases found with ⟨responses, found, keys⟩
    rw [keys] at codes documented
    have forms := shape.2
    rw [keys] at forms
    apply bind_eq_ok_iff.mpr
    refine ⟨_, subscript_eq_ok_iff.mpr ⟨_, Eq.refl _, atPaths⟩, ?_⟩
    apply bind_eq_ok_iff.mpr
    refine ⟨_, subscript_eq_ok_iff.mpr
      ⟨_, Eq.refl _, same ▸ atPath⟩, ?_⟩
    apply bind_eq_ok_iff.mpr
    refine ⟨_, subscript_eq_ok_iff.mpr ⟨_, Eq.refl _, atMethod⟩, ?_⟩
    apply bind_eq_ok_iff.mpr
    refine ⟨_, subscript_eq_ok_iff.mpr ⟨_, Eq.refl _, found⟩, ?_⟩
    exact (assertStatuses_eq_ok_iff forms).mpr ⟨codes, documented⟩

theorem assertErrorStatuses_eq_ok_iff
    (valid : ∀ router ∈ module.routers, router.IsApiRouter) :
    assertErrorStatuses schema.root module statuses = .ok () ↔
      (statuses ≠ [] →
        EveryRoute module.routers fun path method =>
          DocumentsStatuses (codesAt schema.root path (lower method))
            statuses) := by
  simp only [assertErrorStatuses]
  split
  · next none_ => exact ⟨fun _ some_ => (some_ none_).elim, fun _ => Eq.refl _⟩
  · next some_ =>
      simp only [forEachMethod_eq_ok_iff valid,
        assertCommonStatuses_eq_ok_iff some_, EveryRoute]
      exact ⟨fun all _ => all, fun all => all some_⟩

/-- The assertion, for any application which serves a schema. -/
theorem assertModuleContract_eq_ok_iff
    {sameModule : ApplicationModule → ApplicationModule → Bool}
    {app : InstalledApp} {expectations : ModuleExpectations}
    (serves : app.openapi = schema.root)
    (pathItems :
      ∀ path value, (path, value) ∈ schema.pathMembers →
        ∃ pathItem, value = .object pathItem)
    (valid : ∀ router ∈ module.routers, router.IsApiRouter) :
    assertModuleContract sameModule app module expectations = .ok () ↔
      app.domainModules.any (sameModule module) = true ∧
        EveryRoute module.routers schema.HasMethod ∧
        module.resources.map ResourceDeclaration.resourceName ⊆
            app.resourceRegistry.names ∧
        module.readinessChecks.map ReadinessCheckSpec.name ⊆
            app.readinessRegistry.names ∧
        module.errorMappers.map ErrorMapperSpec.exceptionType ⊆
            app.errorMapperTypes ∧
        expectations.DeclaredBy module ∧
        (expectations.commonErrorStatuses ≠ [] →
          EveryRoute module.routers fun path method =>
            DocumentsStatuses (codesAt schema.root path (lower method))
              expectations.commonErrorStatuses) := by
  have paths :
      dictGetOrEmpty schema.root "paths" =
        .ok (.object schema.pathMembers) :=
    dictGetOrEmpty_object schema.paths
  rw [assertModuleContract, check_bind_eq_ok_iff, pyAssert_eq_ok_iff,
    bind_eq_ok_iff, serves, paths]
  apply and_congr_right
  intro _
  simp only [Except.ok.injEq, exists_eq_left', check_bind_eq_ok_iff,
    forEachMethod_eq_ok_iff valid, assertRouteInstalled_eq_ok_iff pathItems,
    assertResourcesInstalled, assertChecksInstalled,
    assertMappersInstalled, assertInstalled_eq_ok_iff,
    assertDeclarations_eq_ok_iff, assertErrorStatuses_eq_ok_iff valid,
    EveryRoute]

end Routes

/-! ## The checks of the modules over the runs -/

/-- A connection appends to what stands outside the resource names. -/
theorem ResourceRegistry.otherEntries_prefix_configureServiceRuntime
    (registry : ResourceRegistry) (runtime : ServiceRuntime)
    (state : AppState) :
    registry.otherEntries state <+:
      registry.otherEntries
        ((configureServiceRuntime runtime).run state).2 := by
  cases refused : runtime.refusal state.readinessRegistry with
  | some exception =>
      have unchanged :
          ((configureServiceRuntime runtime).run state).2 = state := by
        rw [run_configureServiceRuntime_of_refused refused]
      exact unchanged.symm ▸ List.prefix_rfl
  | none =>
      rcases run_configureServiceRuntime_of_accepted refused with
        ⟨connected, entries, run⟩
      simp only [run, otherEntries, AppState.readinessRegistry_connect,
        entries, List.filter_append]
      exact List.prefix_append _ _

namespace LifespanArguments

variable {arguments : LifespanArguments}

/-- A run takes nothing away which stands outside the resource names. -/
theorem otherEntries_prefix_managedLifespan
    (environment : LifespanEnvironment) (state : AppState) :
    arguments.resources.otherEntries state <+:
      arguments.resources.otherEntries
        ((arguments.managedLifespan environment).run state).2 := by
  have leaves := arguments.resources.leaves_otherEntries
  rw [view_managedLifespan leaves]
  cases injected : arguments.runtime with
  | none =>
      rw [← injected, view_startup_of_assembled leaves environment injected]
      cases arguments.connecting environment with
      | none => exact List.prefix_rfl
      | some runtime =>
          exact
            arguments.resources.otherEntries_prefix_configureServiceRuntime
              runtime (connectingState state runtime)
  | some runtime =>
      have kept :
          arguments.resources.otherEntries
              ((arguments.startRuntime environment).run
                { state with appRuntime := some runtime }).2 =
            arguments.resources.otherEntries state := by
        rw [startRuntime, run_read_bind]
        dsimp only
        split
        · exact
            leaves.preserves_recorded
              (preserves_checkRuntimeOnStartup (fun _ _ => Eq.refl _) _ _)
              { state with appRuntime := some runtime }
        · exact Eq.refl _
      exact ((view_startup leaves _).trans kept).symm ▸ List.prefix_rfl

end LifespanArguments

/-- A check of a created application outlives all runs of the lifespan. -/
theorem App.otherEntries_prefix_runs (app : App)
    (environments : List LifespanEnvironment) (state : AppState) :
    app.arguments.resources.otherEntries state <+:
      app.arguments.resources.otherEntries
        (environments.foldl app.afterRun state) := by
  induction environments generalizing state with
  | nil => exact List.prefix_rfl
  | cons environment rest induction =>
      have first :=
        @LifespanArguments.otherEntries_prefix_managedLifespan app.arguments
          environment state
      exact first.trans (induction (app.afterRun state environment))

/-! ## The modules of a created application -/

/-- What is asserted of an application after runs of its lifespan. -/
def ApplicationRequest.installedApp (request : ApplicationRequest)
    (application : Application) (environments : List LifespanEnvironment)
    (openapi : JsonTree) : InstalledApp where
  domainModules := request.modules
  openapi
  resourceRegistry := application.app.arguments.resources
  readinessRegistry :=
    (environments.foldl application.app.afterRun
      application.app.state).readinessRegistry
  errorMapperTypes := application.handlers.errorMapperTypes

section Created

variable {sdk : ServiceSdk} {hierarchy : ClassHierarchy ExcClass}
  {framework : Framework}
  {request : ApplicationRequest} {application : Application}
  {module : ApplicationModule}

theorem resources_installed
    (created : request.create sdk hierarchy framework = .ok application)
    (member : module ∈ request.modules) :
    module.resources.map ResourceDeclaration.resourceName ⊆
      application.app.arguments.resources.names := by
  rcases ApplicationRequest.create_eq_ok_iff_parts.mp created with
    ⟨app, -, -⟩
  rcases ApplicationRequest.createApp_appRequest_eq_ok_iff.mp app with
    ⟨_, -, -, -, -, _, -, resources, bound, _, -, -, made⟩
  rw [made, AppRequest.lifespanArguments,
    ResourceRegistry.names_of_new bound]
  apply List.map_subset
  intro declaration declared
  exact List.mem_append_right _
    (List.mem_flatMap.mpr ⟨module, member, declared⟩)

/-- No resource of the application has the name of a module's check. -/
theorem check_not_mem_resources
    (created : request.create sdk hierarchy framework = .ok application)
    {spec : ReadinessCheckSpec} (member : spec ∈ request.moduleChecks) :
    spec.name ∉ application.app.arguments.resources.names := by
  have names := (ApplicationRequest.acceptable_of_create created).names
  rcases ApplicationRequest.create_eq_ok_iff_parts.mp created with
    ⟨app, -, -⟩
  rcases ApplicationRequest.createApp_appRequest_eq_ok_iff.mp app with
    ⟨_, -, -, -, -, _, -, resources, bound, _, -, -, made⟩
  rw [made, AppRequest.lifespanArguments,
    ResourceRegistry.names_of_new bound]
  have apart :=
    (List.nodup_append.mp (List.nodup_append.mp names).1).2.2
  intro taken
  exact apart spec.name taken spec.name (List.mem_map_of_mem member)
    (Eq.refl _)

theorem checks_installed
    (created : request.create sdk hierarchy framework = .ok application)
    (member : module ∈ request.modules)
    (environments : List LifespanEnvironment) :
    module.readinessChecks.map ReadinessCheckSpec.name ⊆
      (environments.foldl application.app.afterRun
        application.app.state).readinessRegistry.names := by
  intro name declared
  rcases List.mem_map.mp declared with ⟨spec, among, rfl⟩
  have moduleCheck : spec ∈ request.moduleChecks :=
    List.mem_flatMap.mpr ⟨module, member, among⟩
  have other := check_not_mem_resources created moduleCheck
  have initial :
      (spec.name, spec) ∈
        application.app.arguments.resources.otherEntries
          application.app.state := by
    rw [ResourceRegistry.mem_otherEntries,
      (ApplicationRequest.state_of_create created).2]
    refine ⟨List.mem_map_of_mem ?_, other⟩
    exact List.mem_append_left _ moduleCheck
  have kept :=
    (application.app.otherEntries_prefix_runs environments
      application.app.state).subset initial
  exact OrderedDict.mem_keys_of_mem_entries
    (ResourceRegistry.mem_otherEntries.mp kept).1

theorem mappers_installed
    (created : request.create sdk hierarchy framework = .ok application)
    (member : module ∈ request.modules) :
    module.errorMappers.map ErrorMapperSpec.exceptionType ⊆
      application.handlers.errorMapperTypes := by
  rcases ApplicationRequest.create_eq_ok_iff_parts.mp created with
    ⟨-, -, mappers, -⟩
  rw [(installMappers_eq_ok_iff.mp mappers).2, registered]
  apply List.map_subset
  intro spec declared
  exact List.mem_append_right _
    (List.mem_flatMap.mpr ⟨module, member, declared⟩)

theorem routers_valid
    (created : request.create sdk hierarchy framework = .ok application)
    (member : module ∈ request.modules) :
    ∀ router ∈ module.routers, router.IsApiRouter := by
  intro router among
  apply (ApplicationRequest.acceptable_of_create created).routers
  apply List.mem_append_right
  exact List.mem_flatMap.mpr
    ⟨module.toModuleRoutes, List.mem_map_of_mem member, among⟩

/--
Asserting the contract of a module of a created application, after any runs
of its lifespan and on what any call of `openapi` serves, is decided by the
documentation of its routes and by its declarations.
-/
theorem assertModuleContract_of_created (tokenUrl : String)
    (created : request.create sdk hierarchy framework = .ok application)
    (member : module ∈ request.modules)
    {sameModule : ApplicationModule → ApplicationModule → Bool}
    (reflexive : ∀ module, sameModule module module = true)
    (generated : OpenApiSchema)
    (pathItems :
      ∀ path value, (path, value) ∈ generated.pathMembers →
        ∃ pathItem, value = .object pathItem)
    (shape :
      Documentable application.routes.transportPolicies generated.root)
    (environments : List LifespanEnvironment)
    (expectations : ModuleExpectations) (call : Nat) :
    ∃ served,
      (openapiCalls tokenUrl application.routes.transportPolicies call).run
            generated.root =
          (.ok served, served) ∧
        (assertModuleContract sameModule
              (request.installedApp application environments served) module
              expectations =
            .ok () ↔
          EveryRoute module.routers generated.HasMethod ∧
            expectations.DeclaredBy module ∧
              (expectations.commonErrorStatuses ≠ [] →
                EveryRoute module.routers fun path method =>
                  DocumentsStatuses
                    (application.routes.servedCodes generated.root path
                      method)
                    expectations.commonErrorStatuses)) := by
  rcases ApplicationRequest.create_eq_ok_iff_parts.mp created with
    ⟨-, routes, -⟩
  have distinct := nodup_entryKeys routes
  rcases exists_servedSchema tokenUrl routes generated with
    ⟨served, root, same⟩
  refine ⟨_, run_openapiCalls tokenUrl distinct shape call, ?_⟩
  have servedItems :
      ∀ path value, (path, value) ∈ served.pathMembers →
        ∃ pathItem, value = .object pathItem := by
    apply OpenApiSchema.pathItems_iff.mpr
    intro path
    rw [same.outlines _ (.inr ⟨path, Eq.refl _⟩)]
    exact OpenApiSchema.pathItems_iff.mp pathItems path
  have methods (path method : String) :
      served.HasMethod path method ↔ generated.HasMethod path method := by
    simp only [OpenApiSchema.hasMethod_iff, namesAt,
      same.outlines _ (.inr ⟨path, Eq.refl _⟩)]
  have codes (path method : String) :
      codesAt served.root path (lower method) =
        application.routes.servedCodes generated.root path method := by
    rw [root]
    exact codesAt_openapiSteps tokenUrl routes shape path method
  have valid := routers_valid created member
  have installed : request.modules.any (sameModule module) = true :=
    List.any_eq_true.mpr ⟨module, member, reflexive module⟩
  rw [← root,
    assertModuleContract_eq_ok_iff (Eq.refl _) servedItems valid]
  simp only [ApplicationRequest.installedApp, installed, true_and,
    resources_installed created member,
    checks_installed created member environments,
    mappers_installed created member, EveryRoute, methods, codes]

end Created

/-! ## A module of widgets -/

/-- A module with a route, a resource, a check, a mapper and a policy. -/
def widgetsDomain : ApplicationModule where
  name := "widgets"
  routers := [.apiRouter { routes := [.apiRoute widgetRoute] }]
  dependencies := [{ ref := 1 }]
  resources :=
    [.managedResource { name := .str "store", factory := .function 2 }]
  readinessChecks := [{ name := "queue", check := .function 1 }]
  errorMappers := [missingMapper]
  transportPolicy := some badRequestPolicy

/-- What the module declares. -/
def widgetsExpectations : ModuleExpectations where
  transportPolicy := some badRequestPolicy
  resourceNames := ["store"]
  readinessNames := ["queue"]
  errorMapperTypes := [missingMapper.exceptionType]
  securityDependencyCount := some 1
  commonErrorStatuses := [400]

/-- Modules of one name, as those of an application are the same. -/
def sameName (module other : ApplicationModule) : Bool :=
  module.name = other.name

theorem sameName_self (module : ApplicationModule) :
    sameName module module = true :=
  decide_eq_true (Eq.refl module.name)

theorem declaredBy_widgetsDomain :
    widgetsExpectations.DeclaredBy widgetsDomain where
  transportPolicy := by
    rintro _ ⟨⟩
    exact ⟨_, Eq.refl _, by decide⟩
  resources name member := by
    cases List.mem_singleton.mp member
    exact ⟨_, .head _, Eq.refl _⟩
  readinessChecks name member := by
    cases List.mem_singleton.mp member
    exact ⟨_, .head _, Eq.refl _⟩
  errorMappers exceptionType member := by
    cases List.mem_singleton.mp member
    exact ⟨_, .head _, Eq.refl _⟩
  securityDependencies := by
    rintro _ ⟨⟩
    exact Eq.refl _

theorem assertModuleContract_widgetsDomain :
    ∃ application served,
      (shopRequest [widgetsDomain]).create .accepting family .accepting =
          .ok application ∧
        (openapiCalls "/token" application.routes.transportPolicies 1).run
            widgetOpenApiSchema.root =
          (.ok served, served) ∧
        assertModuleContract sameName
            ((shopRequest [widgetsDomain]).installedApp application
              [.quiet .empty] served)
            widgetsDomain widgetsExpectations =
          .ok () := by
  have accepted : ∃ application,
      (shopRequest [widgetsDomain]).create .accepting family .accepting =
        .ok application :=
    ⟨_, rfl⟩
  rcases accepted with ⟨application, created⟩
  have routes :
      application.routes =
        (shopRequest [widgetsDomain]).routesRequest.included :=
    (RoutesRequest.createRoutes_eq_ok_iff.mp
      (ApplicationRequest.create_eq_ok_iff_parts.mp created).2.1).2.2
  have entries :
      application.routes.transportPolicies.entries =
        [(("GET", "/widgets"),
          TransportPolicy.resolve (some (TransportPolicy.resolve none none))
            (some badRequestPolicy))] := by
    rw [routes]
    rfl
  have pathItems :
      ∀ path value, (path, value) ∈ widgetOpenApiSchema.pathMembers →
        ∃ pathItem, value = .object pathItem := by
    intro path value member
    cases List.mem_singleton.mp member
    exact ⟨_, Eq.refl _⟩
  rcases assertModuleContract_of_created "/token" created (.head _)
    sameName_self widgetOpenApiSchema pathItems
    (documentable_widget entries) [.quiet .empty] widgetsExpectations
    1 with
    ⟨served, run, decides⟩
  refine ⟨application, served, created, run, decides.mpr ⟨?_, ?_, ?_⟩⟩
  · intro route member method among
    cases List.mem_singleton.mp member
    cases List.mem_singleton.mp among
    exact ⟨_, Eq.refl _, by decide⟩
  · exact declaredBy_widgetsDomain
  · intro _ route member method among
    cases List.mem_singleton.mp member
    cases List.mem_singleton.mp among
    refine ⟨["200", "400"], ?_, ?_, by decide⟩
    · rw [routes]
      rfl
    · intro code documented
      simp only [List.mem_cons, List.not_mem_nil, or_false] at documented
      rcases documented with rfl | rfl
      · exact ⟨200, Eq.refl _⟩
      · exact ⟨400, Eq.refl _⟩

end FastapiCore
