import FastapiCore.Routing
import Mathlib.Data.List.Nodup
import Mathlib.Data.List.Pairwise

/-!
# Transport policies stay with their routes

`create_app` includes the built-in, the direct and the module routers in
separate loops, which fill one table of policies.  Together the loops carry
out one list of inclusions.  The validation has made sure that no two of them
share a contract, so the table keeps the policy of every inclusion.
-/

namespace FastapiCore

open Library

/-! ## Inclusions -/

/-- A router with what it is included with. -/
structure Inclusion where
  router : RouterArgument
  dependencies : List PyObject := []
  responses : OrderedDict Nat ResponseDefinition := .empty
  policy : Option TransportPolicy := none

namespace Inclusion

variable (inclusion : Inclusion)

/-- The routes which the application gets from an inclusion. -/
def routes : List IncludedRoute :=
  inclusion.router.routes.map
    (includeRoute inclusion.dependencies inclusion.responses)

/-- The contracts of the router, each with the policy of the inclusion. -/
def policies : List ((String × String) × Option TransportPolicy) :=
  (inclusion.router.apiRoutes.flatMap ApiRoute.contracts).map
    fun contract => (contract, inclusion.policy)

/-- The entries which the table of policies gets from an inclusion. -/
def entries : List ((String × String) × TransportPolicy) :=
  inclusion.policies.filterMap fun pair =>
    pair.2.map fun policy => ((pair.1.2, pair.1.1), policy)

/-- The methods of a route are in upper case already. -/
theorem policyEntries_eq (policy : TransportPolicy) :
    AppRoutes.policyEntries inclusion.router policy =
      ((inclusion.router.apiRoutes.flatMap ApiRoute.contracts).map
        fun contract => ((contract.2, contract.1), policy)) := by
  rw [AppRoutes.policyEntries, List.map_flatMap]
  apply List.flatMap_congr
  intro route _
  rw [ApiRoute.contracts, List.map_map]
  apply List.map_congr_left
  intro method member
  rw [route.upper method member]
  rfl

theorem entries_eq :
    inclusion.entries =
      (inclusion.policy.map
        (AppRoutes.policyEntries inclusion.router)).getD [] := by
  simp only [entries, policies, List.filterMap_map]
  cases inclusion.policy with
  | none => exact List.filterMap_none _
  | some policy =>
      simp only [Option.map_some, Option.getD_some, policyEntries_eq]
      exact congrFun List.filterMap_eq_map' _

end Inclusion

namespace AppRoutes

variable (app : AppRoutes)

/-- Include a router and record its policy. -/
def perform (inclusion : Inclusion) : AppRoutes :=
  (app.includeRouter inclusion.router inclusion.dependencies
    inclusion.responses).recordTransportPolicy inclusion.router
      inclusion.policy

theorem transportPolicy_perform (inclusion : Inclusion) :
    (app.perform inclusion).transportPolicy = app.transportPolicy := by
  rcases inclusion with ⟨router, dependencies, responses, _ | policy⟩ <;>
    rfl

theorem routes_perform (inclusion : Inclusion) :
    (app.perform inclusion).routes = app.routes ++ inclusion.routes := by
  rcases inclusion with ⟨router, dependencies, responses, _ | policy⟩ <;>
    rfl

theorem transportPolicies_perform (inclusion : Inclusion) :
    (app.perform inclusion).transportPolicies =
      inclusion.entries.foldl
        (fun table entry => table.insert entry.1 entry.2)
        app.transportPolicies := by
  rw [Inclusion.entries_eq]
  rcases inclusion with ⟨router, dependencies, responses, _ | policy⟩ <;>
    rfl

section Loops

variable {inclusions : List Inclusion}

theorem transportPolicy_foldl_perform :
    (inclusions.foldl perform app).transportPolicy =
      app.transportPolicy := by
  induction inclusions generalizing app with
  | nil => rfl
  | cons inclusion rest induction =>
      rw [List.foldl_cons, induction, transportPolicy_perform]

theorem routes_foldl_perform :
    (inclusions.foldl perform app).routes =
      app.routes ++ inclusions.flatMap Inclusion.routes := by
  induction inclusions generalizing app with
  | nil => simp
  | cons inclusion rest induction =>
      rw [List.foldl_cons, induction, routes_perform, List.flatMap_cons,
        List.append_assoc]

theorem transportPolicies_foldl_perform :
    (inclusions.foldl perform app).transportPolicies =
      (inclusions.flatMap Inclusion.entries).foldl
        (fun table entry => table.insert entry.1 entry.2)
        app.transportPolicies := by
  induction inclusions generalizing app with
  | nil => rfl
  | cons inclusion rest induction =>
      rw [List.foldl_cons, induction, transportPolicies_perform,
        List.flatMap_cons, List.foldl_append]

end Loops

end AppRoutes

/-! ## The inclusions of an application -/

/-- The dependencies of a policy, if there is one. -/
def policyDependencies (policy : Option TransportPolicy) : List PyObject :=
  (policy.map fun policy => policy.dependencies).getD []

/-- The responses of a policy, if there is one. -/
def policyResponses (policy : Option TransportPolicy) :
    OrderedDict Nat ResponseDefinition :=
  (policy.map TransportPolicy.responseDefinitions).getD .empty

namespace RoutesRequest

variable (request : RoutesRequest)

/-- `base_transport_policy`. -/
def basePolicy : TransportPolicy :=
  TransportPolicy.resolve none request.transportPolicy

/-- The policy of a module, if it or the application declares one. -/
def modulePolicy (module : ModuleRoutes) : Option TransportPolicy :=
  if request.transportPolicy.isSome || module.transportPolicy.isSome then
    some
      (TransportPolicy.resolve (some request.basePolicy)
        module.transportPolicy)
  else none

/-- The module's dependencies, then those of both policies. -/
def moduleDependencies (module : ModuleRoutes) : List PyObject :=
  module.dependencies ++ policyDependencies request.transportPolicy ++
    policyDependencies module.transportPolicy

/-- A built-in router is included as it is. -/
def builtinInclusion (router : RouterArgument) : Inclusion where
  router

/-- A direct router has the policy of the application. -/
def directInclusion (router : RouterArgument) : Inclusion where
  router
  dependencies := policyDependencies request.transportPolicy
  responses := policyResponses request.transportPolicy
  policy := request.transportPolicy

/-- A router of a module has the policy of the module. -/
def moduleInclusion (module : ModuleRoutes) (router : RouterArgument) :
    Inclusion where
  router
  dependencies := request.moduleDependencies module
  responses := policyResponses (request.modulePolicy module)
  policy := request.modulePolicy module

/-- What `create_app` includes, in order. -/
def inclusions : List Inclusion :=
  request.builtinRouters.map builtinInclusion ++
    request.routers.map request.directInclusion ++
      request.modules.flatMap fun module =>
        module.routers.map (request.moduleInclusion module)

theorem map_router_inclusions :
    request.inclusions.map Inclusion.router = request.allRouters := by
  simp only [inclusions, allRouters, List.map_append, List.map_map,
    List.map_flatMap]
  simp only [Function.comp_def, builtinInclusion, directInclusion,
    moduleInclusion, List.map_id']

variable {request} {app : AppRoutes}

theorem includeDirect_eq_perform (router : RouterArgument)
    (base : app.transportPolicy = request.basePolicy) :
    app.includeDirect request.transportPolicy router =
      app.perform (request.directInclusion router) := by
  simp only [AppRoutes.includeDirect, AppRoutes.perform, directInclusion,
    base, basePolicy]
  cases request.transportPolicy with
  | none => rfl
  | some policy =>
      simp only [TransportPolicy.resolve_none_some]
      rfl

theorem dependencies_modulePolicy (module : ModuleRoutes) :
    (TransportPolicy.resolve (some request.basePolicy)
        module.transportPolicy).dependencies =
      policyDependencies request.transportPolicy ++
        policyDependencies module.transportPolicy := by
  cases declared : request.transportPolicy <;>
    cases module.transportPolicy <;>
    simp [TransportPolicy.resolve, basePolicy, declared,
      policyDependencies, TransportPolicy.default]

theorem includeModuleRouter_eq_perform (module : ModuleRoutes)
    (router : RouterArgument)
    (base : app.transportPolicy = request.basePolicy) :
    app.includeModuleRouter request.transportPolicy module router =
      app.perform (request.moduleInclusion module router) := by
  simp only [AppRoutes.includeModuleRouter, AppRoutes.perform,
    moduleInclusion, moduleDependencies, modulePolicy, base,
    dependencies_modulePolicy, List.append_assoc]
  cases request.transportPolicy <;> cases module.transportPolicy <;>
    simp [policyResponses, policyDependencies,
      AppRoutes.recordTransportPolicy]

/-- A loop which performs inclusions keeps the policy of the application. -/
theorem foldl_eq_foldl_perform {α : Type}
    {step : AppRoutes → α → AppRoutes} {inclusion : α → Inclusion}
    (performs :
      ∀ (app : AppRoutes) (element : α),
        app.transportPolicy = request.basePolicy →
        step app element = app.perform (inclusion element))
    (elements : List α) (base : app.transportPolicy = request.basePolicy) :
    elements.foldl step app =
      (elements.map inclusion).foldl AppRoutes.perform app := by
  induction elements generalizing app with
  | nil => rfl
  | cons element rest induction =>
      simp only [List.map_cons, List.foldl_cons, performs app element base]
      apply induction
      exact (app.transportPolicy_perform _).trans base

theorem foldl_includeModule (modules : List ModuleRoutes)
    (base : app.transportPolicy = request.basePolicy) :
    modules.foldl
        (fun app module =>
          app.includeModule request.transportPolicy module) app =
      (modules.flatMap fun module =>
        module.routers.map (request.moduleInclusion module)).foldl
        AppRoutes.perform app := by
  induction modules generalizing app with
  | nil => rfl
  | cons module rest induction =>
      have first :
          app.includeModule request.transportPolicy module =
            (module.routers.map (request.moduleInclusion module)).foldl
              AppRoutes.perform app :=
        foldl_eq_foldl_perform
          (fun _ router => includeModuleRouter_eq_perform module router)
          module.routers base
      simp only [List.foldl_cons, List.flatMap_cons, List.foldl_append,
        first]
      apply induction
      exact (app.transportPolicy_foldl_perform).trans base

/-- An application is created by performing the inclusions of its request. -/
theorem performed_of_createRoutes
    (created : request.createRoutes = .ok app) :
    validateRoutes request.allRouters = .ok () ∧
      app =
        request.inclusions.foldl AppRoutes.perform
          { transportPolicy := request.basePolicy } := by
  rw [createRoutes, bind_eq_ok_iff] at created
  rcases created with ⟨_, -, rest⟩
  rcases bind_eq_ok_iff.mp rest with ⟨⟨⟩, valid, ⟨⟩⟩
  refine ⟨valid, ?_⟩
  have builtin (app : AppRoutes) :
      request.builtinRouters.foldl
          (fun app router => app.includeRouter router [] .empty) app =
        (request.builtinRouters.map builtinInclusion).foldl
          AppRoutes.perform app := by
    rw [List.foldl_map]
    rfl
  have direct (app : AppRoutes)
      (base : app.transportPolicy = request.basePolicy) :=
    foldl_eq_foldl_perform
      (fun _ router => includeDirect_eq_perform router)
      request.routers base
  simp only [inclusions, List.foldl_append, builtin]
  rw [direct, foldl_includeModule]
  · rfl
  · simp only [AppRoutes.transportPolicy_foldl_perform]
    rfl
  · exact AppRoutes.transportPolicy_foldl_perform _

end RoutesRequest

/-! ## The table keeps every policy -/

namespace Inclusion

variable {inclusions : List Inclusion}

/-- The policies of all contracts, from which the table is filled. -/
theorem entries_flatMap :
    inclusions.flatMap entries =
      (inclusions.flatMap policies).filterMap fun pair =>
        pair.2.map fun policy => ((pair.1.2, pair.1.1), policy) := by
  rw [List.filterMap_flatMap]
  rfl

theorem mem_entries_iff {contract : String × String}
    {policy : TransportPolicy} :
    ((contract.2, contract.1), policy) ∈ inclusions.flatMap entries ↔
      (contract, some policy) ∈ inclusions.flatMap policies := by
  rw [entries_flatMap, List.mem_filterMap]
  constructor
  · rintro ⟨⟨other, declared⟩, member, recorded⟩
    rcases Option.map_eq_some_iff.mp recorded with ⟨_, rfl, same⟩
    rcases other with ⟨path, method⟩
    rcases contract with ⟨otherPath, otherMethod⟩
    cases same
    exact member
  · intro member
    exact ⟨_, member, rfl⟩

/-- Contracts which differ give keys which differ. -/
theorem nodup_keys_entries
    (distinct : ((inclusions.flatMap policies).map Prod.fst).Nodup) :
    ((inclusions.flatMap entries).map Prod.fst).Nodup := by
  rw [entries_flatMap]
  apply List.pairwise_map.mpr
  apply (List.pairwise_map.mp distinct).filterMap
  intro first second different entry found other otherFound same
  rcases Option.map_eq_some_iff.mp found with ⟨_, -, rfl⟩
  rcases Option.map_eq_some_iff.mp otherFound with ⟨_, -, rfl⟩
  have keys := Prod.mk.inj same
  exact different (Prod.ext keys.2 keys.1)

end Inclusion

namespace RoutesRequest

variable {request : RoutesRequest} {app : AppRoutes}

theorem map_fst_policies :
    (request.inclusions.flatMap Inclusion.policies).map Prod.fst =
      (apiRoutes request.allRouters).flatMap ApiRoute.contracts := by
  rw [← map_router_inclusions, apiRoutes, List.flatMap_map,
    List.flatMap_assoc, List.map_flatMap]
  apply List.flatMap_congr
  intro inclusion _
  simp only [Inclusion.policies, List.map_map]
  exact List.map_id _

/-- The accepted contracts have one policy each. -/
theorem nodup_contracts (created : request.createRoutes = .ok app) :
    ((request.inclusions.flatMap Inclusion.policies).map
      Prod.fst).Nodup := by
  rw [map_fst_policies]
  exact
    (validateRoutes_eq_ok_iff.mp
      (performed_of_createRoutes created).1).2.1

/-- The contracts have upper-case methods. -/
theorem upper_of_mem_policies {contract : String × String}
    {policy : Option TransportPolicy}
    (member :
      (contract, policy) ∈
        request.inclusions.flatMap Inclusion.policies) :
    upper contract.2 = contract.2 := by
  rcases List.mem_flatMap.mp member with ⟨inclusion, -, inPolicies⟩
  rcases List.mem_map.mp inPolicies with ⟨_, inContracts, ⟨⟩⟩
  rcases List.mem_flatMap.mp inContracts with ⟨route, -, inRoute⟩
  rcases List.mem_map.mp inRoute with ⟨method, inMethods, rfl⟩
  exact route.upper method inMethods

/-- No assignment overwrites an entry of the table. -/
theorem entries_transportPolicies
    (created : request.createRoutes = .ok app) :
    app.transportPolicies.entries =
      request.inclusions.flatMap Inclusion.entries := by
  rw [(performed_of_createRoutes created).2,
    AppRoutes.transportPolicies_foldl_perform]
  apply OrderedDict.entries_foldl_insert_of_nodup
  exact Inclusion.nodup_keys_entries (nodup_contracts created)

/-- The table has the policy with which a contract was included. -/
theorem get?_transportPolicies
    (created : request.createRoutes = .ok app)
    {contract : String × String} {policy : Option TransportPolicy}
    (member :
      (contract, policy) ∈
        request.inclusions.flatMap Inclusion.policies) :
    app.transportPolicies.get? (contract.2, contract.1) = policy := by
  cases policy with
  | some policy =>
      apply OrderedDict.get?_eq_some_iff.mpr
      rw [entries_transportPolicies created]
      exact Inclusion.mem_entries_iff.mpr member
  | none =>
      apply OrderedDict.get?_eq_none_iff.mpr
      intro present
      rcases OrderedDict.exists_mem_entries_of_mem_keys present with
        ⟨policy, recorded⟩
      rw [entries_transportPolicies created] at recorded
      have other := Inclusion.mem_entries_iff.mp recorded
      have same :=
        List.inj_on_of_nodup_map (nodup_contracts created) member other rfl
      cases (Prod.mk.inj same).2

end RoutesRequest

/-! ## The law -/

/-- `_route_policy` finds one policy for all API routes of a router. -/
def AppRoutes.FindsPolicy (app : AppRoutes) (router : RouterArgument)
    (policy : Option TransportPolicy) : Prop :=
  ∀ route ∈ router.apiRoutes, ∀ method ∈ route.methods,
    app.routePolicy (some route.path) method = policy

/-- The assignments of a policy to the routes of some routers. -/
def policyRegistrations (routers : List RouterArgument)
    (policy : Option TransportPolicy) :
    List ((String × String) × TransportPolicy) :=
  routers.flatMap fun router =>
    (policy.map (AppRoutes.policyEntries router)).getD []

/-- The routes of some routers, with dependencies for the API routes. -/
def attached (routers : List RouterArgument)
    (dependencies : List PyObject) : List (Route × List PyObject) :=
  routers.flatMap fun router =>
    router.routes.map fun route =>
      (route, if route.apiRoute?.isSome then dependencies else [])

/-- Policies and dependencies reach the routes which they are given for. -/
structure RoutesRequest.LocalPolicies (request : RoutesRequest)
    (app : AppRoutes) : Prop where
  builtin : ∀ router ∈ request.builtinRouters, app.FindsPolicy router none
  direct :
    ∀ router ∈ request.routers,
      app.FindsPolicy router request.transportPolicy
  modules :
    ∀ module ∈ request.modules, ∀ router ∈ module.routers,
      app.FindsPolicy router (request.modulePolicy module)
  entries :
    app.transportPolicies.entries =
      policyRegistrations request.routers request.transportPolicy ++
        request.modules.flatMap fun module =>
          policyRegistrations module.routers (request.modulePolicy module)
  dependencies :
    app.routes.map (fun route => (route.route, route.dependencies)) =
      attached request.builtinRouters [] ++
        attached request.routers
            (policyDependencies request.transportPolicy) ++
          request.modules.flatMap fun module =>
            attached module.routers (request.moduleDependencies module)

namespace RoutesRequest

variable {request : RoutesRequest} {app : AppRoutes}

theorem findsPolicy_of_mem_inclusions
    (created : request.createRoutes = .ok app) {inclusion : Inclusion}
    (member : inclusion ∈ request.inclusions) :
    app.FindsPolicy inclusion.router inclusion.policy := by
  intro route routeMember method methodMember
  show
    app.transportPolicies.get? (upper method, route.path) =
      inclusion.policy
  rw [route.upper method methodMember]
  have contract :
      (route.path, method) ∈
        inclusion.router.apiRoutes.flatMap ApiRoute.contracts :=
    List.mem_flatMap.mpr
      ⟨route, routeMember, List.mem_map.mpr ⟨method, methodMember, rfl⟩⟩
  exact
    get?_transportPolicies created
      (List.mem_flatMap.mpr
        ⟨inclusion, member, List.mem_map.mpr ⟨_, contract, rfl⟩⟩)

/-- A route is included with the responses of the policy found for it. -/
theorem responses_of_mem_routes (created : request.createRoutes = .ok app)
    {included : IncludedRoute} (member : included ∈ app.routes)
    {route : ApiRoute} (isApiRoute : included.route = .apiRoute route)
    {method : String} (methodMember : method ∈ route.methods) :
    included.responses =
      policyResponses (app.routePolicy (some route.path) method) := by
  have inclusion (given : Inclusion) (inRequest : given ∈ request.inclusions) :
      given.responses = policyResponses given.policy := by
    rcases List.mem_append.mp inRequest with own | ofModule
    · rcases List.mem_append.mp own with builtin | direct
      · rcases List.mem_map.mp builtin with ⟨router, -, rfl⟩
        rfl
      · rcases List.mem_map.mp direct with ⟨router, -, rfl⟩
        rfl
    · rcases List.mem_flatMap.mp ofModule with ⟨module, -, inModule⟩
      rcases List.mem_map.mp inModule with ⟨router, -, rfl⟩
      rfl
  rw [(performed_of_createRoutes created).2,
    AppRoutes.routes_foldl_perform, List.nil_append] at member
  rcases List.mem_flatMap.mp member with ⟨given, inRequest, inRoutes⟩
  rcases List.mem_map.mp inRoutes with ⟨original, inRouter, rfl⟩
  cases original with
  | starletteRoute path methods => cases isApiRoute
  | apiRoute original =>
      cases isApiRoute
      have apiRoute : route ∈ given.router.apiRoutes :=
        List.mem_filterMap.mpr ⟨_, inRouter, rfl⟩
      rw [findsPolicy_of_mem_inclusions created inRequest route apiRoute
        method methodMember]
      exact inclusion given inRequest

theorem attached_eq (routers : List RouterArgument)
    (inclusion : RouterArgument → Inclusion)
    (dependencies : List PyObject)
    (same :
      ∀ router, (inclusion router).router = router ∧
        (inclusion router).dependencies = dependencies) :
    ((routers.map inclusion).flatMap Inclusion.routes).map
        (fun route => (route.route, route.dependencies)) =
      attached routers dependencies := by
  rw [List.flatMap_map, List.map_flatMap, attached]
  apply List.flatMap_congr
  intro router _
  simp only [Inclusion.routes, List.map_map, (same router).1,
    (same router).2]
  apply List.map_congr_left
  intro route _
  cases route <;> rfl

theorem policyRegistrations_eq (routers : List RouterArgument)
    (inclusion : RouterArgument → Inclusion)
    (policy : Option TransportPolicy)
    (same :
      ∀ router, (inclusion router).router = router ∧
        (inclusion router).policy = policy) :
    (routers.map inclusion).flatMap Inclusion.entries =
      policyRegistrations routers policy := by
  rw [List.flatMap_map, policyRegistrations]
  apply List.flatMap_congr
  intro router _
  rw [Inclusion.entries_eq, (same router).1, (same router).2]

/--
In an accepted application the API routes have the policy and the
dependencies of their own router, and no entry has been overwritten.
-/
theorem localPolicies (created : request.createRoutes = .ok app) :
    request.LocalPolicies app where
  builtin router member :=
    findsPolicy_of_mem_inclusions created
      (List.mem_append_left _
        (List.mem_append_left _
          (List.mem_map.mpr ⟨router, member, rfl⟩)))
  direct router member :=
    findsPolicy_of_mem_inclusions created
      (List.mem_append_left _
        (List.mem_append_right _
          (List.mem_map.mpr ⟨router, member, rfl⟩)))
  modules module moduleMember router member :=
    findsPolicy_of_mem_inclusions created
      (List.mem_append_right _
        (List.mem_flatMap.mpr
          ⟨module, moduleMember,
            List.mem_map.mpr ⟨router, member, rfl⟩⟩))
  entries := by
    rw [entries_transportPolicies created, inclusions,
      List.flatMap_append, List.flatMap_append, List.flatMap_assoc]
    rw [policyRegistrations_eq request.builtinRouters builtinInclusion none
      fun router => ⟨rfl, rfl⟩]
    rw [policyRegistrations_eq request.routers request.directInclusion
      request.transportPolicy fun router => ⟨rfl, rfl⟩]
    have none : policyRegistrations request.builtinRouters none = [] :=
      List.flatMap_eq_nil_iff.mpr fun _ _ => rfl
    rw [none, List.nil_append]
    apply congrArg
    apply List.flatMap_congr
    intro module _
    exact
      policyRegistrations_eq module.routers (request.moduleInclusion module)
        (request.modulePolicy module) fun router => ⟨rfl, rfl⟩
  dependencies := by
    rw [(performed_of_createRoutes created).2,
      AppRoutes.routes_foldl_perform, List.nil_append, inclusions,
      List.flatMap_append, List.flatMap_append, List.flatMap_assoc,
      List.map_append, List.map_append]
    rw [attached_eq request.builtinRouters builtinInclusion []
      fun router => ⟨rfl, rfl⟩]
    rw [attached_eq request.routers request.directInclusion
      (policyDependencies request.transportPolicy)
      fun router => ⟨rfl, rfl⟩]
    apply congrArg
    rw [List.map_flatMap]
    apply List.flatMap_congr
    intro module _
    exact
      attached_eq module.routers (request.moduleInclusion module)
        (request.moduleDependencies module) fun router => ⟨rfl, rfl⟩

end RoutesRequest

/-! ## An application with policies -/

/-- A router with one API route and one plain route. -/
def itemsRouter : RouterArgument :=
  .apiRouter
    { routes :=
        [.apiRoute
          (.single "/items" "GET" "list_items_items_get" upper_get),
        .starletteRoute "/metrics" ["GET"]] }

/-- A module with a dependency and a policy of its own. -/
def itemsModule : ModuleRoutes where
  routers := [itemsRouter]
  dependencies := [{ ref := 1 }]
  transportPolicy :=
    some { dependencies := [{ ref := 2 }], validationStatus := some 400 }

/-- The module in an application with a policy and the auth router. -/
def itemsRequest : RoutesRequest where
  includeAuthRouter := true
  modules := [itemsModule]
  transportPolicy := some { dependencies := [{ ref := 3 }] }

theorem localPolicies_itemsRequest :
    ∃ app, itemsRequest.createRoutes = .ok app ∧
      itemsRequest.LocalPolicies app :=
  ⟨_, rfl, RoutesRequest.localPolicies rfl⟩

/-- The path and the methods of a route of any kind. -/
def Route.contracts : Route → List (String × String)
  | .apiRoute route => route.contracts
  | .starletteRoute path methods => methods.map fun method => (path, method)

/-- A plain route of a module does not get the policy of the module. -/
theorem not_forall_findsPolicy :
    ¬∀ (request : RoutesRequest) (app : AppRoutes),
      request.createRoutes = .ok app →
      ∀ module ∈ request.modules, ∀ router ∈ module.routers,
        ∀ route ∈ router.routes, ∀ contract ∈ route.contracts,
          app.routePolicy (some contract.1) contract.2 =
            request.modulePolicy module := by
  intro found
  have policy :=
    found itemsRequest _ rfl itemsModule (by simp [itemsRequest])
      itemsRouter (by simp [itemsModule])
      (.starletteRoute "/metrics" ["GET"])
      (by simp [itemsRouter, RouterArgument.routes])
      ("/metrics", "GET") (by simp [Route.contracts])
  have declared := congrArg Option.isSome policy
  revert declared
  decide

end FastapiCore
