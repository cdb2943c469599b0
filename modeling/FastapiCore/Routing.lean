import FastapiCore.Library.FallibleLoop
import FastapiCore.TransportPolicy

/-!
# Routes and their policies

`createRoutes` is the part of `create_app` which decides which routes an
application has: it validates the routes of all routers, includes the routers
one after the other, and records the transport policy of each route in one
table for the error handlers and the OpenAPI schema.

FastAPI includes a router by copying its routes, with further dependencies and
responses for each `APIRoute`.  A route of Starlette is copied as it is.
-/

namespace FastapiCore

open Library

/-! ## Routes and routers -/

/-- An `APIRoute`, which has a set of upper-case methods. -/
structure ApiRoute where
  path : String
  methods : List String
  uniqueId : String
  includeInSchema : Bool := true
  nodup : methods.Nodup
  upper : ∀ method ∈ methods, FastapiCore.upper method = method

/-- An API route of one method. -/
def ApiRoute.single (path method uniqueId : String)
    (isUpper : FastapiCore.upper method = method) : ApiRoute where
  path := path
  methods := [method]
  uniqueId := uniqueId
  nodup := List.nodup_singleton method
  upper := List.forall_mem_singleton.mpr isUpper

theorem upper_get : upper "GET" = "GET" := by decide

theorem upper_put : upper "PUT" = "PUT" := by decide

/-- A route of a router: an `APIRoute` or a plain route of Starlette. -/
inductive Route where
  | apiRoute (route : ApiRoute)
  | starletteRoute (path : String) (methods : List String)

/-- `route if isinstance(route, APIRoute)`. -/
def Route.apiRoute? : Route → Option ApiRoute
  | .apiRoute route => some route
  | .starletteRoute _ _ => none

/-- An `APIRouter`. -/
structure ApiRouter where
  routes : List Route

/-- An element of the `routers` argument. -/
inductive RouterArgument where
  | apiRouter (router : ApiRouter)
  | other (object : PyObject)

/-- The routes of a router, which another object has none of. -/
def RouterArgument.routes : RouterArgument → List Route
  | .apiRouter router => router.routes
  | .other _ => []

/-- The API routes of a router. -/
def RouterArgument.apiRoutes (router : RouterArgument) : List ApiRoute :=
  router.routes.filterMap Route.apiRoute?

/-- The contracts of a route: its path with each of its methods. -/
def ApiRoute.contracts (route : ApiRoute) : List (String × String) :=
  route.methods.map fun method => (route.path, method)

/-! ## Validation -/

/-- The sets which `_validate_routes` accumulates. -/
structure KnownRoutes where
  contracts : List (String × String) := []
  operationIds : List String := []

/-- `raise ValueError(f"route '{method} {route.path}' ...")`. -/
def contractTaken (contract : String × String) : PyExc :=
  .valueError
    ("route '" ++ contract.2 ++ " " ++ contract.1 ++
      "' is already registered")

/-- `raise ValueError(f"operation ID '{route.unique_id}' ...")`. -/
def operationIdTaken (operationId : String) : PyExc :=
  .valueError ("operation ID '" ++ operationId ++ "' is already registered")

/-- The body of the loop over the routes of a router. -/
def validateRoute (known : KnownRoutes) :
    Route → Except PyExc KnownRoutes
  | .starletteRoute _ _ => .ok known
  | .apiRoute route => do
      let contracts ←
        route.methods.foldlM
          (fun contracts method =>
            registerDistinct contractTaken contracts (route.path, method))
          known.contracts
      let operationIds ←
        registerDistinct operationIdTaken known.operationIds route.uniqueId
      pure { contracts, operationIds }

/-- The body of the loop over the routers. -/
def validateRouter (known : KnownRoutes) :
    RouterArgument → Except PyExc KnownRoutes
  | .other _ =>
      .error
        { cls := .typeError
          message := "routers must contain APIRouter instances" }
  | .apiRouter router => router.routes.foldlM validateRoute known

/-- `_validate_routes`. -/
def validateRoutes (routers : List RouterArgument) : Except PyExc Unit :=
  (routers.foldlM validateRouter {}).map fun _ => ()

/-! ## Including routers -/

/-- A route of the application, with what its inclusion has added. -/
structure IncludedRoute where
  route : Route
  dependencies : List PyObject
  responses : OrderedDict Nat ResponseDefinition

/-- The routes of an application, and their policies in `app.state`. -/
structure AppRoutes where
  routes : List IncludedRoute := []
  transportPolicy : TransportPolicy
  transportPolicies : OrderedDict (String × String) TransportPolicy :=
    .empty

/-- The routers, dependencies and policy of a `DomainModule`. -/
structure ModuleRoutes where
  routers : List RouterArgument := []
  dependencies : List PyObject := []
  transportPolicy : Option TransportPolicy := none

/-- The arguments of `create_app` which concern routes. -/
structure RoutesRequest where
  includeAuthRouter : Bool := false
  routers : List RouterArgument := []
  modules : List ModuleRoutes := []
  transportPolicy : Option TransportPolicy := none

/-- How `include_router` copies a route. -/
def includeRoute (dependencies : List PyObject)
    (responses : OrderedDict Nat ResponseDefinition) (route : Route) :
    IncludedRoute :=
  match route with
  | .apiRoute _ => { route, dependencies, responses }
  | .starletteRoute _ _ => { route, dependencies := [], responses := .empty }

namespace AppRoutes

variable (app : AppRoutes)

/-- `app.include_router(router, dependencies=..., responses=...)`. -/
def includeRouter (router : RouterArgument)
    (dependencies : List PyObject)
    (responses : OrderedDict Nat ResponseDefinition) : AppRoutes :=
  { app with
    routes :=
      app.routes ++
        router.routes.map (includeRoute dependencies responses) }

/-- The assignments of `_record_transport_policy`. -/
def policyEntries (router : RouterArgument) (policy : TransportPolicy) :
    List ((String × String) × TransportPolicy) :=
  router.apiRoutes.flatMap fun route =>
    route.methods.map fun method => ((upper method, route.path), policy)

/-- `_record_transport_policy`. -/
def recordTransportPolicy (router : RouterArgument)
    (policy : Option TransportPolicy) : AppRoutes :=
  match policy with
  | none => app
  | some policy =>
      { app with
        transportPolicies :=
          (policyEntries router policy).foldl
            (fun table entry => table.insert entry.1 entry.2)
            app.transportPolicies }

/-- The body of the loop over the direct routers. -/
def includeDirect (transportPolicy : Option TransportPolicy)
    (router : RouterArgument) : AppRoutes :=
  match transportPolicy with
  | none => app.includeRouter router [] .empty
  | some _ =>
      (app.includeRouter router app.transportPolicy.dependencies
        app.transportPolicy.responseDefinitions).recordTransportPolicy
        router (some app.transportPolicy)

/-- The body of the loop over the routers of a module. -/
def includeModuleRouter (transportPolicy : Option TransportPolicy)
    (module : ModuleRoutes) (router : RouterArgument) : AppRoutes :=
  let policy :=
    TransportPolicy.resolve (some app.transportPolicy)
      module.transportPolicy
  let declaredPolicy :=
    transportPolicy.isSome || module.transportPolicy.isSome
  let dependencies := module.dependencies ++ policy.dependencies
  if declaredPolicy then
    (app.includeRouter router dependencies
      policy.responseDefinitions).recordTransportPolicy router (some policy)
  else app.includeRouter router module.dependencies .empty

/-- The body of the loop over the modules. -/
def includeModule (transportPolicy : Option TransportPolicy)
    (module : ModuleRoutes) : AppRoutes :=
  module.routers.foldl
    (fun app router =>
      app.includeModuleRouter transportPolicy module router)
    app

/--
`_route_policy`, for the path of `scope["route"]` and the method of a
request.
-/
def routePolicy (path : Option String) (method : String) :
    Option TransportPolicy :=
  match path with
  | none => none
  | some path => app.transportPolicies.get? (upper method, path)

end AppRoutes

/-- `fastapi_core.routers.health.router`. -/
def healthRouter : RouterArgument :=
  .apiRouter
    { routes :=
        [.apiRoute
          { path := "/health/liveness"
            methods := ["GET"]
            uniqueId := "liveness_health_liveness_get"
            nodup := by decide
            upper := by decide },
        .apiRoute
          { path := "/health/readiness"
            methods := ["GET"]
            uniqueId := "readiness_health_readiness_get"
            nodup := by decide
            upper := by decide }] }

/-- `fastapi_core.routers.auth.router`. -/
def authRouter : RouterArgument :=
  .apiRouter
    { routes :=
        [.apiRoute
          { path := "/token"
            methods := ["POST"]
            uniqueId := "issue_token_token_post"
            nodup := by decide
            upper := by decide },
        .apiRoute
          { path := "/user"
            methods := ["GET"]
            uniqueId := "read_user_user_get"
            nodup := by decide
            upper := by decide }] }

namespace RoutesRequest

variable (request : RoutesRequest)

/-- The built-in routers. -/
def builtinRouters : List RouterArgument :=
  if request.includeAuthRouter then [healthRouter, authRouter]
  else [healthRouter]

/-- `all_routers`. -/
def allRouters : List RouterArgument :=
  request.builtinRouters ++ request.routers ++
    request.modules.flatMap ModuleRoutes.routers

/-- `create_app`, as far as routes and policies are concerned. -/
def createRoutes : Except PyExc AppRoutes := do
  TransportPolicy.validateModuleConflicts
    (request.modules.filterMap ModuleRoutes.transportPolicy)
  let transportPolicy :=
    TransportPolicy.resolve none request.transportPolicy
  validateRoutes request.allRouters
  let app : AppRoutes := { transportPolicy }
  let app :=
    request.builtinRouters.foldl
      (fun app router => app.includeRouter router [] .empty) app
  let app :=
    request.routers.foldl
      (fun app router => app.includeDirect request.transportPolicy router)
      app
  pure
    (request.modules.foldl
      (fun app module => app.includeModule request.transportPolicy module)
      app)

end RoutesRequest

/-! ## What the validation accepts -/

namespace KnownRoutes

/-- The sets after some more routes. -/
def add (known : KnownRoutes) (routes : List ApiRoute) : KnownRoutes where
  contracts := known.contracts ++ routes.flatMap ApiRoute.contracts
  operationIds := known.operationIds ++ routes.map ApiRoute.uniqueId

/-- The loop invariant: nothing has been seen twice. -/
structure Distinct (known : KnownRoutes) : Prop where
  contracts : known.contracts.Nodup
  operationIds : known.operationIds.Nodup

@[simp]
theorem add_nil (known : KnownRoutes) : known.add [] = known := by
  simp [add]

theorem add_append (known : KnownRoutes) (first second : List ApiRoute) :
    known.add (first ++ second) = (known.add first).add second := by
  simp [add]

/-- Fewer routes have been seen distinct as well. -/
theorem Distinct.of_add {known : KnownRoutes} {routes : List ApiRoute}
    (distinct : (known.add routes).Distinct) : known.Distinct where
  contracts := (List.nodup_append.mp distinct.contracts).1
  operationIds := (List.nodup_append.mp distinct.operationIds).1

end KnownRoutes

section Accepted

variable {known final : KnownRoutes}

/-- One route is accepted if its contracts and its operation ID are new. -/
theorem validateRoute_eq_ok_iff {route : Route}
    (distinct : known.Distinct) :
    validateRoute known route = .ok final ↔
      final = known.add route.apiRoute?.toList ∧ final.Distinct := by
  cases route with
  | starletteRoute path methods =>
      rw [Route.apiRoute?, Option.toList_none, KnownRoutes.add_nil,
        validateRoute]
      constructor
      · rintro ⟨⟩
        exact ⟨rfl, distinct⟩
      · rintro ⟨rfl, -⟩
        rfl
  | apiRoute route =>
      have contracts (accepted : List (String × String)) :
          route.methods.foldlM
                (fun contracts method =>
                  registerDistinct contractTaken contracts
                    (route.path, method))
                known.contracts =
              .ok accepted ↔
            accepted = known.contracts ++ route.contracts ∧
              (known.contracts ++ route.contracts).Nodup := by
        rw [ApiRoute.contracts,
          ← foldlM_registerDistinct_eq_ok_iff distinct.contracts,
          List.foldlM_map]
      rw [validateRoute, bind_eq_ok_iff, Route.apiRoute?,
        Option.toList_some]
      constructor
      · rintro ⟨_, contractsSeen, rest⟩
        rcases bind_eq_ok_iff.mp rest with ⟨_, idsSeen, ⟨⟩⟩
        rcases (contracts _).mp contractsSeen with ⟨rfl, contractsNodup⟩
        rcases
          (registerDistinct_eq_ok_iff distinct.operationIds).mp idsSeen with
          ⟨rfl, idsNodup⟩
        refine ⟨?_, contractsNodup, idsNodup⟩
        simp [KnownRoutes.add]
      · rintro ⟨rfl, accepted⟩
        have contractsNodup := accepted.contracts
        have idsNodup := accepted.operationIds
        simp only [KnownRoutes.add, List.flatMap_singleton,
          List.map_singleton] at contractsNodup idsNodup
        refine ⟨_, (contracts _).mpr ⟨rfl, contractsNodup⟩, ?_⟩
        rw [(registerDistinct_eq_ok_iff distinct.operationIds).mpr
          ⟨rfl, idsNodup⟩]
        simp [KnownRoutes.add]

/--
A loop accepts its elements if each step accepts what is fit and adds routes
which have not been seen.
-/
theorem foldlM_validate_eq_ok_iff {α : Type}
    {step : KnownRoutes → α → Except PyExc KnownRoutes}
    {routesOf : α → List ApiRoute} {fits : α → Prop}
    (stepAccepts :
      ∀ {known final : KnownRoutes} {element : α}, known.Distinct →
        (step known element = .ok final ↔
          fits element ∧ final = known.add (routesOf element) ∧
            final.Distinct))
    {elements : List α} (distinct : known.Distinct) :
    elements.foldlM step known = .ok final ↔
      (∀ element ∈ elements, fits element) ∧
        final = known.add (elements.flatMap routesOf) ∧
          final.Distinct := by
  induction elements generalizing known with
  | nil =>
      constructor
      · rintro ⟨⟩
        exact ⟨by simp, by simp, distinct⟩
      · rintro ⟨-, same, -⟩
        rw [same, List.flatMap_nil, KnownRoutes.add_nil]
        rfl
  | cons element rest induction =>
      rw [List.foldlM_cons, bind_eq_ok_iff, List.forall_mem_cons,
        List.flatMap_cons, KnownRoutes.add_append]
      constructor
      · rintro ⟨next, first, others⟩
        rcases (stepAccepts distinct).mp first with ⟨fit, rfl, nextDistinct⟩
        rcases (induction nextDistinct).mp others with
          ⟨restFit, last, lastDistinct⟩
        exact ⟨⟨fit, restFit⟩, last, lastDistinct⟩
      · rintro ⟨⟨fit, restFit⟩, rfl, lastDistinct⟩
        have nextDistinct := lastDistinct.of_add
        exact
          ⟨_, (stepAccepts distinct).mpr ⟨fit, rfl, nextDistinct⟩,
            (induction nextDistinct).mpr ⟨restFit, rfl, lastDistinct⟩⟩

/-- The element is an `APIRouter`. -/
def RouterArgument.IsApiRouter (argument : RouterArgument) : Prop :=
  ∃ router, argument = .apiRouter router

theorem flatMap_apiRoute? (routes : List Route) :
    (routes.flatMap fun route => route.apiRoute?.toList) =
      routes.filterMap Route.apiRoute? := by
  induction routes with
  | nil => rfl
  | cons route rest induction =>
      rw [List.flatMap_cons, induction, List.filterMap_cons]
      cases route <;> rfl

theorem validateRouter_eq_ok_iff {router : RouterArgument}
    (distinct : known.Distinct) :
    validateRouter known router = .ok final ↔
      router.IsApiRouter ∧ final = known.add router.apiRoutes ∧
        final.Distinct := by
  cases router with
  | other object => simp [validateRouter, RouterArgument.IsApiRouter]
  | apiRouter router =>
      have loop :=
        @foldlM_validate_eq_ok_iff known final Route validateRoute
          (fun route => route.apiRoute?.toList) (fun _ => True)
          (fun distinct => by
            rw [validateRoute_eq_ok_iff distinct, true_and])
          router.routes distinct
      rw [validateRouter, loop, flatMap_apiRoute?]
      simp [RouterArgument.IsApiRouter, RouterArgument.apiRoutes,
        RouterArgument.routes]

end Accepted

/-- The API routes of some routers, in the order of inclusion. -/
def apiRoutes (routers : List RouterArgument) : List ApiRoute :=
  routers.flatMap RouterArgument.apiRoutes

/-- The validation accepts exactly routers which repeat nothing. -/
theorem validateRoutes_eq_ok_iff {routers : List RouterArgument} :
    validateRoutes routers = .ok () ↔
      (∀ router ∈ routers, router.IsApiRouter) ∧
        ((apiRoutes routers).flatMap ApiRoute.contracts).Nodup ∧
          ((apiRoutes routers).map ApiRoute.uniqueId).Nodup := by
  have start : ({} : KnownRoutes).Distinct :=
    ⟨List.nodup_nil, List.nodup_nil⟩
  have accepts (final : KnownRoutes) :=
    @foldlM_validate_eq_ok_iff {} final _ validateRouter
      RouterArgument.apiRoutes RouterArgument.IsApiRouter
      validateRouter_eq_ok_iff routers start
  rw [validateRoutes]
  constructor
  · intro valid
    cases ran : routers.foldlM validateRouter {} with
    | error exception =>
        rw [ran] at valid
        cases valid
    | ok final =>
        rcases (accepts final).mp ran with ⟨fit, rfl, distinct⟩
        exact ⟨fit, distinct.contracts, distinct.operationIds⟩
  · rintro ⟨fit, contracts, operationIds⟩
    rw [(accepts _).mpr ⟨fit, rfl, contracts, operationIds⟩]
    rfl

end FastapiCore
