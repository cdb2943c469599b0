import FastapiCore.ErrorRendering
import FastapiCore.Routing

/-!
# Exception handlers

`install_problem_handlers` registers a handler for HTTP exceptions, one for
validation errors and one for all other exceptions, and
`register_error_mapper` one for each mapper, which replaces an earlier handler
for its type.  Every handler makes an `ErrorMapping` and renders it with the
renderer of the route's policy or of the application.
-/

namespace FastapiCore

open Library

/-! ## Mappings of exceptions -/

/-- What a mapping callable returns, when it has been awaited. -/
inductive MapperResult where
  | mapping (mapping : ErrorMapping)
  | other (object : PyObject)

/-- An `ErrorMapper`. -/
abbrev ErrorMapper := Request → PyExc → Except PyExc MapperResult

/-- A value of an exception mapping table. -/
inductive ErrorMappingValue where
  | mapping (mapping : ErrorMapping)
  | callable (mapper : ErrorMapper)

/-- The class `Exception`. -/
def exceptionClass : ExcClass := .other "Exception"

/-- `ExceptionMappingTable`, whose fallback is not out of reach. -/
structure ExceptionMappingTable where
  mappings : OrderedDict ExcClass ErrorMappingValue
  fallback : Option ErrorMappingValue
  reachable :
    fallback.isSome = true → exceptionClass ∉ mappings.keys

namespace ExceptionMappingTable

/-- `ExceptionMappingTable(mappings, fallback)`, for values of its types. -/
def new (mappings : OrderedDict ExcClass ErrorMappingValue)
    (fallback : Option ErrorMappingValue) :
    Except PyExc ExceptionMappingTable :=
  if reachable : fallback.isSome = true → exceptionClass ∉ mappings.keys
  then .ok { mappings, fallback, reachable }
  else
    .error
      (.valueError
        ("exception mapping fallback is unreachable when Exception is " ++
          "mapped"))

variable (table : ExceptionMappingTable) (mro : ExcClass → List ExcClass)

/-- The value for an exception: the first one in the order of the MRO. -/
def select (exception : PyExc) : Option ErrorMappingValue :=
  ((mro exception.cls).findSome? table.mappings.get?).or table.fallback

/-- `resolve`. -/
def resolve (request : Request) (exception : PyExc) :
    Except PyExc (Option ErrorMapping) :=
  match table.select mro exception with
  | none => .ok none
  | some (.mapping mapping) => .ok (some mapping)
  | some (.callable mapper) => do
      match ← mapper request exception with
      | .mapping mapping => pure (some mapping)
      | .other _ =>
          .error
            { cls := .typeError
              message := "exception mapping callable must return ErrorMapping" }

end ExceptionMappingTable

/-! ## Rendering with the policy of a route -/

/-- A mapper of `register_error_mapper`, for one which keeps to its type. -/
abbrev RegisteredMapper := Request → PyExc → Except PyExc ErrorMapping

/--
What the handlers read of `app.state`, and what they call.  The mappers are
under the types which they are registered for.
-/
structure ErrorApp where
  routes : AppRoutes
  errorRenderer : ErrorRenderer
  errorMappingTable : Option ExceptionMappingTable
  errorMappers : OrderedDict ExcClass RegisteredMapper := .empty
  policyRenderer : Callable → ErrorRenderer
  mro : ExcClass → List ExcClass
  sdk : ErrorSdk

namespace ErrorApp

variable (app : ErrorApp) (request : Request)

/-- `_route_policy`. -/
def routePolicy : Option TransportPolicy :=
  app.routes.routePolicy request.route request.method

/-- The renderer for a request. -/
def renderer : ErrorRenderer :=
  match app.routePolicy request with
  | none => app.errorRenderer
  | some policy =>
      match policy.errorRenderer with
      | none => app.errorRenderer
      | some callable => app.policyRenderer callable

/-- `replace(mapping, detail=_mask_problem_detail(mapping.detail))`. -/
def sanitized (mapping : ErrorMapping) : ErrorMapping :=
  { mapping with detail := maskProblemDetail app.sdk mapping.detail }

/-- `_render_error`. -/
def renderError (mapping : ErrorMapping) : Except PyExc Reply :=
  app.renderer request request (app.sanitized mapping)

/-! ## The handlers -/

/-- What `_http_exception_handler` reads of an `HTTPException`. -/
structure HttpException where
  statusCode : Nat
  detail : String
  headers : Option (OrderedDict String String)

/-- `_http_exception_handler`. -/
def httpExceptionHandler (exception : HttpException) :
    Except PyExc Reply :=
  app.renderError request
    { statusCode := exception.statusCode
      detail := exception.detail
      headers := exception.headers }

/-- The mapping of `_validation_exception_handler`. -/
def validationMapping : ErrorMapping where
  statusCode :=
    match app.routePolicy request with
    | some policy => policy.effectiveValidationStatus
    | none => 422
  detail := "Request validation failed"

/-- `_validation_exception_handler`. -/
def validationExceptionHandler : Except PyExc Reply :=
  app.renderError request (app.validationMapping request)

/-- The handler answers with the status of its mapping. -/
theorem exists_single_of_validationExceptionHandler
    (keeps : KeepsStatus (app.renderer request)) {response : Reply}
    (answered : app.validationExceptionHandler request = .ok response) :
    ∃ headers payload,
      response =
        .single (app.validationMapping request).statusCode headers
          payload :=
  keeps request (app.sanitized (app.validationMapping request)) response
    answered

/-- `mapped_exception_handler`. -/
def mappedExceptionHandler (mapper : RegisteredMapper)
    (exception : PyExc) : Except PyExc Reply := do
  let mapping ← mapper request exception
  app.renderError request mapping

/-- The mapping which the table has for an exception. -/
def tableMapping (exception : PyExc) : Except PyExc (Option ErrorMapping) :=
  match app.errorMappingTable with
  | none => .ok none
  | some table => table.resolve app.mro request exception

/-- The mapping of an unhandled error. -/
def internalServerError : ErrorMapping where
  statusCode := 500
  detail := "Internal Server Error"

/-- The event `unhandled_request_error`. -/
def unhandledRequestError : ErrorEvent where
  operation := "request"
  outcome := "error"
  correlationId := request.correlationId

/-- `_unhandled_exception_handler`. -/
def unhandledExceptionHandler (exception : PyExc) :
    RequestEffect Reply := do
  match ← Effect.ofExcept (app.tableMapping request exception) with
  | some mapped => Effect.ofExcept (app.renderError request mapped)
  | none => do
      Effect.update fun state =>
        { state with
          errorEvents := state.errorEvents ++ [unhandledRequestError request] }
      Effect.ofExcept (app.renderError request internalServerError)

/-- The handler for `Exception`: a mapper may be registered for it. -/
def exceptionHandler (exception : PyExc) : RequestEffect Reply :=
  match app.errorMappers.get? exceptionClass with
  | some mapper =>
      Effect.ofExcept (app.mappedExceptionHandler request mapper exception)
  | none => app.unhandledExceptionHandler request exception

/-- The mapping which the handler for `Exception` renders. -/
def exceptionMapping (exception : PyExc) : Except PyExc ErrorMapping :=
  match app.errorMappers.get? exceptionClass with
  | some mapper => mapper request exception
  | none => do
      let mapped ← app.tableMapping request exception
      pure (mapped.getD internalServerError)

/-- The response which the handler for `Exception` returns. -/
def exceptionResponse (exception : PyExc) : Except PyExc Reply := do
  let mapping ← app.exceptionMapping request exception
  app.renderError request mapping

/-- The handler returns its response and leaves the messages alone. -/
theorem run_exceptionHandler (exception : PyExc) (state : RequestState) :
    ∃ errorEvents,
      (app.exceptionHandler request exception).run state =
        (app.exceptionResponse request exception,
          { state with errorEvents }) := by
  rw [exceptionHandler, exceptionResponse, exceptionMapping]
  cases app.errorMappers.get? exceptionClass with
  | some mapper => exact ⟨state.errorEvents, rfl⟩
  | none =>
      simp only [unhandledExceptionHandler, Effect.run_bind,
        Effect.run_ofExcept]
      cases app.tableMapping request exception with
      | error raised => exact ⟨state.errorEvents, rfl⟩
      | ok mapped =>
          cases mapped with
          | some mapping => exact ⟨state.errorEvents, rfl⟩
          | none =>
              exact
                ⟨state.errorEvents ++ [unhandledRequestError request], rfl⟩

end ErrorApp

end FastapiCore
