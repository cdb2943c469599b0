import FastapiCore.Lifecycle

/-!
# The dependencies which find the auth provider

A dependency reads `request.app.state` and either returns a client of the
service runtime or raises an `HTTPException`.  `getAuthProvider` is the only
one which also writes the state: it stores the provider which it has found.
-/

namespace FastapiCore

open Library
open Library.Effect

/-- A dependency which is called with a request of the application. -/
abbrev Dependency := Effect AppState PyExc

/-- `HTTPException(status_code, detail)`. -/
def PyExc.httpException (statusCode : Nat) (detail : String) : PyExc :=
  { cls := .httpException, message := toString statusCode ++ ": " ++ detail }

/-- `_service_not_enabled`. -/
def serviceNotEnabled (serviceName : Name) : PyExc :=
  .httpException 503
    ("Service client '" ++ serviceName ++ "' is not enabled")

/-- `_service_type_mismatch`. -/
def serviceTypeMismatch (serviceName : Name) (expectedType : String) :
    PyExc :=
  .httpException 500
    ("Service client '" ++ serviceName ++ "' is not a " ++ expectedType)

/-- `get_service_runtime`. -/
def getServiceRuntime : Dependency ServiceRuntime := do
  let state ← read
  match state.serviceRuntime with
  | none =>
      raise (.httpException 503 "Service runtime is not available")
  | some runtime => pure runtime

/-- `_resolve_service_client`. -/
def resolveServiceClient (serviceName : Name) :
    Dependency ServiceClient := do
  let runtime ← getServiceRuntime
  match ← ofExcept (runtime.get serviceName) with
  | none => raise (serviceNotEnabled serviceName)
  | some client => pure client

/-- `_resolve_wrapped_service_client`, with the `unwrap` of the wrapper. -/
def resolveWrappedServiceClient (serviceName : Name) :
    Dependency (Except PyExc UnwrappedClient) := do
  match ← resolveServiceClient serviceName with
  | .wrapper unwrap => pure unwrap
  | .natsConnectionBuilder _ =>
      raise (serviceTypeMismatch serviceName "wrapped service client")

/-- `isinstance(client, KeycloakAuthService)`. -/
def UnwrappedClient.asKeycloakAuthService :
    UnwrappedClient → Option PyObject
  | .keycloakAuthService provider => some provider
  | .other _ => none

/-- `_unwrap_service_client`, with the instance check of the type. -/
def unwrapServiceClient (serviceName : Name) (expectedType : String)
    (asInstance : UnwrappedClient → Option PyObject) :
    Dependency PyObject := do
  let unwrap ← resolveWrappedServiceClient serviceName
  let client ← ofExcept unwrap
  match asInstance client with
  | none => raise (serviceTypeMismatch serviceName expectedType)
  | some provider => pure provider

/-- `get_keycloak_auth_service`. -/
def getKeycloakAuthService : Dependency PyObject :=
  unwrapServiceClient "keycloak" "KeycloakAuthService"
    UnwrappedClient.asKeycloakAuthService

/-- `get_auth_provider`. -/
def getAuthProvider : Dependency PyObject := do
  let state ← read
  match state.authProvider with
  | some cachedProvider => pure cachedProvider
  | none => do
      let provider ← getKeycloakAuthService
      update fun state => { state with authProvider := some provider }
      pure provider

/-- The state after some requests have asked for the auth provider. -/
def afterRequests : Nat → AppState → AppState
  | 0, state => state
  | requests + 1, state =>
      afterRequests requests (getAuthProvider.run state).2

/-- A provider which is stored is returned, and stays stored. -/
theorem run_getAuthProvider_of_stored {state : AppState}
    {provider : PyObject} (stored : state.authProvider = some provider) :
    getAuthProvider.run state = (.ok provider, state) := by
  rw [getAuthProvider, run_read_bind, stored]
  rfl

theorem afterRequests_of_stored {state : AppState} {provider : PyObject}
    (stored : state.authProvider = some provider) (requests : Nat) :
    afterRequests requests state = state := by
  induction requests with
  | zero => rfl
  | succ requests induction =>
      rw [afterRequests, run_getAuthProvider_of_stored stored]
      exact induction

/-- All requests find the provider which the application starts with. -/
theorem getAuthProvider_afterRequests {state : AppState}
    {provider : PyObject} (stored : state.authProvider = some provider)
    (requests : Nat) :
    (getAuthProvider.run (afterRequests requests state)).1 =
      .ok provider := by
  rw [afterRequests_of_stored stored, run_getAuthProvider_of_stored stored]

end FastapiCore
