import FastapiCore.ApplicationCreation
import FastapiCore.AuthProvider

/-!
# The service clients which requests are given

The dependencies of `dependencies/services.py` read the service runtime from
`app.state`.  Connecting a runtime publishes it there, and nothing takes it
away again: a request is answered from the runtime which was published last,
even if that one has been closed and a later startup has failed.
-/

namespace FastapiCore

open Library
open Library.Effect

/-! ## The dependencies -/

/-- `isinstance(client, expected_type)`, by the name of the type. -/
abbrev InstanceCheck :=
  (expectedType : String) → PyObject → Bool

/-- The object which a wrapper unwraps to. -/
def UnwrappedClient.object : UnwrappedClient → PyObject
  | .keycloakAuthService provider => provider
  | .other client => client

/-- The object, if it is an instance of the type. -/
def UnwrappedClient.asInstance (isInstance : InstanceCheck)
    (expectedType : String) (client : UnwrappedClient) : Option PyObject :=
  if isInstance expectedType client.object then some client.object else none

/-- `get_service_client`. -/
def getServiceClient (serviceName : Name) : Dependency ServiceClient :=
  resolveServiceClient serviceName

section Dependencies

variable (isInstance : InstanceCheck)

/-- A dependency which unwraps the client of a service. -/
def getTypedClient (serviceName : Name) (expectedType : String) :
    Dependency PyObject :=
  unwrapServiceClient serviceName expectedType
    (UnwrappedClient.asInstance isInstance expectedType)

/-- `get_postgres_engine`. -/
def getPostgresEngine : Dependency PyObject :=
  getTypedClient isInstance "postgres" "Engine"

/-- `get_sqlite_engine`. -/
def getSqliteEngine : Dependency PyObject :=
  getTypedClient isInstance "sqlite" "Engine"

/-- `get_minio_client`. -/
def getMinioClient : Dependency PyObject :=
  getTypedClient isInstance "minio" "Minio"

/-- `get_milvus_client`. -/
def getMilvusClient : Dependency PyObject :=
  getTypedClient isInstance "milvus" "MilvusClient"

/-- `get_ollama_client`, whose type has the name `Client` in its package. -/
def getOllamaClient : Dependency PyObject :=
  getTypedClient isInstance "ollama" "Client"

/-- `get_langfuse_client`. -/
def getLangfuseClient : Dependency PyObject :=
  getTypedClient isInstance "langfuse" "Langfuse"

/-- `get_nats_connection_builder`. -/
def getNatsConnectionBuilder : Dependency PyObject := do
  match ← resolveServiceClient "nats" with
  | .natsConnectionBuilder builder => pure builder
  | .wrapper unwrap =>
      let client ← ofExcept unwrap
      match client.asInstance isInstance "NatsConnectionBuilder" with
      | none => raise (serviceTypeMismatch "nats" "NatsConnectionBuilder")
      | some builder => pure builder

/-- The dependencies which unwrap a client. -/
inductive ClientAccessor where
  | keycloakAuthService
  | postgresEngine
  | sqliteEngine
  | minioClient
  | milvusClient
  | ollamaClient
  | langfuseClient
  | natsConnectionBuilder
deriving DecidableEq

/-- The dependency of an accessor. -/
def ClientAccessor.dependency : ClientAccessor → Dependency PyObject
  | .keycloakAuthService => getKeycloakAuthService
  | .postgresEngine => getPostgresEngine isInstance
  | .sqliteEngine => getSqliteEngine isInstance
  | .minioClient => getMinioClient isInstance
  | .milvusClient => getMilvusClient isInstance
  | .ollamaClient => getOllamaClient isInstance
  | .langfuseClient => getLangfuseClient isInstance
  | .natsConnectionBuilder => getNatsConnectionBuilder isInstance

end Dependencies

/-! ## What a runtime gives -/

/-- The service of an accessor. -/
def ClientAccessor.serviceName : ClientAccessor → Name
  | .keycloakAuthService => "keycloak"
  | .postgresEngine => "postgres"
  | .sqliteEngine => "sqlite"
  | .minioClient => "minio"
  | .milvusClient => "milvus"
  | .ollamaClient => "ollama"
  | .langfuseClient => "langfuse"
  | .natsConnectionBuilder => "nats"

/-- The name of the type of an accessor. -/
def ClientAccessor.expectedType : ClientAccessor → String
  | .keycloakAuthService => "KeycloakAuthService"
  | .postgresEngine => "Engine"
  | .sqliteEngine => "Engine"
  | .minioClient => "Minio"
  | .milvusClient => "MilvusClient"
  | .ollamaClient => "Client"
  | .langfuseClient => "Langfuse"
  | .natsConnectionBuilder => "NatsConnectionBuilder"

/-- The client of a service, or why there is none. -/
def clientFrom (runtime : Option ServiceRuntime) (serviceName : Name) :
    Except PyExc ServiceClient :=
  match runtime with
  | none => .error (.httpException 503 "Service runtime is not available")
  | some runtime => do
      match ← runtime.get serviceName with
      | none => .error (serviceNotEnabled serviceName)
      | some client => .ok client

/-- The object in a client, or why there is none. -/
def ServiceClient.unwrapAs (serviceName : Name) (expectedType : String)
    (asInstance : UnwrappedClient → Option PyObject) :
    ServiceClient → Except PyExc PyObject
  | .natsConnectionBuilder _ =>
      .error (serviceTypeMismatch serviceName "wrapped service client")
  | .wrapper unwrap => do
      let client ← unwrap
      match asInstance client with
      | none => .error (serviceTypeMismatch serviceName expectedType)
      | some object => .ok object

/-- The object of an accessor in a client, or why there is none. -/
def ClientAccessor.objectIn (isInstance : InstanceCheck) :
    ClientAccessor → ServiceClient → Except PyExc PyObject
  | .natsConnectionBuilder, .natsConnectionBuilder builder => .ok builder
  | .keycloakAuthService, client =>
      client.unwrapAs "keycloak" "KeycloakAuthService"
        UnwrappedClient.asKeycloakAuthService
  | accessor, client =>
      client.unwrapAs accessor.serviceName accessor.expectedType
        (UnwrappedClient.asInstance isInstance accessor.expectedType)

/-- The object of an accessor, or why there is none. -/
def ClientAccessor.objectFrom (isInstance : InstanceCheck)
    (accessor : ClientAccessor) (runtime : Option ServiceRuntime) :
    Except PyExc PyObject := do
  let client ← clientFrom runtime accessor.serviceName
  accessor.objectIn isInstance client

section Runs

variable {isInstance : InstanceCheck} {state : AppState}

theorem run_resolveServiceClient (serviceName : Name) :
    (resolveServiceClient serviceName).run state =
      (clientFrom state.serviceRuntime serviceName, state) := by
  rw [resolveServiceClient, run_bind, getServiceRuntime, run_read_bind]
  cases state.serviceRuntime with
  | none => exact Eq.refl _
  | some runtime =>
      simp only [run_pure, run_bind, run_ofExcept, clientFrom]
      cases runtime.get serviceName with
      | error exception => exact Eq.refl _
      | ok client => cases client <;> exact Eq.refl _

theorem run_unwrapServiceClient (serviceName : Name) (expectedType : String)
    (asInstance : UnwrappedClient → Option PyObject) :
    (unwrapServiceClient serviceName expectedType asInstance).run state =
      (clientFrom state.serviceRuntime serviceName >>=
          ServiceClient.unwrapAs serviceName expectedType asInstance,
        state) := by
  rw [unwrapServiceClient, run_bind, resolveWrappedServiceClient, run_bind,
    run_resolveServiceClient]
  cases clientFrom state.serviceRuntime serviceName with
  | error exception => exact Eq.refl _
  | ok client =>
      cases client with
      | natsConnectionBuilder builder => exact Eq.refl _
      | wrapper unwrap =>
          simp only [run_pure, run_bind, run_ofExcept]
          cases unwrap with
          | error exception => exact Eq.refl _
          | ok client =>
              simp only [bind, Except.bind, ServiceClient.unwrapAs]
              cases asInstance client <;> exact Eq.refl _

theorem run_getNatsConnectionBuilder :
    (getNatsConnectionBuilder isInstance).run state =
      (clientFrom state.serviceRuntime "nats" >>=
          ClientAccessor.natsConnectionBuilder.objectIn isInstance,
        state) := by
  rw [getNatsConnectionBuilder, run_bind, run_resolveServiceClient]
  cases clientFrom state.serviceRuntime "nats" with
  | error exception => exact Eq.refl _
  | ok client =>
      cases client with
      | natsConnectionBuilder builder => exact Eq.refl _
      | wrapper unwrap =>
          simp only [run_bind, run_ofExcept]
          cases unwrap with
          | error exception => exact Eq.refl _
          | ok client =>
              simp only [bind, Except.bind, ClientAccessor.objectIn,
                ServiceClient.unwrapAs, ClientAccessor.expectedType]
              cases client.asInstance isInstance "NatsConnectionBuilder" <;>
                exact Eq.refl _

/-- A dependency reads the runtime which is published, and nothing else. -/
theorem run_dependency (accessor : ClientAccessor) :
    (accessor.dependency isInstance).run state =
      (accessor.objectFrom isInstance state.serviceRuntime, state) := by
  cases accessor with
  | natsConnectionBuilder => exact run_getNatsConnectionBuilder
  | keycloakAuthService => exact run_unwrapServiceClient _ _ _
  | postgresEngine => exact run_unwrapServiceClient _ _ _
  | sqliteEngine => exact run_unwrapServiceClient _ _ _
  | minioClient => exact run_unwrapServiceClient _ _ _
  | milvusClient => exact run_unwrapServiceClient _ _ _
  | ollamaClient => exact run_unwrapServiceClient _ _ _
  | langfuseClient => exact run_unwrapServiceClient _ _ _

end Runs

/-! ## Which clients are given -/

/-- The client holds this object for the accessor. -/
inductive ServiceClient.Holds (isInstance : InstanceCheck)
    (accessor : ClientAccessor) : ServiceClient → PyObject → Prop where
  | builder (builder : PyObject)
      (nats : accessor = .natsConnectionBuilder) :
      Holds isInstance accessor (.natsConnectionBuilder builder) builder
  | provider (provider : PyObject)
      (keycloak : accessor = .keycloakAuthService) :
      Holds isInstance accessor
        (.wrapper (.ok (.keycloakAuthService provider))) provider
  | instance_ (client : UnwrappedClient)
      (typed : accessor ≠ .keycloakAuthService)
      (accepted :
        isInstance accessor.expectedType client.object = true) :
      Holds isInstance accessor (.wrapper (.ok client)) client.object

section Holds

variable {isInstance : InstanceCheck} {accessor : ClientAccessor}
  {object : PyObject}

theorem ServiceClient.unwrapAs_eq_ok_iff {client : ServiceClient}
    {serviceName : Name} {expectedType : String}
    {asInstance : UnwrappedClient → Option PyObject} :
    client.unwrapAs serviceName expectedType asInstance = .ok object ↔
      ∃ unwrapped, client = .wrapper (.ok unwrapped) ∧
        asInstance unwrapped = some object := by
  cases client with
  | natsConnectionBuilder builder => exact ⟨nofun, nofun⟩
  | wrapper unwrap =>
      cases unwrap with
      | error exception => exact ⟨nofun, nofun⟩
      | ok unwrapped =>
          simp only [unwrapAs, bind, Except.bind, ServiceClient.wrapper.injEq,
            Except.ok.injEq, exists_eq_left']
          cases asInstance unwrapped with
          | none => exact ⟨nofun, nofun⟩
          | some found => simp only [Except.ok.injEq, Option.some.injEq]

theorem asInstance_eq_some_iff {client : UnwrappedClient}
    {expectedType : String} :
    client.asInstance isInstance expectedType = some object ↔
      isInstance expectedType client.object = true ∧
        client.object = object := by
  simp only [UnwrappedClient.asInstance, Option.ite_none_right_eq_some,
    Option.some.injEq]

theorem objectIn_eq_ok_iff {client : ServiceClient} :
    accessor.objectIn isInstance client = .ok object ↔
      client.Holds isInstance accessor object := by
  constructor
  · intro found
    cases accessor
    case natsConnectionBuilder =>
      cases client with
      | natsConnectionBuilder builder =>
          cases found
          exact .builder _ rfl
      | wrapper unwrap =>
          have unwrapped :
              (ServiceClient.wrapper unwrap).unwrapAs "nats"
                  "NatsConnectionBuilder"
                  (UnwrappedClient.asInstance isInstance
                    "NatsConnectionBuilder") =
                .ok object := found
          rcases ServiceClient.unwrapAs_eq_ok_iff.mp unwrapped with
            ⟨client, ⟨⟩, accepted⟩
          rcases asInstance_eq_some_iff.mp accepted with ⟨typed, rfl⟩
          exact .instance_ client (by decide) typed
    case keycloakAuthService =>
      rcases ServiceClient.unwrapAs_eq_ok_iff.mp found with
        ⟨unwrapped, rfl, accepted⟩
      cases unwrapped with
      | other object => cases accepted
      | keycloakAuthService provider =>
          cases accepted
          exact .provider _ rfl
    all_goals
      rcases ServiceClient.unwrapAs_eq_ok_iff.mp found with
        ⟨unwrapped, rfl, accepted⟩
      rcases asInstance_eq_some_iff.mp accepted with ⟨typed, rfl⟩
      exact .instance_ unwrapped (by decide) typed
  · rintro (⟨builder, rfl⟩ | ⟨provider, rfl⟩ | ⟨client, typed, accepted⟩)
    · exact Eq.refl _
    · exact Eq.refl _
    · have given := asInstance_eq_some_iff.mpr ⟨accepted, Eq.refl _⟩
      cases accessor
      case keycloakAuthService => exact (typed (Eq.refl _)).elim
      all_goals
        exact ServiceClient.unwrapAs_eq_ok_iff.mpr
          ⟨client, Eq.refl _, given⟩

theorem clientFrom_eq_ok_iff {runtime : Option ServiceRuntime}
    {serviceName : Name} {client : ServiceClient} :
    clientFrom runtime serviceName = .ok client ↔
      ∃ published, runtime = some published ∧
        published.get serviceName = .ok (some client) := by
  cases runtime with
  | none => exact ⟨nofun, nofun⟩
  | some runtime =>
      simp only [clientFrom, Option.some.injEq, exists_eq_left']
      cases runtime.get serviceName with
      | error exception => exact ⟨nofun, nofun⟩
      | ok found =>
          cases found with
          | none => exact ⟨nofun, nofun⟩
          | some found =>
              simp only [bind, Except.bind, Except.ok.injEq,
                Option.some.injEq]

/-- An object is given exactly if the runtime holds one of the type. -/
theorem objectFrom_eq_ok_iff {runtime : Option ServiceRuntime} :
    accessor.objectFrom isInstance runtime = .ok object ↔
      ∃ published client, runtime = some published ∧
        published.get accessor.serviceName = .ok (some client) ∧
          client.Holds isInstance accessor object := by
  simp only [ClientAccessor.objectFrom, bind_eq_ok_iff,
    clientFrom_eq_ok_iff, objectIn_eq_ok_iff]
  constructor
  · rintro ⟨client, ⟨published, same, got⟩, holds⟩
    exact ⟨published, client, same, got, holds⟩
  · rintro ⟨published, client, same, got, holds⟩
    exact ⟨client, ⟨published, same, got⟩, holds⟩

end Holds

/-! ## Which runtime is published -/

/-- Only a connection publishes a runtime. -/
theorem ResourceRegistry.leaves_serviceRuntime
    (registry : ResourceRegistry) :
    registry.Leaves AppState.serviceRuntime where
  record _ _ _ := rfl
  log _ _ := rfl
  appRuntime _ _ := rfl
  assignInstance _ _ _ := rfl
  popInstance _ _ := rfl
  register _ _ _ _ _ := rfl
  unregister _ _ _ := rfl

/-- The runtime, if its connection to the registry succeeds. -/
def ServiceRuntime.connectedTo (runtime : ServiceRuntime)
    (registry : ReadinessRegistry) : Option ServiceRuntime :=
  match runtime.refusal registry, runtime.keycloakProvider with
  | none, .ok _ => some runtime
  | _, _ => none

theorem ServiceRuntime.connectedTo_eq_some_iff
    {runtime published : ServiceRuntime} {registry : ReadinessRegistry} :
    runtime.connectedTo registry = some published ↔
      published = runtime ∧ runtime.missingChecks = [] ∧
        runtime.duplicateNames registry = [] ∧
          ∃ provider, runtime.keycloakProvider = .ok provider := by
  simp only [connectedTo, ← and_assoc (a := runtime.missingChecks = []),
    ← refusal_eq_none_iff]
  cases runtime.refusal registry with
  | some exception => simp
  | none =>
      cases runtime.keycloakProvider with
      | error exception => simp
      | ok provider => simp [eq_comm]

theorem serviceRuntime_configureServiceRuntime (runtime : ServiceRuntime)
    (state : AppState) :
    ((configureServiceRuntime runtime).run state).2.serviceRuntime =
      (runtime.connectedTo state.readinessRegistry).or
        state.serviceRuntime := by
  cases refused : runtime.refusal state.readinessRegistry with
  | some exception =>
      simp only [run_configureServiceRuntime_of_refused refused,
        ServiceRuntime.connectedTo, refused, Option.none_or]
  | none =>
      rcases run_configureServiceRuntime_of_accepted refused with
        ⟨registry, -, run⟩
      simp only [run, AppState.connect, ServiceRuntime.connectedTo, refused]
      cases runtime.keycloakProvider with
      | error exception => exact Eq.refl _
      | ok provider => exact Eq.refl _

namespace App

variable (app : App)

/-- The runtime which a run publishes: one which it assembles itself. -/
def publishes (state : AppState) (environment : LifespanEnvironment) :
    Option ServiceRuntime :=
  match app.arguments.runtime with
  | some _ => none
  | none =>
      (app.arguments.connecting environment).bind fun runtime =>
        runtime.connectedTo state.readinessRegistry

variable {app}
variable {state : AppState} {environment : LifespanEnvironment}

theorem serviceRuntime_afterRun :
    (app.afterRun state environment).serviceRuntime =
      (app.afterStartup state environment).serviceRuntime :=
  LifespanArguments.view_managedLifespan
    app.arguments.resources.leaves_serviceRuntime state

/-- A startup publishes its runtime, or leaves what was published. -/
theorem serviceRuntime_afterStartup :
    (app.afterStartup state environment).serviceRuntime =
      (app.publishes state environment).or state.serviceRuntime := by
  have leaves := app.arguments.resources.leaves_serviceRuntime
  simp only [publishes]
  cases injected : app.arguments.runtime with
  | some runtime =>
      rw [afterStartup, LifespanArguments.view_startup leaves,
        LifespanArguments.startRuntime, run_read_bind, injected]
      dsimp only
      split
      · apply (leaves.view_recorded _).trans
        exact preserves_checkRuntimeOnStartup (fun _ _ => Eq.refl _) _ _ _
      · exact Eq.refl _
  | none =>
      rw [afterStartup,
        LifespanArguments.view_startup_of_assembled leaves environment
          injected]
      cases app.arguments.connecting environment with
      | none => exact Eq.refl _
      | some runtime =>
          exact serviceRuntime_configureServiceRuntime runtime
            (LifespanArguments.connectingState state runtime)

/-- After runs, the runtime is the last one which they published. -/
theorem serviceRuntime_afterRuns (environments : List LifespanEnvironment)
    (state : AppState) :
    (environments.foldl app.afterRun state).serviceRuntime =
      (written app.afterRun app.publishes state
          environments).getLast?.or
        state.serviceRuntime :=
  view_foldl_eq_last_written
    (fun _ _ => serviceRuntime_afterRun.trans serviceRuntime_afterStartup)
    state environments

end App

theorem AppRequest.serviceRuntime_of_createApp {sdk : ServiceSdk}
    {request : AppRequest} {app : App}
    (created : request.createApp sdk = .ok app) :
    app.state.serviceRuntime = request.runtime := by
  rcases request.exists_steps_of_createApp sdk created with ⟨steps⟩
  have connects := AppRequest.connects_of_connectInjected steps.connects
  have published :
      app.state.serviceRuntime = steps.connected.serviceRuntime := by
    rw [steps.state, AppRequest.publishAuthProvider]
    cases request.authProvider <;> exact Eq.refl _
  rw [published]
  rw [AppRequest.Connects] at connects
  cases injected : request.runtime with
  | none =>
      rw [injected] at connects
      rw [connects]
      exact injected
  | some runtime =>
      rw [injected] at connects
      rcases connects with ⟨registry, provider, -, -, same⟩
      rw [same]

/-! ## Requests over all runs -/

/-- What requests are given where a runtime is served. -/
structure AppState.Gives (state : AppState)
    (served : Option ServiceRuntime) : Prop where
  clients :
    ∀ serviceName,
      (getServiceClient serviceName).run state =
        (clientFrom served serviceName, state)
  objects :
    ∀ isInstance (accessor : ClientAccessor),
      (accessor.dependency isInstance).run state =
        (accessor.objectFrom isInstance served, state)
  /-- An object is given exactly if the runtime holds one of the type. -/
  given :
    ∀ isInstance (accessor : ClientAccessor) object,
      ((accessor.dependency isInstance).run state).1 = .ok object ↔
        ∃ runtime client, served = some runtime ∧
          runtime.get accessor.serviceName = .ok (some client) ∧
            client.Holds isInstance accessor object

theorem AppState.gives (state : AppState) :
    state.Gives state.serviceRuntime where
  clients _ := run_resolveServiceClient _
  objects _ accessor := run_dependency accessor
  given isInstance accessor object := by
    simp only [run_dependency, objectFrom_eq_ok_iff]

/-- The last runtime which runs published, or else the injected one. -/
def App.servedRuntime (app : App) (injected : Option ServiceRuntime)
    (environments : List LifespanEnvironment) : Option ServiceRuntime :=
  (written app.afterRun app.publishes app.state
      environments).getLast?.or
    injected

/--
While a run serves requests, and after it has ended, requests are given the
clients of the runtime which the runs so far have published last, or else of
the injected one.
-/
theorem App.gives_over_runs {sdk : ServiceSdk} {request : AppRequest}
    {app : App} (created : request.createApp sdk = .ok app)
    (earlier : List LifespanEnvironment)
    (environment : LifespanEnvironment) :
    (app.afterStartup (earlier.foldl app.afterRun app.state)
          environment).Gives
        (app.servedRuntime request.runtime (earlier ++ [environment])) ∧
      ((earlier ++ [environment]).foldl app.afterRun app.state).Gives
        (app.servedRuntime request.runtime (earlier ++ [environment])) := by
  have runs :
      ((earlier ++ [environment]).foldl app.afterRun
          app.state).serviceRuntime =
        app.servedRuntime request.runtime (earlier ++ [environment]) := by
    rw [App.serviceRuntime_afterRuns,
      AppRequest.serviceRuntime_of_createApp created, servedRuntime]
  have startup :
      (app.afterStartup (earlier.foldl app.afterRun app.state)
          environment).serviceRuntime =
        app.servedRuntime request.runtime (earlier ++ [environment]) := by
    rw [← runs, ← App.serviceRuntime_afterRun, List.foldl_concat]
  constructor
  · rw [← startup]
    exact AppState.gives _
  · rw [← runs]
    exact AppState.gives _

/--
The second startup is refused, as the check of the first runtime is still
registered, and requests are given the client of the closed runtime.
-/
theorem keycloakApp_gives :
    (∃ exception,
        ((keycloakApp.arguments.startup (.quiet keycloakRuntime)).run
            { keycloakApp.afterRun keycloakApp.state
                (.quiet keycloakRuntime) with
              appRuntime := none }).1 =
          .error exception) ∧
      (getKeycloakAuthService.run
          (keycloakApp.afterStartup
            (keycloakApp.afterRun keycloakApp.state
              (.quiet keycloakRuntime))
            (.quiet keycloakRuntime))).1 =
        .ok { ref := 2 } := by
  refine ⟨⟨_, Eq.refl _⟩, ?_⟩
  have created :
      (explicitRequest (.enabling ["keycloak"])).createApp .accepting =
        .ok keycloakApp := rfl
  have gives :=
    (App.gives_over_runs created [.quiet keycloakRuntime]
      (.quiet keycloakRuntime)).1
  apply (gives.given (fun _ _ => true) .keycloakAuthService _).mpr
  exact
    ⟨keycloakRuntime, _, Eq.refl _, Eq.refl _,
      .provider { ref := 2 } (Eq.refl _)⟩

end FastapiCore
