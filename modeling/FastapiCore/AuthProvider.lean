import FastapiCore.Dependencies
import FastapiCore.Factory
import FastapiCore.Library.Transition
import FastapiCore.LifespanViews

/-!
# The auth provider of an application

`create_app` publishes an explicit auth provider after it has connected an
injected runtime.  A runtime which the lifespan assembles is connected later,
and the provider of its Keycloak client replaces the explicit one.
-/

namespace FastapiCore

open Library
open Library.Effect

/-- No run changes the auth provider after its runtime is connected. -/
theorem ResourceRegistry.leaves_authProvider (registry : ResourceRegistry) :
    registry.Leaves AppState.authProvider where
  record _ _ _ := rfl
  log _ _ := rfl
  appRuntime _ _ := rfl
  assignInstance _ _ _ := rfl
  popInstance _ _ := rfl
  register _ _ _ _ _ := rfl
  unregister _ _ _ := rfl

theorem authProvider_connect (state : AppState) (runtime : ServiceRuntime)
    (registry : ReadinessRegistry) :
    (state.connect runtime registry).authProvider =
      match runtime.keycloakProvider with
      | .ok (some provider) => some provider
      | _ => state.authProvider := by
  rw [AppState.connect]
  cases runtime.keycloakProvider with
  | error exception => rfl
  | ok provider => cases provider <;> rfl

namespace App

variable (app : App)

/-- The state after the startup of a run, in which requests are served. -/
def afterStartup (state : AppState) (environment : LifespanEnvironment) :
    AppState :=
  ((app.arguments.startup environment).run
    { state with appRuntime := app.arguments.runtime }).2

/-- No runtime with another provider than this one is connected. -/
def ConnectsNoOther (provider : PyObject) (state : AppState)
    (environment : LifespanEnvironment) : Prop :=
  app.arguments.runtime = none →
    ∀ runtime, app.arguments.Connects environment state runtime →
      ∀ other, runtime.keycloakProvider = .ok (some other) →
        other = provider

variable {app}
variable {state : AppState} {environment : LifespanEnvironment}
variable {provider : PyObject}

theorem authProvider_afterRun :
    (app.afterRun state environment).authProvider =
      (app.afterStartup state environment).authProvider :=
  LifespanArguments.view_managedLifespan
    app.arguments.resources.leaves_authProvider state

/-- An injected runtime is not connected again. -/
theorem authProvider_afterStartup_of_injected {runtime : ServiceRuntime}
    (injected : app.arguments.runtime = some runtime) :
    (app.afterStartup state environment).authProvider =
      state.authProvider := by
  rw [afterStartup,
    LifespanArguments.view_startup
      app.arguments.resources.leaves_authProvider,
    LifespanArguments.startRuntime, run_read_bind, injected]
  dsimp only
  split
  · apply
      (app.arguments.resources.leaves_authProvider.view_recorded
        _).trans
    rw [checkRuntimeOnStartup]
    split <;> rfl
  · rfl

/-- The provider of the runtime which a run connects replaces another. -/
theorem authProvider_afterStartup_of_connects {runtime : ServiceRuntime}
    (assembled : app.arguments.runtime = none)
    (connects : app.arguments.Connects environment state runtime) :
    (app.afterStartup state environment).authProvider =
      match runtime.keycloakProvider with
      | .ok (some provider) => some provider
      | _ => state.authProvider := by
  rcases run_configureServiceRuntime_of_accepted connects.accepted with
    ⟨registry, -, configured⟩
  rw [afterStartup,
    LifespanArguments.view_startup_of_assembled
      app.arguments.resources.leaves_authProvider environment assembled,
    connects.connecting]
  dsimp only
  rw [configured, authProvider_connect]
  rfl

/-- Without a connection, the auth provider is the one before the run. -/
theorem authProvider_afterStartup_of_not_connects
    (assembled : app.arguments.runtime = none)
    (disconnected :
      ∀ runtime, ¬app.arguments.Connects environment state runtime) :
    (app.afterStartup state environment).authProvider =
      state.authProvider := by
  rw [afterStartup,
    LifespanArguments.view_startup_of_assembled
      app.arguments.resources.leaves_authProvider environment assembled]
  cases connecting : app.arguments.connecting environment with
  | none => rfl
  | some runtime =>
      dsimp only
      cases refused :
          runtime.refusal
            (LifespanArguments.connectingState state
              runtime).readinessRegistry with
      | some exception =>
          rw [run_configureServiceRuntime_of_refused refused]
          rfl
      | none =>
          rcases ServiceRuntime.refusal_eq_none_iff.mp refused with
            ⟨complete, free⟩
          exact (disconnected runtime ⟨connecting, complete, free⟩).elim

/-- A startup never takes the auth provider away. -/
theorem exists_authProvider_afterStartup
    (stored : state.authProvider = some provider) :
    ∃ other, (app.afterStartup state environment).authProvider =
      some other := by
  cases injected : app.arguments.runtime with
  | some runtime =>
      exact
        ⟨provider,
          (authProvider_afterStartup_of_injected injected).trans stored⟩
  | none =>
      by_cases connection :
        ∃ runtime, app.arguments.Connects environment state runtime
      · rcases connection with ⟨runtime, connects⟩
        rw [authProvider_afterStartup_of_connects injected connects]
        split
        · exact ⟨_, rfl⟩
        · exact ⟨provider, stored⟩
      · exact
          ⟨provider,
            (authProvider_afterStartup_of_not_connects injected
              (not_exists.mp connection)).trans stored⟩

/-- Exactly another provider of a connected runtime replaces this one. -/
theorem authProvider_afterStartup_iff
    (stored : state.authProvider = some provider) :
    (app.afterStartup state environment).authProvider = some provider ↔
      app.ConnectsNoOther provider state environment := by
  cases injected : app.arguments.runtime with
  | some runtime =>
      rw [authProvider_afterStartup_of_injected injected, stored]
      refine ⟨fun _ absent => ?_, fun _ => rfl⟩
      rw [injected] at absent
      cases absent
  | none =>
      by_cases connection :
        ∃ runtime, app.arguments.Connects environment state runtime
      · rcases connection with ⟨runtime, connects⟩
        have unique (other : ServiceRuntime)
            (also : app.arguments.Connects environment state other) :
            other = runtime :=
          Option.some.inj (also.connecting.symm.trans connects.connecting)
        rw [authProvider_afterStartup_of_connects injected connects,
          stored]
        constructor
        · intro kept _ other also found provided
          rw [unique other also] at provided
          rw [provided] at kept
          exact Option.some.inj kept
        · intro same
          split
          · next found provided =>
              rw [same injected runtime connects found provided]
          · rfl
      · have disconnected := not_exists.mp connection
        rw [authProvider_afterStartup_of_not_connects injected
          disconnected, stored]
        refine ⟨fun _ _ runtime connects => ?_, fun _ => rfl⟩
        exact (disconnected runtime connects).elim

/-- The explicit provider is the one which a created application has. -/
theorem authProvider_of_created {request : AppRequest}
    (created : request.Created app)
    (explicit : request.authProvider = some provider) :
    app.state.authProvider = some provider := by
  rcases created.state with ⟨initial, connected, -, published⟩
  rw [published, AppRequest.publishAuthProvider, explicit]

end App

/--
After runs which have connected no other provider, every request of the next
run gets the explicit auth provider exactly if that run connects no other
provider either.
-/
theorem App.getAuthProvider_iff {sdk : ServiceSdk} {request : AppRequest}
    {app : App} {provider : PyObject}
    (createdApp : request.createApp sdk = .ok app)
    (explicit : request.authProvider = some provider)
    {earlier : List LifespanEnvironment}
    (kept :
      Along app.afterRun (app.ConnectsNoOther provider) app.state earlier)
    (environment : LifespanEnvironment) :
    (∀ requests,
        (getAuthProvider.run
            (afterRequests requests
              (app.afterStartup (earlier.foldl app.afterRun app.state)
                environment))).1 =
          .ok provider) ↔
      app.ConnectsNoOther provider
        (earlier.foldl app.afterRun app.state) environment := by
  have created := request.created_of_createApp sdk createdApp
  have stored :
      (earlier.foldl app.afterRun app.state).authProvider =
        some provider := by
    refine
      Along.invariant_foldl
        (fun state => state.authProvider = some provider)
        (App.authProvider_of_created created explicit) kept ?_
    intro state environment stored connectsNoOther
    rw [App.authProvider_afterRun]
    exact
      (App.authProvider_afterStartup_iff stored).mpr connectsNoOther
  rw [← App.authProvider_afterStartup_iff stored]
  constructor
  · intro returned
    have started :
        ∃ other,
          (app.afterStartup (earlier.foldl app.afterRun app.state)
              environment).authProvider =
            some other :=
      App.exists_authProvider_afterStartup stored
    rcases started with ⟨other, found⟩
    have same := returned 0
    rw [getAuthProvider_afterRequests found] at same
    rw [found, Except.ok.inj same]
  · exact fun started requests =>
      getAuthProvider_afterRequests started requests

/-! ## Runs with and without a Keycloak client -/

/-- A request with an explicit provider. -/
def explicitRequest (config : AppConfig) : AppRequest where
  config
  authProvider := some { ref := 1 }

/-- The application of this request without services. -/
def explicitApp : App where
  state :=
    { readinessRegistry := .new none, authProvider := some { ref := 1 } }
  arguments :=
    { config := .enabling []
      resources := .empty }

/-- The fourth request of the second run gets the explicit provider. -/
theorem explicitApp_getAuthProvider :
    (getAuthProvider.run
        (afterRequests 3
          (explicitApp.afterStartup
            (explicitApp.afterRun explicitApp.state (.quiet .empty))
            (.quiet .empty)))).1 =
      .ok { ref := 1 } := by
  have created :
      (explicitRequest (.enabling [])).createApp .accepting =
        .ok explicitApp :=
    rfl
  have noOther (state : AppState) :
      explicitApp.ConnectsNoOther { ref := 1 } state (.quiet .empty) := by
    intro _ runtime connects other provided
    rw [← Option.some.inj connects.connecting] at provided
    cases provided
  have kept :
      Along explicitApp.afterRun
        (explicitApp.ConnectsNoOther { ref := 1 }) explicitApp.state
        [.quiet .empty] :=
    ⟨noOther _, trivial⟩
  exact
    (App.getAuthProvider_iff created rfl kept (.quiet .empty)).mpr
      (noOther _) 3

/-- The application of this request with the Keycloak service. -/
def keycloakApp : App where
  state :=
    { readinessRegistry := .new none, authProvider := some { ref := 1 } }
  arguments :=
    { config := .enabling ["keycloak"]
      runtimePlan :=
        some
          { services := [{ service := "keycloak", required := false }]
            oneOf := []
            healthcheck :=
              buildHealthcheckPolicy (.enabling ["keycloak"]) }
      resources := .empty }

/-- A runtime whose Keycloak client unwraps to another provider. -/
def keycloakRuntime : ServiceRuntime where
  selectedServices := ["keycloak"]
  checks := { entries := [("keycloak", .function 1)], nodup := by decide }
  get _ := .ok (some (.wrapper (.ok (.keycloakAuthService { ref := 2 }))))

/-- An assembled Keycloak client replaces the explicit provider. -/
theorem not_forall_getAuthProvider :
    ¬∀ (sdk : ServiceSdk) (request : AppRequest) (app : App)
        (provider : PyObject) (earlier : List LifespanEnvironment)
        (environment : LifespanEnvironment),
      request.createApp sdk = .ok app →
      request.authProvider = some provider →
      ((app.arguments.startup environment).run
          { earlier.foldl app.afterRun app.state with
            appRuntime := app.arguments.runtime }).1 =
        .ok ⟨⟩ →
      ∀ requests,
        (getAuthProvider.run
            (afterRequests requests
              (app.afterStartup (earlier.foldl app.afterRun app.state)
                environment))).1 =
          .ok provider := by
  intro returned
  have replaced :
      (Except.ok { ref := 2 } : Except PyExc PyObject) =
        .ok { ref := 1 } :=
    returned .accepting
      (explicitRequest (.enabling ["keycloak"])) keycloakApp
      { ref := 1 } [] (.quiet keycloakRuntime) rfl rfl rfl 0
  cases replaced

end FastapiCore
