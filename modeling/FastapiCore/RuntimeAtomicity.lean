import FastapiCore.RuntimeConnection

/-!
# Connecting a runtime is all or nothing

`configure_service_runtime` checks the runtime against the registry before it
changes anything.  The check is made once, and the registrations which follow
fail for reasons of their own; that none of them does is what the check is
for.  A Keycloak client which raises would come too late, so the runtime is
assumed to return its clients.
-/

namespace FastapiCore

open Library
open Library.Effect

namespace ServiceRuntime

variable (runtime : ServiceRuntime)

/-- Neither `get` nor the `unwrap` of a client raises. -/
structure ReturnsClients : Prop where
  get : ∀ service, ∃ client, runtime.get service = .ok client
  unwrap :
    ∀ service unwrap, runtime.get service = .ok (some (.wrapper unwrap)) →
      ∃ client, unwrap = .ok client

/-- The Keycloak client of the runtime unwraps to this provider. -/
def HasKeycloak (provider : PyObject) : Prop :=
  runtime.get keycloakService =
    .ok (some (.wrapper (.ok (.keycloakAuthService provider))))

/-- Some selected service has no check, or a check has a taken name. -/
def Refused (registry : ReadinessRegistry) : Prop :=
  (∃ service ∈ runtime.selectedServices, service ∉ runtime.checks.keys) ∨
    ∃ service ∈ runtime.checks.keys, service ∈ registry.names

/-- The entry of a service in the registry. -/
def readinessEntry (service : Name) (check : Callable) :
    Name × ReadinessCheckSpec :=
  (service,
    { name := service
      check := check
      required := service ∈ runtime.requiredServices
      redactErrors := true })

end ServiceRuntime

/-- The runtime is connected: what has changed, and nothing else. -/
structure AppState.Connected (before : AppState) (runtime : ServiceRuntime)
    (after : AppState) : Prop where
  registry :
    after.readinessRegistry.specs.entries =
      before.readinessRegistry.specs.entries ++
        runtime.checks.entries.map fun entry =>
          runtime.readinessEntry entry.1 entry.2
  defaultTimeout :
    after.readinessRegistry.defaultTimeoutSeconds =
      before.readinessRegistry.defaultTimeoutSeconds
  published : after.serviceRuntime = some runtime
  keycloak :
    ∀ provider, runtime.HasKeycloak provider →
      after.authProvider = some provider ∧
        after.allowedAlgorithms =
          before.allowedAlgorithms.insert provider.ref ["RS256"]
  noKeycloak :
    (∀ provider, ¬runtime.HasKeycloak provider) →
      after.authProvider = before.authProvider ∧
        after.allowedAlgorithms = before.allowedAlgorithms
  progress : after.progress = before.progress
  startupHealthcheckResult :
    after.startupHealthcheckResult = before.startupHealthcheckResult
  logs : after.logs = before.logs

/-- All of a connection or nothing of it, and when. -/
structure AllOrNothing (runtime : ServiceRuntime) (state : AppState)
    (result : Except PyExc PUnit × AppState) : Prop where
  nothing :
    ∀ exception, result.1 = .error exception → result.2 = state
  all : result.1 = .ok ⟨⟩ → state.Connected runtime result.2
  raises :
    (∃ exception, result.1 = .error exception) ↔
      runtime.Refused state.readinessRegistry

/-! ## The refusal -/

namespace ServiceRuntime

variable {runtime : ServiceRuntime} {registry : ReadinessRegistry}

theorem missingChecks_eq_nil_iff :
    runtime.missingChecks = [] ↔
      ∀ service ∈ runtime.selectedServices,
        service ∈ runtime.checks.keys := by
  rw [missingChecks, List.dedup_eq_nil, List.filter_eq_nil_iff]
  simp

/-- The two checks refuse what they are meant to refuse. -/
theorem refusal_eq_none_iff_not_refused :
    runtime.refusal registry = none ↔ ¬runtime.Refused registry := by
  rw [refusal_eq_none_iff, missingChecks_eq_nil_iff,
    duplicateNames_eq_nil_iff, Refused, not_or]
  apply and_congr
  · simp
  · simp

/-! ## The Keycloak client -/

/-- A runtime which returns its clients has at most one provider. -/
theorem exists_keycloakProvider (returns : runtime.ReturnsClients) :
    ∃ provider, runtime.keycloakProvider = .ok provider ∧
      ∀ found, provider = some found ↔ runtime.HasKeycloak found := by
  rcases returns.get keycloakService with ⟨client, got⟩
  rw [keycloakProvider]
  simp only [HasKeycloak, got]
  cases client with
  | none => exact ⟨none, rfl, by simp⟩
  | some service =>
      cases service with
      | natsConnectionBuilder builder => exact ⟨none, rfl, by simp⟩
      | wrapper unwrap =>
          rcases returns.unwrap keycloakService unwrap got with
            ⟨unwrapped, rfl⟩
          cases unwrapped with
          | other object => exact ⟨none, rfl, by simp⟩
          | keycloakAuthService provider =>
              exact ⟨some provider, rfl, by simp⟩

end ServiceRuntime

/-! ## The connection -/

theorem AppState.connected_connect {runtime : ServiceRuntime}
    {state : AppState} {registry : ReadinessRegistry}
    (returns : runtime.ReturnsClients)
    (entries :
      registry.specs.entries =
        state.readinessRegistry.specs.entries ++
          runtime.readinessSpecs.map fun spec => (spec.name, spec))
    (timeouts :
      registry.defaultTimeoutSeconds =
        state.readinessRegistry.defaultTimeoutSeconds) :
    state.Connected runtime (state.connect runtime registry) := by
  rcases ServiceRuntime.exists_keycloakProvider returns with
    ⟨provider, found, unique⟩
  have appended :
      registry.specs.entries =
        state.readinessRegistry.specs.entries ++
          runtime.checks.entries.map fun entry =>
            runtime.readinessEntry entry.1 entry.2 := by
    rw [entries, ServiceRuntime.readinessSpecs, List.map_map]
    rfl
  rw [AppState.connect, found]
  cases provider with
  | none =>
      have none_ : ∀ keycloak, ¬runtime.HasKeycloak keycloak := by
        intro keycloak has
        cases (unique keycloak).mpr has
      exact
        { registry := appended
          defaultTimeout := timeouts
          published := rfl
          keycloak := fun keycloak has => (none_ keycloak has).elim
          noKeycloak := fun _ => ⟨rfl, rfl⟩
          progress := rfl
          startupHealthcheckResult := rfl
          logs := rfl }
  | some keycloak =>
      have has : runtime.HasKeycloak keycloak := (unique keycloak).mp rfl
      have only :
          ∀ other, runtime.HasKeycloak other → keycloak = other := by
        intro other hasOther
        exact Option.some.inj ((unique other).mpr hasOther)
      exact
        { registry := appended
          defaultTimeout := timeouts
          published := rfl
          keycloak := by
            intro other hasOther
            cases only other hasOther
            exact ⟨rfl, rfl⟩
          noKeycloak := fun none_ => (none_ keycloak has).elim
          progress := rfl
          startupHealthcheckResult := rfl
          logs := rfl }

theorem preserves_defaultTimeout (runtime : ServiceRuntime) :
    Preserves
      (fun state => state.readinessRegistry.defaultTimeoutSeconds)
      (configureServiceRuntime runtime) := by
  apply preserves_configureServiceRuntime_of
  · intro state spec next registered
    exact (ReadinessRegistry.register_eq_ok_iff.mp registered).2.2.2.1
  · exact fun _ _ _ => rfl
  · exact fun _ _ => rfl

/--
For every runtime which returns its clients and every state, connecting the
runtime either raises and changes nothing, or connects it in full.
-/
theorem configureServiceRuntime_allOrNothing (runtime : ServiceRuntime)
    (state : AppState) (returns : runtime.ReturnsClients) :
    AllOrNothing runtime state
      ((configureServiceRuntime runtime).run state) := by
  have refusal :=
    @ServiceRuntime.refusal_eq_none_iff_not_refused runtime
      state.readinessRegistry
  cases refused : runtime.refusal state.readinessRegistry with
  | some exception =>
      rw [run_configureServiceRuntime_of_refused refused]
      rw [refused] at refusal
      have isRefused : runtime.Refused state.readinessRegistry := by
        by_contra accepted
        cases refusal.mpr accepted
      refine ⟨fun _ _ => rfl, by rintro ⟨⟩, ?_⟩
      exact ⟨fun _ => isRefused, fun _ => ⟨_, rfl⟩⟩
  | none =>
      rcases run_configureServiceRuntime_of_accepted refused with
        ⟨registry, entries, ran⟩
      have timeouts :
          registry.defaultTimeoutSeconds =
            state.readinessRegistry.defaultTimeoutSeconds := by
        have kept := preserves_defaultTimeout runtime state
        rw [ran] at kept
        rw [← AppState.readinessRegistry_connect state runtime registry]
        exact kept
      rcases ServiceRuntime.exists_keycloakProvider returns with
        ⟨provider, found, -⟩
      rw [ran, found]
      refine ⟨by rintro _ ⟨⟩, fun _ => ?_, ?_, fun isRefused => ?_⟩
      · exact AppState.connected_connect returns entries timeouts
      · rintro ⟨_, ⟨⟩⟩
      · exact (refusal.mp refused isRefused).elim

/-! ## A Keycloak runtime -/

/-- A runtime with one service, whose client wraps a provider. -/
def keycloakOnlyRuntime : ServiceRuntime where
  selectedServices := [keycloakService]
  requiredServices := [keycloakService]
  checks := OrderedDict.empty.insert keycloakService (.function 1)
  get := fun service =>
    if service = keycloakService then
      .ok (some (.wrapper (.ok (.keycloakAuthService { ref := 7 }))))
    else .ok none

theorem returnsClients_keycloakOnlyRuntime :
    keycloakOnlyRuntime.ReturnsClients where
  get service := by
    rw [keycloakOnlyRuntime]
    dsimp only
    split
    · exact ⟨_, rfl⟩
    · exact ⟨_, rfl⟩
  unwrap service unwrap got := by
    rw [keycloakOnlyRuntime] at got
    dsimp only at got
    split at got
    · cases got
      exact ⟨_, rfl⟩
    · cases got

/-- It is connected to an application without checks. -/
theorem allOrNothing_keycloakOnlyRuntime :
    AllOrNothing keycloakOnlyRuntime { readinessRegistry := .new none }
      ((configureServiceRuntime keycloakOnlyRuntime).run
        { readinessRegistry := .new none }) :=
  configureServiceRuntime_allOrNothing keycloakOnlyRuntime _
    returnsClients_keycloakOnlyRuntime

end FastapiCore
