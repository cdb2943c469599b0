import FastapiCore.Library.FallibleLoop
import FastapiCore.LifespanBlocks

/-!
# Connecting a service runtime

`configureServiceRuntime` refuses a runtime before it changes anything.  A
runtime which is not refused has all its checks registered, whatever the
Keycloak client does afterwards; a Keycloak client which raises keeps the
runtime and its provider unpublished, but leaves the checks in the registry.
-/

namespace FastapiCore

open Library
open Library.Effect

namespace ServiceRuntime

variable (runtime : ServiceRuntime)

/-- Why `configure_service_runtime` refuses a runtime, if it does. -/
def refusal (registry : ReadinessRegistry) : Option PyExc :=
  match runtime.missingChecks.insertionSort (· ≤ ·) with
  | [] =>
      match
        (runtime.duplicateNames registry).insertionSort (· ≤ ·)
      with
      | [] => none
      | name :: _ =>
          some
            (.valueError
              ("readiness check '" ++ name ++ "' is already registered"))
  | missing =>
      some
        (.attributeError
          ("Runtime services do not expose callable checks: " ++
            ", ".intercalate missing))

/-- The provider which the Keycloak client of a runtime unwraps to. -/
def keycloakProvider : Except PyExc (Option PyObject) := do
  match ← runtime.get keycloakService with
  | some (.wrapper unwrap) =>
      match ← unwrap with
      | .keycloakAuthService provider => pure (some provider)
      | .other _ => pure none
  | _ => pure none

end ServiceRuntime

/-- The state after a provider is published, if there is one. -/
def AppState.publish (state : AppState) : Option PyObject → AppState
  | none => state
  | some provider =>
      { state with
        allowedAlgorithms :=
          state.allowedAlgorithms.insert provider.ref ["RS256"]
        authProvider := some provider }

theorem insertionSort_eq_nil_iff (names : List Name) :
    names.insertionSort (· ≤ ·) = [] ↔ names = [] := by
  rw [← List.length_eq_zero_iff, List.length_insertionSort,
    List.length_eq_zero_iff]

/-- A runtime is accepted if its checks are complete and their names free. -/
theorem ServiceRuntime.refusal_eq_none_iff {runtime : ServiceRuntime}
    {registry : ReadinessRegistry} :
    runtime.refusal registry = none ↔
      runtime.missingChecks = [] ∧
        runtime.duplicateNames registry = [] := by
  rw [refusal, ← insertionSort_eq_nil_iff runtime.missingChecks,
    ← insertionSort_eq_nil_iff (runtime.duplicateNames registry)]
  cases runtime.missingChecks.insertionSort (· ≤ ·) with
  | nil =>
      cases (runtime.duplicateNames registry).insertionSort (· ≤ ·) with
      | nil => simp
      | cons name rest => simp
  | cons name rest => simp

theorem run_publishKeycloak (runtime : ServiceRuntime) (state : AppState) :
    (publishKeycloak runtime).run state =
      match runtime.keycloakProvider with
      | .ok provider => (.ok ⟨⟩, state.publish provider)
      | .error exception => (.error exception, state) := by
  rw [publishKeycloak, ServiceRuntime.keycloakProvider, run_bind,
    run_ofExcept]
  cases runtime.get keycloakService with
  | error exception => rfl
  | ok client =>
      match client with
      | none => rfl
      | some (.natsConnectionBuilder _) => rfl
      | some (.wrapper unwrap) =>
          dsimp only
          rw [run_bind, run_ofExcept]
          match unwrap with
          | .error exception => rfl
          | .ok (.keycloakAuthService provider) => rfl
          | .ok (.other _) => rfl

/-- Specs which the registry accepts are registered one after the other. -/
theorem run_forM_registerSpec (specs : List ReadinessCheckSpec)
    {state : AppState} {final : ReadinessRegistry}
    (registered :
      specs.foldlM ReadinessRegistry.register state.readinessRegistry =
        .ok final) :
    (forM specs registerSpec).run state =
      (.ok ⟨⟩, state.setReadiness final) := by
  induction specs generalizing state with
  | nil =>
      cases registered
      rfl
  | cons spec rest induction =>
      rw [List.foldlM_cons] at registered
      rcases bind_eq_ok_iff.mp registered with ⟨next, first, others⟩
      have head :
          (registerSpec spec).run state =
            (.ok ⟨⟩, state.setReadiness next) := by
        rw [registerSpec, run_read_bind, first]
        rfl
      rw [List.forM_cons, run_bind, head]
      exact @induction (state.setReadiness next) others

/-- The state after an accepted runtime is connected. -/
def AppState.connect (state : AppState) (runtime : ServiceRuntime)
    (registry : ReadinessRegistry) : AppState :=
  match runtime.keycloakProvider with
  | .ok provider =>
      { (state.setReadiness registry).publish provider with
        serviceRuntime := some runtime }
  | .error _ => state.setReadiness registry

theorem AppState.readinessRegistry_connect (state : AppState)
    (runtime : ServiceRuntime) (registry : ReadinessRegistry) :
    (state.connect runtime registry).readinessRegistry = registry := by
  rw [AppState.connect]
  cases runtime.keycloakProvider with
  | error exception => rfl
  | ok provider => cases provider <;> rfl

theorem run_configureServiceRuntime_of_refused {runtime : ServiceRuntime}
    {state : AppState} {exception : PyExc}
    (refused :
      runtime.refusal state.readinessRegistry = some exception) :
    (configureServiceRuntime runtime).run state =
      (.error exception, state) := by
  rw [configureServiceRuntime, run_read_bind, run_bind,
    refuseMissingChecks]
  rw [ServiceRuntime.refusal] at refused
  cases missing : runtime.missingChecks.insertionSort (· ≤ ·) with
  | cons name rest =>
      rw [missing] at refused
      cases refused
      rfl
  | nil =>
      rw [missing] at refused
      show Effect.run
          (refuseDuplicateNames runtime state.readinessRegistry >>= _)
          state = _
      rw [run_bind, refuseDuplicateNames]
      cases duplicates :
          (runtime.duplicateNames
            state.readinessRegistry).insertionSort (· ≤ ·) with
      | nil =>
          rw [duplicates] at refused
          cases refused
      | cons name rest =>
          rw [duplicates] at refused
          cases refused
          rfl

/-- An accepted runtime is connected; only its Keycloak client may raise. -/
theorem run_configureServiceRuntime_of_accepted {runtime : ServiceRuntime}
    {state : AppState}
    (accepted : runtime.refusal state.readinessRegistry = none) :
    ∃ registry : ReadinessRegistry,
      registry.specs.entries =
          state.readinessRegistry.specs.entries ++
            runtime.readinessSpecs.map (fun spec => (spec.name, spec)) ∧
        (configureServiceRuntime runtime).run state =
          (runtime.keycloakProvider.map fun _ => ⟨⟩,
            state.connect runtime registry) := by
  rcases ServiceRuntime.refusal_eq_none_iff.mp accepted with
    ⟨complete, free⟩
  have fresh :
      ∀ spec ∈ runtime.readinessSpecs,
        spec.name ∉ state.readinessRegistry.names := by
    intro spec member
    apply runtime.duplicateNames_eq_nil_iff.mp free
    rw [← runtime.names_readinessSpecs]
    exact List.mem_map_of_mem member
  rcases
    ReadinessRegistry.exists_foldlM_register runtime.readinessSpecs
      (fun spec => runtime.registeredAs_of_mem_readinessSpecs)
      (runtime.names_readinessSpecs ▸ runtime.checks.nodup_keys) fresh
  with ⟨registry, registered, entries⟩
  refine ⟨registry, entries, ?_⟩
  have passesMissing :
      (refuseMissingChecks runtime).run state = (.ok ⟨⟩, state) := by
    rw [refuseMissingChecks, (insertionSort_eq_nil_iff _).mpr complete]
    rfl
  have passesDuplicates :
      (refuseDuplicateNames runtime state.readinessRegistry).run state =
        (.ok ⟨⟩, state) := by
    rw [refuseDuplicateNames, (insertionSort_eq_nil_iff _).mpr free]
    rfl
  rw [configureServiceRuntime, run_read_bind, run_bind, passesMissing]
  dsimp only
  rw [run_bind, passesDuplicates]
  dsimp only
  rw [run_bind, run_forM_registerSpec _ registered]
  dsimp only
  rw [run_bind, run_publishKeycloak, AppState.connect]
  cases runtime.keycloakProvider <;> rfl

/-- A runtime which is connected adds the names of its checks. -/
theorem names_of_configured {runtime : ServiceRuntime}
    {state later : AppState}
    (configured :
      (configureServiceRuntime runtime).run state = (.ok ⟨⟩, later)) :
    later.readinessRegistry.names =
      state.readinessRegistry.names ++ runtime.checks.keys := by
  cases refused : runtime.refusal state.readinessRegistry with
  | some exception =>
      rw [run_configureServiceRuntime_of_refused refused] at configured
      cases configured
  | none =>
      rcases run_configureServiceRuntime_of_accepted refused with
        ⟨registry, entries, run⟩
      rw [run, Prod.mk.injEq] at configured
      rw [← configured.2, AppState.readinessRegistry_connect,
        ReadinessRegistry.names, OrderedDict.keys, entries,
        List.map_append, List.map_map, ← runtime.names_readinessSpecs]
      rfl

/-- How a connection ends depends on the registry through its refusal. -/
theorem outcome_configureServiceRuntime {runtime : ServiceRuntime}
    {left right : AppState}
    (same :
      runtime.refusal left.readinessRegistry =
        runtime.refusal right.readinessRegistry) :
    ((configureServiceRuntime runtime).run left).1 =
      ((configureServiceRuntime runtime).run right).1 := by
  cases refused : runtime.refusal right.readinessRegistry with
  | some exception =>
      rw [run_configureServiceRuntime_of_refused refused,
        run_configureServiceRuntime_of_refused (same.trans refused)]
  | none =>
      rcases run_configureServiceRuntime_of_accepted refused with
        ⟨rightRegistry, -, rightRun⟩
      rcases
        run_configureServiceRuntime_of_accepted (same.trans refused)
      with ⟨leftRegistry, -, leftRun⟩
      rw [leftRun, rightRun]

end FastapiCore
