import FastapiCore.LifespanViews

/-!
# The events of some steps

Each block of a lifespan records its own steps.  Of the events of a kind of
step, `eventsOf`, a block changes nothing if its steps are not of this kind.
-/

namespace FastapiCore

open Library
open Library.Effect

namespace AppState

/-- The events of the steps of one kind. -/
def eventsOf (kind : LifespanStep → Bool) (state : AppState) :
    List LifespanEvent :=
  state.events.filter fun event => kind event.step

theorem mem_eventsOf {kind : LifespanStep → Bool} {state : AppState}
    {event : LifespanEvent} :
    event ∈ state.eventsOf kind ↔
      event ∈ state.events ∧ kind event.step = true :=
  List.mem_filter

theorem eventsOf_congr {kind : LifespanStep → Bool} {left right : AppState}
    (same : left.events = right.events) :
    left.eventsOf kind = right.eventsOf kind := by
  rw [eventsOf, eventsOf, same]

theorem eventsOf_record {kind : LifespanStep → Bool} {step : LifespanStep}
    (other : kind step = false) (state : AppState)
    (raised : Option PyExc) :
    (state.record step raised).eventsOf kind = state.eventsOf kind := by
  simp [eventsOf, record, other]

end AppState

variable {kind : LifespanStep → Bool} {environment : LifespanEnvironment}

theorem preserves_eventsOf_recorded {α : Type} {step : LifespanStep}
    {block : Lifespan α} (other : kind step = false)
    (kept : Preserves (AppState.eventsOf kind) block) :
    Preserves (AppState.eventsOf kind) (recorded step block) :=
  preserves_recorded (AppState.eventsOf_record other) kept

/-- A recorded step adds its event, however its block ends. -/
theorem exists_mem_eventsOf_recorded {α : Type} {step : LifespanStep}
    {block : Lifespan α} (own : kind step = true) (state : AppState) :
    ∃ event,
      event ∈ ((recorded step block).run state).2.eventsOf kind := by
  have newest (later : AppState) (raised : Option PyExc) :
      ⟨step, raised⟩ ∈ (later.record step raised).eventsOf kind :=
    AppState.mem_eventsOf.mpr
      ⟨List.mem_append_right _ (List.mem_singleton_self _), own⟩
  rw [run_recorded]
  rcases block.run state with ⟨result, later⟩
  cases result with
  | ok value => exact ⟨_, newest later none⟩
  | error exception => exact ⟨_, newest later (some exception)⟩

/-- What keeps the progress of a run keeps its events. -/
theorem preserves_eventsOf_of_progress {α : Type} {block : Lifespan α}
    (kept : Preserves AppState.progress block) :
    Preserves (AppState.eventsOf kind) block :=
  fun state =>
    AppState.eventsOf_congr (congrArg Progress.events (kept state))

/-! ## Starting and closing resources -/

theorem preserves_eventsOf_startResource (resource : ManagedResource)
    (noCreation : ∀ name, kind (.createResource name) = false)
    (noCheck : ∀ spec, kind (.registerCheck spec) = false) :
    Preserves (AppState.eventsOf kind)
      (startResource environment resource) := by
  apply Preserves.bind
  · exact preserves_eventsOf_recorded (noCreation _) (Preserves.ofExcept _)
  intro value
  apply Preserves.bind
  · exact Preserves.update fun _ => rfl
  intro _
  split
  · exact Preserves.pure _
  · apply preserves_eventsOf_recorded (noCheck _)
    apply Preserves.bind (preserves_interrupt _)
    exact fun _ =>
      preserves_eventsOf_of_progress (preserves_registerSpec _)

section Closing

variable
    (noClose : ∀ name closer, kind (.closeResource name closer) = false)

include noClose

theorem eventsOf_closeOne (resource : ManagedResource) (state : AppState) :
    (state.closeOne environment resource).eventsOf kind =
      state.eventsOf kind := by
  rw [AppState.closeOne]
  split
  · rfl
  · exact AppState.eventsOf_record (noClose _ _) _ _

theorem eventsOf_foldl_closeOne (resources : List ManagedResource)
    (state : AppState) :
    (resources.foldl (AppState.closeOne environment) state).eventsOf kind =
      state.eventsOf kind := by
  induction resources generalizing state with
  | nil => rfl
  | cons resource rest induction =>
      exact (induction _).trans (eventsOf_closeOne noClose resource state)

theorem preserves_eventsOf_close (registry : ResourceRegistry) :
    Preserves (AppState.eventsOf kind) (registry.close environment) := by
  intro state
  rw [ResourceRegistry.run_close]
  exact eventsOf_foldl_closeOne noClose _ state

theorem preserves_eventsOf_rollback (registry : ResourceRegistry)
    (exception : PyExc) :
    Preserves (AppState.eventsOf kind)
      (registry.rollback environment exception) := by
  intro state
  rw [ResourceRegistry.run_rollback]
  exact eventsOf_foldl_closeOne noClose _ state

theorem preserves_eventsOf_start (registry : ResourceRegistry)
    (noCreation : ∀ name, kind (.createResource name) = false)
    (noCheck : ∀ spec, kind (.registerCheck spec) = false) :
    Preserves (AppState.eventsOf kind) (registry.start environment) := by
  apply Preserves.tryExcept
  · exact
      Preserves.forM fun resource _ =>
        preserves_eventsOf_startResource resource noCreation noCheck
  · exact preserves_eventsOf_rollback noClose registry

end Closing

/-! ## The blocks of a lifespan -/

variable {arguments : LifespanArguments}

theorem preserves_eventsOf_startRuntime
    (noAssembly : kind .assembleRuntime = false)
    (noConnection : kind .configureRuntime = false)
    (noCheck : kind .checkRuntimeOnStartup = false) :
    Preserves (AppState.eventsOf kind)
      (arguments.startRuntime environment) := by
  apply Preserves.bind Preserves.read
  intro state
  split
  · apply Preserves.bind
    · exact preserves_eventsOf_recorded noAssembly (Preserves.ofExcept _)
    intro runtime
    apply Preserves.bind
    · exact Preserves.update fun _ => rfl
    intro _
    apply preserves_eventsOf_recorded noConnection
    apply Preserves.bind (preserves_interrupt _)
    exact fun _ =>
      preserves_eventsOf_of_progress
        (preserves_configureServiceRuntime runtime)
  · split
    · apply preserves_eventsOf_recorded noCheck
      exact preserves_checkRuntimeOnStartup (fun _ _ => rfl) _ _
    · exact Preserves.pure _

theorem preserves_eventsOf_checkAuthProvider
    (other : kind .requireAuthProvider = false) :
    Preserves (AppState.eventsOf kind) arguments.checkAuthProvider := by
  apply Preserves.bind Preserves.read
  intro state
  split
  · exact preserves_eventsOf_recorded other (Preserves.raise _)
  · exact Preserves.pure _

theorem preserves_eventsOf_checkResources
    (other : kind .checkResourcesOnStartup = false) :
    Preserves (AppState.eventsOf kind)
      (arguments.checkResources environment) := by
  rw [LifespanArguments.checkResources]
  split
  · apply preserves_eventsOf_recorded other
    apply Preserves.bind (preserves_interrupt _)
    exact fun _ => preserves_checkStartup _ _ _ _
  · exact Preserves.pure _

theorem preserves_eventsOf_enterUserLifespan (lifespan : Option Callable)
    (other : kind .enterLifespan = false) :
    Preserves (AppState.eventsOf kind)
      (enterUserLifespan environment lifespan) := by
  cases lifespan with
  | none => exact Preserves.pure _
  | some lifespan =>
      exact preserves_eventsOf_recorded other (Preserves.ofExcept _)

theorem preserves_eventsOf_serveUserLifespan (lifespan : Option Callable)
    (noServe : kind .serve = false) (noExit : kind .exitLifespan = false) :
    Preserves (AppState.eventsOf kind)
      (serveUserLifespan environment lifespan) := by
  have served :
      Preserves (AppState.eventsOf kind)
        (recorded .serve (ofExcept environment.serve)) :=
    preserves_eventsOf_recorded noServe (Preserves.ofExcept _)
  cases lifespan with
  | none => exact served
  | some lifespan =>
      apply Preserves.bind
      · apply Preserves.tryExcept
        · exact Preserves.bind served fun _ => Preserves.pure _
        · exact fun _ => Preserves.pure _
      intro served
      apply Preserves.bind
      · exact preserves_eventsOf_recorded noExit (Preserves.ofExcept _)
      intro suppressed
      split
      · exact Preserves.pure _
      · split
        · exact Preserves.pure _
        · exact Preserves.raise _

theorem preserves_eventsOf_closeAppRuntime
    (other : kind .closeRuntime = false) :
    Preserves (AppState.eventsOf kind) (closeAppRuntime environment) := by
  apply Preserves.bind Preserves.read
  intro state
  split
  · exact Preserves.pure _
  · apply Preserves.tryExcept
    · exact preserves_eventsOf_recorded other (Preserves.ofExcept _)
    · intro exception
      rw [reportCloseFailure]
      split
      · apply Preserves.bind
        · exact Preserves.update fun _ => rfl
        · exact fun _ => Preserves.raise _
      · exact Preserves.raise _

end FastapiCore
