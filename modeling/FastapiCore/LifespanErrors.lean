import FastapiCore.LifecycleTrace

/-!
# The error which a lifespan run reports

Startup, user lifespan, closers and runtime may all fail in one run.  The
last failure to be raised wins, and `close` raises one group for all closers,
while a failed start keeps its own exception and only notes a rollback which
failed.  The laws below say so of the trace: which of its recorded exceptions
a block raises.
-/

namespace FastapiCore

open Library
open Library.Effect

namespace LifespanStep

theorem outside_of_isStartup {step : LifespanStep}
    (startup : step.isStartup = true) :
    step.isServing = false ∧ step ≠ .closeRuntime := by
  cases step with
  | enterLifespan => cases startup
  | serve => cases startup
  | exitLifespan => cases startup
  | closeRuntime => cases startup
  | _ => exact ⟨rfl, nofun⟩

theorem isServing_of_isTeardown {step : LifespanStep}
    (teardown : step.isTeardown = true) : step.isServing = false := by
  cases step with
  | enterLifespan => cases teardown
  | serve => cases teardown
  | exitLifespan => cases teardown
  | _ => rfl

end LifespanStep

/-! ## Exceptions of a trace -/

/-- The exceptions which closing steps of a trace have raised, in order. -/
def closeErrors (events : List LifespanEvent) : List PyExc :=
  events.filterMap fun event =>
    if event.step.isTeardown then event.raised else none

@[simp]
theorem closeErrors_append (first second : List LifespanEvent) :
    closeErrors (first ++ second) =
      closeErrors first ++ closeErrors second :=
  List.filterMap_append ..

theorem closeErrors_of_startup {events : List LifespanEvent}
    (startup : ∀ event ∈ events, event.step.isStartup = true) :
    closeErrors events = [] := by
  apply List.filterMap_eq_nil_iff.mpr
  intro event member
  rw [LifespanStep.isTeardown_of_isStartup (startup event member)]
  rfl

/-- What `close` does with the exceptions of the closers. -/
def shutdownOutcome : List PyExc → Except PyExc PUnit
  | [] => .ok ⟨⟩
  | failures => .error (.group "managed resource shutdown failed" failures)

/-- An exception with a note about the closers which failed after it. -/
def noted (exception : PyExc) : List PyExc → PyExc
  | [] => exception
  | failures =>
      exception.addNote
        ("managed resource rollback failed: " ++
          (PyExc.group "managed resource shutdown failed" failures).str)

/-! ## Closing the live resources -/

section Closing

variable {environment : LifespanEnvironment} {state : AppState}
  {resource other : ManagedResource}

/-- The close of a resource, as the trace of a state will record it. -/
def closeEvent (environment : LifespanEnvironment) (state : AppState)
    (resource : ManagedResource) : Option LifespanEvent :=
  (state.instances.get? resource.name.resolve).map fun value =>
    ⟨.closeResource resource.name.resolve (resource.closer value),
      closerFailure environment resource value⟩

theorem get?_instances_closeOne
    (different : other.name.resolve ≠ resource.name.resolve) :
    (state.closeOne environment resource).instances.get?
        other.name.resolve =
      state.instances.get? other.name.resolve := by
  rw [AppState.closeOne]
  split
  · rfl
  · exact OrderedDict.get?_erase_of_ne different

theorem events_closeOne :
    (state.closeOne environment resource).events =
      state.events ++ (closeEvent environment state resource).toList := by
  rw [AppState.closeOne, closeEvent]
  cases state.instances.get? resource.name.resolve with
  | none => exact (List.append_nil _).symm
  | some value => rfl

/-- Closing one resource does not change the close of the others. -/
theorem foldl_closeOne {resources : List ManagedResource}
    (nodup : (resourceNames resources).Nodup) (state : AppState) :
    (resources.foldl (AppState.closeOne environment) state).events =
        state.events ++
          resources.filterMap (closeEvent environment state) ∧
      closeFailures environment resources state =
        resources.filterMap (closeFailure environment state) := by
  induction resources generalizing state with
  | nil => simp [closeFailures]
  | cons resource rest induction =>
      rw [resourceNames, List.map_cons, List.nodup_cons] at nodup
      have kept :
          ∀ other ∈ rest,
            (state.closeOne environment resource).instances.get?
                other.name.resolve =
              state.instances.get? other.name.resolve := by
        intro other member
        apply get?_instances_closeOne
        intro same
        exact nodup.1 (List.mem_map.mpr ⟨other, member, same⟩)
      rcases induction nodup.2 (state.closeOne environment resource) with
        ⟨events, failures⟩
      constructor
      · have same :
            rest.filterMap
                (closeEvent environment
                  (state.closeOne environment resource)) =
              rest.filterMap (closeEvent environment state) := by
          apply List.filterMap_congr
          intro other member
          rw [closeEvent, kept other member, closeEvent]
        rw [List.foldl_cons, events, events_closeOne, same,
          List.append_assoc, List.filterMap_cons]
        cases closeEvent environment state resource <;> rfl
      · have same :
            rest.filterMap
                (closeFailure environment
                  (state.closeOne environment resource)) =
              rest.filterMap (closeFailure environment state) := by
          apply List.filterMap_congr
          intro other member
          rw [closeFailure, kept other member, closeFailure]
        rw [closeFailures, failures, same, List.filterMap_cons]
        cases closeFailure environment state resource <;> rfl

end Closing

namespace ResourceRegistry

variable (registry : ResourceRegistry) (environment : LifespanEnvironment)
  (state : AppState)

/-- The closes of the live resources, in reverse declaration order. -/
def closeEvents : List LifespanEvent :=
  registry.resources.reverse.filterMap (closeEvent environment state)

/-- The exceptions of the closers, in reverse declaration order. -/
def closerExceptions : List PyExc :=
  registry.resources.reverse.filterMap (closeFailure environment state)

theorem nodup_reverse_names :
    (resourceNames registry.resources.reverse).Nodup := by
  rw [resourceNames, List.map_reverse, List.nodup_reverse]
  exact registry.nodup_names

theorem events_closeAll :
    (state.closeAll environment registry.resources).events =
      state.events ++ registry.closeEvents environment state :=
  (foldl_closeOne registry.nodup_reverse_names state).1

theorem failures_eq :
    registry.failures environment state =
      registry.closerExceptions environment state :=
  (foldl_closeOne registry.nodup_reverse_names state).2

/--
`close` attempts to close every live resource, and raises one group of the
exceptions of the closers if there are any.
-/
theorem run_close_eq :
    ((registry.close environment).run state).1 =
        shutdownOutcome (registry.closerExceptions environment state) ∧
      ((registry.close environment).run state).2.events =
        state.events ++ registry.closeEvents environment state := by
  rw [run_close, failures_eq]
  refine ⟨?_, registry.events_closeAll environment state⟩
  cases registry.closerExceptions environment state <;> rfl

theorem reported_eq (exception : PyExc) :
    registry.reported environment exception state =
      noted exception (registry.closerExceptions environment state) := by
  rw [reported, failures_eq]
  cases registry.closerExceptions environment state <;> rfl

end ResourceRegistry

/-! ## The startup -/

/-- Since `old`, the last startup step and no other has raised. -/
def FailedWith (old : List LifespanEvent) (exception : PyExc)
    (state : AppState) : Prop :=
  ∃ added step,
    state.events = old ++ (added ++ [⟨step, some exception⟩]) ∧
      step.isStartup = true ∧
      ∀ event ∈ added,
        event.step.isStartup = true ∧ event.raised = none

section Startup

variable {old : List LifespanEvent} {done : List Name}
variable {environment : LifespanEnvironment}

end Startup

/-! ## A start -/

/--
How a start ends, by the steps of its trace: the exception of a failing step
is raised again, with a note if closers have failed after it, and without one
every factory is invoked.
-/
structure StartLaw (names : List Name) (added : List LifespanEvent)
    (outcome : Except PyExc PUnit) : Prop where
  creates : StartupSucceeds added → factoryCalls added = names
  raises :
    ∀ event ∈ added, event.step.isStartup = true →
      ∀ exception, event.raised = some exception →
        outcome = .error (noted exception (closeErrors added))
  returns : StartupSucceeds added → outcome = .ok ⟨⟩

/-- Steps of the startup, of which the last has raised, and closes. -/
structure FailedTrace (exception : PyExc) (added closes : List LifespanEvent)
    (step : LifespanStep) : Prop where
  startup : step.isStartup = true
  succeeded :
    ∀ event ∈ added, event.step.isStartup = true ∧ event.raised = none
  closing :
    ∀ event ∈ closes,
      event.step.isTeardown = true ∧ event.step ≠ .closeRuntime

namespace FailedTrace

variable {exception : PyExc} {added closes : List LifespanEvent}
  {step : LifespanStep}

/-- The events of a failed startup. -/
def events (exception : PyExc) (added closes : List LifespanEvent)
    (step : LifespanStep) : List LifespanEvent :=
  added ++ [⟨step, some exception⟩] ++ closes

theorem closeErrors_events
    (failed : FailedTrace exception added closes step) :
    closeErrors (events exception added closes step) =
      closeErrors closes := by
  have started :
      ∀ event ∈ added ++ [⟨step, some exception⟩],
        event.step.isStartup = true :=
    forall_mem_append_event _ _
      (fun event member => (failed.succeeded event member).1) failed.startup
  rw [events, closeErrors_append, closeErrors_of_startup started,
    List.nil_append]

/-- A step of the startup has failed. -/
theorem not_startupSucceeds
    (failed : FailedTrace exception added closes step) :
    ¬StartupSucceeds (events exception added closes step) := by
  intro succeeds
  have member :
      (⟨step, some exception⟩ : LifespanEvent) ∈
        events exception added closes step :=
    List.mem_append_left _
      (List.mem_append_right _ (List.mem_singleton_self _))
  cases succeeds _ member failed.startup

/-- One step has raised, and it is a step of the startup. -/
theorem startLaw (failed : FailedTrace exception added closes step)
    (names : List Name) :
    StartLaw names (events exception added closes step)
      (.error (noted exception (closeErrors closes))) where
  creates succeeds := (failed.not_startupSucceeds succeeds).elim
  raises := by
    intro event member isStartup raisedBy raised
    rw [failed.closeErrors_events]
    rcases List.mem_append.mp member with before | after
    · rcases List.mem_append.mp before with earlier | last
      · rw [(failed.succeeded event earlier).2] at raised
        cases raised
      · cases List.mem_singleton.mp last
        cases raised
        rfl
    · have teardown := (failed.closing event after).1
      rw [LifespanStep.isTeardown_of_isStartup isStartup] at teardown
      cases teardown
  returns succeeds := (failed.not_startupSucceeds succeeds).elim

/-- Neither the user lifespan nor the close of the runtime is reached. -/
theorem not_serving (failed : FailedTrace exception added closes step) :
    ∀ event ∈ events exception added closes step,
      event.step.isServing = false ∧ event.step ≠ .closeRuntime := by
  intro event member
  rcases List.mem_append.mp member with before | after
  · have isStartup : event.step.isStartup = true := by
      rcases List.mem_append.mp before with earlier | last
      · exact (failed.succeeded event earlier).1
      · cases List.mem_singleton.mp last
        exact failed.startup
    exact LifespanStep.outside_of_isStartup isStartup
  · rcases failed.closing event after with ⟨teardown, open_⟩
    exact ⟨LifespanStep.isServing_of_isTeardown teardown, open_⟩

end FailedTrace

namespace ResourceRegistry

variable (registry : ResourceRegistry) (environment : LifespanEnvironment)

end ResourceRegistry

/-! ## A run -/

/--
Which error a run reports, by the steps of its trace: the one of a startup
step or of the user lifespan if nothing fails to close, and in every case the
one of the runtime's close.  Without a failing step of the startup every
factory is invoked and the user lifespan is reached.
-/
structure ErrorLaw (names : List Name) (lifespan : Except PyExc PUnit)
    (added : List LifespanEvent) (outcome : Except PyExc PUnit) :
    Prop where
  reaches : Reaches names added
  startup :
    ∀ event ∈ added, event.step.isStartup = true →
      ∀ exception, event.raised = some exception →
        closeErrors added = [] → outcome = .error exception
  serving :
    (∃ event ∈ added, event.step.isServing = true) →
      closeErrors added = [] → outcome = lifespan
  runtime :
    ∀ event ∈ added, event.step = .closeRuntime →
      ∀ exception, event.raised = some exception →
        outcome = .error exception

/-- What is known of a run when its `finally` blocks are entered. -/
def Explained (names : List Name) (lifespan : Except PyExc PUnit)
    (old : List LifespanEvent) (outcome : Except PyExc PUnit)
    (state : AppState) : Prop :=
  ∃ added,
    state.events = old ++ added ∧
      ErrorLaw names lifespan added outcome ∧
      ∀ event ∈ added, event.step ≠ .closeRuntime

section Run

variable {old : List LifespanEvent} {lifespan : Except PyExc PUnit}
  {names : List Name}

theorem FailedTrace.explained {exception : PyExc}
    {added closes : List LifespanEvent} {step : LifespanStep}
    (failed : FailedTrace exception added closes step) {state : AppState}
    (appended :
      state.events =
        old ++ FailedTrace.events exception added closes step) :
    Explained names lifespan old
      (.error (noted exception (closeErrors closes))) state := by
  have law := failed.startLaw names
  refine
    ⟨_, appended,
      ⟨fun succeeds => (failed.not_startupSucceeds succeeds).elim, ?_, ?_,
        ?_⟩,
      fun event member => (failed.not_serving event member).2⟩
  · intro event member startup raised recorded quiet
    rw [law.raises event member startup raised recorded, quiet]
    rfl
  · rintro ⟨event, member, serving⟩
    rw [(failed.not_serving event member).1] at serving
    cases serving
  · intro event member closed
    exact ((failed.not_serving event member).2 closed).elim

/-- A failed step which is followed by no close. -/
theorem FailedWith.explained {exception : PyExc} {state : AppState}
    (failedWith : FailedWith old exception state) :
    Explained names lifespan old (.error exception) state := by
  rcases failedWith with ⟨added, step, events, startup, succeeded⟩
  have failed : FailedTrace exception added [] step :=
    ⟨startup, succeeded, by simp⟩
  apply failed.explained
  rw [events, FailedTrace.events, List.append_nil]

end Run

/-! ## The teardown -/

namespace LifespanArguments

variable (arguments : LifespanArguments) (environment : LifespanEnvironment)

end LifespanArguments

end FastapiCore
