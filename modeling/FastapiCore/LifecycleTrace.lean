import FastapiCore.LifespanBlocks
import Mathlib.Data.List.Induction

/-!
# The trace of a lifespan run

The order in which a run creates and closes its resources is a property of
its trace, whatever the outcome of every step, and so is how far it comes.
`TraceLaw` collects it.

The proof follows the run through two predicates on its progress.  `Starting`
holds as long as every step of the startup has succeeded; the live instances
are then the resources created so far.  `Settling` holds from the first
failure, or from the user lifespan, to the end of `close`: the attempted
closes, followed by the live instances in reverse order, are the created
resources in reverse order.  Each iteration of the loop in `close` moves one
name from the second part to the first.
-/

namespace FastapiCore

open Library
open Library.Effect

/-! ## Reading a trace -/

namespace LifespanStep

/-- The steps before the user lifespan. -/
def isStartup : LifespanStep → Bool
  | .assembleRuntime => true
  | .configureRuntime => true
  | .checkRuntimeOnStartup => true
  | .requireAuthProvider => true
  | .createResource _ => true
  | .registerCheck _ => true
  | .checkResourcesOnStartup => true
  | _ => false

/-- The steps after the user lifespan. -/
def isTeardown : LifespanStep → Bool
  | .closeResource _ _ => true
  | .closeRuntime => true
  | _ => false

/-- The steps of the user lifespan. -/
def isServing : LifespanStep → Bool
  | .enterLifespan => true
  | .serve => true
  | .exitLifespan => true
  | _ => false

/-- The resource whose factory is invoked. -/
def factoryOf : LifespanStep → Option Name
  | .createResource name => some name
  | _ => none

/-- The resource which is closed. -/
def closeOf : LifespanStep → Option Name
  | .closeResource name _ => some name
  | _ => none

theorem closeOf_of_isStartup {step : LifespanStep}
    (startup : step.isStartup = true) : step.closeOf = none := by
  cases step with
  | closeResource name closer => cases startup
  | _ => rfl

theorem isTeardown_of_isStartup {step : LifespanStep}
    (startup : step.isStartup = true) : step.isTeardown = false := by
  cases step with
  | closeResource name closer => cases startup
  | closeRuntime => cases startup
  | _ => rfl

theorem ne_enterLifespan_of_isStartup {step : LifespanStep}
    (startup : step.isStartup = true) : step ≠ .enterLifespan := by
  rintro rfl
  cases startup

theorem ne_closeRuntime_of_not_isTeardown {step : LifespanStep}
    (early : step.isTeardown = false) : step ≠ .closeRuntime := by
  rintro rfl
  cases early

theorem factoryOf_of_isServing {step : LifespanStep}
    (serving : step.isServing = true) : step.factoryOf = none := by
  cases step with
  | createResource name => cases serving
  | _ => rfl

theorem closeOf_of_isServing {step : LifespanStep}
    (serving : step.isServing = true) : step.closeOf = none := by
  cases step with
  | closeResource name closer => cases serving
  | _ => rfl

theorem isTeardown_of_isServing {step : LifespanStep}
    (serving : step.isServing = true) : step.isTeardown = false := by
  cases step with
  | closeResource name closer => cases serving
  | closeRuntime => cases serving
  | _ => rfl

end LifespanStep

/-- The resource which an event has created. -/
def LifespanEvent.createdName (event : LifespanEvent) : Option Name :=
  match event.raised with
  | none => event.step.factoryOf
  | some _ => none

/-- The resources whose factories are invoked, in order. -/
def factoryCalls (events : List LifespanEvent) : List Name :=
  events.filterMap fun event => event.step.factoryOf

/-- The resources whose factories return a value, in order. -/
def created (events : List LifespanEvent) : List Name :=
  events.filterMap LifespanEvent.createdName

/-- The resources whose close is attempted, in order. -/
def closeAttempts (events : List LifespanEvent) : List Name :=
  events.filterMap fun event => event.step.closeOf

/-- The step occurs and does not raise. -/
def Succeeded (step : LifespanStep) (events : List LifespanEvent) : Prop :=
  ∃ event ∈ events, event.step = step ∧ event.raised = none

/-- The run has a runtime, injected or assembled. -/
def LifespanArguments.HasRuntime (arguments : LifespanArguments)
    (events : List LifespanEvent) : Prop :=
  arguments.runtime.isSome = true ∨ Succeeded .assembleRuntime events

/-- No step of the startup has failed. -/
def StartupSucceeds (events : List LifespanEvent) : Prop :=
  ∀ event ∈ events, event.step.isStartup = true → event.raised = none

/--
Unless a step of the startup fails, every factory is invoked and the user
lifespan is reached.
-/
def Reaches (names : List Name) (events : List LifespanEvent) : Prop :=
  StartupSucceeds events →
    factoryCalls events = names ∧
      ∃ event ∈ events, event.step.isServing = true

/-- What the trace of one run satisfies. -/
structure TraceLaw (arguments : LifespanArguments)
    (events : List LifespanEvent) : Prop where
  /-- Factories are invoked in declaration order. -/
  declarationOrder : factoryCalls events <+: arguments.resources.names
  /-- A startup which does not fail comes to its end. -/
  reaches : Reaches arguments.resources.names events
  /-- No factory is invoked after a failing startup step. -/
  noFactoryAfterFailure :
    events.Pairwise fun earlier later =>
      earlier.step.isStartup = true → earlier.raised ≠ none →
        later.step.factoryOf = none
  /-- Each created resource, and no other, is closed exactly once. -/
  closedOnce :
    ∀ name,
      (closeAttempts events).count name =
        if name ∈ created events then 1 else 0
  /-- Resources are closed in reverse order of creation. -/
  closeOrder : closeAttempts events = (created events).reverse
  /-- A user lifespan which was entered is exited. -/
  lifespanExits :
    Succeeded .enterLifespan events →
      ∃ event ∈ events, event.step = .exitLifespan
  /-- Nothing but closing follows the first close. -/
  closesLast :
    events.Pairwise fun earlier later =>
      earlier.step.isTeardown = true → later.step.isTeardown = true
  /-- The runtime is closed exactly once if there is one. -/
  runtimeClosedOnce :
    (arguments.HasRuntime events →
        (events.map LifespanEvent.step).count .closeRuntime = 1) ∧
      (¬arguments.HasRuntime events →
        LifespanStep.closeRuntime ∉ events.map LifespanEvent.step)
  /-- Nothing follows the close of the runtime. -/
  runtimeClosedLast :
    events.Pairwise fun earlier _ => earlier.step ≠ .closeRuntime

section Append

variable (events : List LifespanEvent) (event : LifespanEvent)

@[simp]
theorem factoryCalls_append :
    factoryCalls (events ++ [event]) =
      factoryCalls events ++ event.step.factoryOf.toList := by
  cases found : event.step.factoryOf <;> simp [factoryCalls, found]

@[simp]
theorem created_append :
    created (events ++ [event]) =
      created events ++ event.createdName.toList := by
  cases found : event.createdName <;> simp [created, found]

@[simp]
theorem closeAttempts_append :
    closeAttempts (events ++ [event]) =
      closeAttempts events ++ event.step.closeOf.toList := by
  cases found : event.step.closeOf <;> simp [closeAttempts, found]

@[simp]
theorem succeeded_append {step : LifespanStep} :
    Succeeded step (events ++ [event]) ↔
      Succeeded step events ∨ event.step = step ∧ event.raised = none := by
  simp [Succeeded, or_and_right, exists_or]

theorem forall_mem_append_event {property : LifespanEvent → Prop}
    (older : ∀ earlier ∈ events, property earlier)
    (last : property event) :
    ∀ earlier ∈ events ++ [event], property earlier :=
  List.forall_mem_append.mpr
    ⟨older, List.forall_mem_singleton.mpr last⟩

theorem pairwise_append_event
    {precedes : LifespanEvent → LifespanEvent → Prop}
    (ordered : events.Pairwise precedes)
    (last : ∀ earlier ∈ events, precedes earlier event) :
    (events ++ [event]).Pairwise precedes := by
  rw [List.pairwise_append]
  refine ⟨ordered, List.pairwise_singleton _ _, ?_⟩
  intro earlier member later singleton
  cases List.mem_singleton.mp singleton
  exact last earlier member

theorem StartupSucceeds.of_append {later : List LifespanEvent}
    (succeeds : StartupSucceeds (events ++ later)) : StartupSucceeds events :=
  fun earlier member => succeeds earlier (List.mem_append_left _ member)

/-- An event which invokes no factory leaves a run where it is. -/
theorem Reaches.append {names : List Name} (reaches : Reaches names events)
    (noFactory : event.step.factoryOf = none) :
    Reaches names (events ++ [event]) := by
  intro succeeds
  rcases reaches (succeeds.of_append events) with
    ⟨calls, served, member, serving⟩
  refine ⟨?_, served, List.mem_append_left _ member, serving⟩
  rw [factoryCalls_append, noFactory, calls]
  exact List.append_nil names

/-- An event which enters no lifespan leaves no lifespan unexited. -/
theorem lifespanExits_append (entersNone : event.step ≠ .enterLifespan)
    (exits :
      Succeeded .enterLifespan events →
        ∃ earlier ∈ events, earlier.step = .exitLifespan)
    (entered : Succeeded .enterLifespan (events ++ [event])) :
    ∃ earlier ∈ events ++ [event], earlier.step = .exitLifespan := by
  have older : Succeeded .enterLifespan events := by
    simpa [entersNone] using entered
  rcases exits older with ⟨earlier, member, exited⟩
  exact ⟨earlier, List.mem_append_left _ member, exited⟩

/-- A created resource is one whose factory was invoked. -/
theorem created_sublist : (created events).Sublist (factoryCalls events) := by
  induction events with
  | nil => exact List.Sublist.refl _
  | cons first rest induction =>
      rw [created, factoryCalls, List.filterMap_cons,
        List.filterMap_cons, LifespanEvent.createdName]
      cases first.step.factoryOf with
      | none => cases first.raised <;> exact induction
      | some name =>
          cases first.raised with
          | none => exact induction.cons_cons name
          | some exception => exact induction.cons name

end Append

section Serving

variable {arguments : LifespanArguments}
variable {events added : List LifespanEvent}

theorem factoryCalls_append_serving
    (serving : ∀ event ∈ added, event.step.isServing = true) :
    factoryCalls (events ++ added) = factoryCalls events := by
  have none_ : factoryCalls added = [] := by
    apply List.filterMap_eq_nil_iff.mpr
    intro event member
    exact LifespanStep.factoryOf_of_isServing (serving event member)
  rw [factoryCalls, List.filterMap_append, ← factoryCalls, ← factoryCalls,
    none_, List.append_nil]

theorem created_append_serving
    (serving : ∀ event ∈ added, event.step.isServing = true) :
    created (events ++ added) = created events := by
  have none_ : created added = [] := by
    apply List.filterMap_eq_nil_iff.mpr
    intro event member
    have noFactory :=
      LifespanStep.factoryOf_of_isServing (serving event member)
    rw [LifespanEvent.createdName, noFactory]
    cases event.raised <;> rfl
  rw [created, List.filterMap_append, ← created, ← created, none_,
    List.append_nil]

theorem closeAttempts_append_serving
    (serving : ∀ event ∈ added, event.step.isServing = true) :
    closeAttempts (events ++ added) = closeAttempts events := by
  have none_ : closeAttempts added = [] := by
    apply List.filterMap_eq_nil_iff.mpr
    intro event member
    exact LifespanStep.closeOf_of_isServing (serving event member)
  rw [closeAttempts, List.filterMap_append, ← closeAttempts,
    ← closeAttempts, none_, List.append_nil]

theorem hasRuntime_append_serving
    (serving : ∀ event ∈ added, event.step.isServing = true) :
    arguments.HasRuntime (events ++ added) ↔
      arguments.HasRuntime events := by
  have noAssembly : ¬Succeeded .assembleRuntime added := by
    rintro ⟨event, member, assembled, -⟩
    have served := serving event member
    rw [assembled] at served
    cases served
  simp only [LifespanArguments.HasRuntime, Succeeded, List.mem_append,
    or_and_right, exists_or]
  exact or_congr_right (or_iff_left noAssembly)

end Serving

/-! ## The two phases of a run -/

/-- Every step so far belongs to the startup and has succeeded. -/
structure Starting (arguments : LifespanArguments) (done : List Name)
    (progress : Progress) : Prop where
  startup : ∀ event ∈ progress.events, event.step.isStartup = true
  succeeded : ∀ event ∈ progress.events, event.raised = none
  calls : factoryCalls progress.events = done
  created : created progress.events = done
  live : progress.instances.keys = done
  runtime :
    progress.appRuntime.isSome = true ↔
      arguments.HasRuntime progress.events

/--
The live instances are the created resources which are not closed yet; their
names are the first of `bound`.
-/
structure Orderly (arguments : LifespanArguments) (bound : List Name)
    (progress : Progress) : Prop where
  calls : factoryCalls progress.events <+: arguments.resources.names
  noFactoryAfterFailure :
    progress.events.Pairwise fun earlier later =>
      earlier.step.isStartup = true → earlier.raised ≠ none →
        later.step.factoryOf = none
  live : progress.instances.keys <+: bound
  closes :
    closeAttempts progress.events ++ progress.instances.keys.reverse =
      (created progress.events).reverse
  lifespanExits :
    Succeeded .enterLifespan progress.events →
      ∃ event ∈ progress.events, event.step = .exitLifespan
  closesLast :
    progress.events.Pairwise fun earlier later =>
      earlier.step.isTeardown = true → later.step.isTeardown = true
  runtimeOpen : ∀ event ∈ progress.events, event.step ≠ .closeRuntime
  runtime :
    progress.appRuntime.isSome = true ↔
      arguments.HasRuntime progress.events

/-- An orderly run whose startup is over. -/
structure Settling (arguments : LifespanArguments) (bound : List Name)
    (progress : Progress) : Prop
    extends Orderly arguments bound progress where
  reaches : Reaches arguments.resources.names progress.events

variable {arguments : LifespanArguments} {progress : Progress}
variable {done bound : List Name}

/-- Append an event to the progress of a run. -/
def Progress.append (progress : Progress) (event : LifespanEvent) :
    Progress :=
  { progress with events := progress.events ++ [event] }

namespace Starting

/-- A trace without a close has no failing step yet. -/
theorem orderly (starting : Starting arguments done progress)
    (declared : done <+: arguments.resources.names) :
    Orderly arguments arguments.resources.names progress where
  calls := starting.calls.symm ▸ declared
  noFactoryAfterFailure := by
    apply List.pairwise_of_forall_mem_list
    intro earlier member later _ _ failed
    exact (failed (starting.succeeded earlier member)).elim
  live := starting.live.symm ▸ declared
  closes := by
    have open_ : closeAttempts progress.events = [] := by
      apply List.filterMap_eq_nil_iff.mpr
      intro event member
      exact
        LifespanStep.closeOf_of_isStartup (starting.startup event member)
    rw [open_, starting.live, starting.created, List.nil_append]
  lifespanExits := by
    rintro ⟨event, member, entered, -⟩
    have startup := starting.startup event member
    rw [entered] at startup
    cases startup
  closesLast := by
    apply List.pairwise_of_forall_mem_list
    intro earlier member later _ teardown
    rw [LifespanStep.isTeardown_of_isStartup
      (starting.startup earlier member)] at teardown
    cases teardown
  runtimeOpen := by
    intro event member
    apply LifespanStep.ne_closeRuntime_of_not_isTeardown
    exact
      LifespanStep.isTeardown_of_isStartup (starting.startup event member)
  runtime := starting.runtime

/-- A startup step which creates nothing succeeds. -/
theorem succeed (starting : Starting arguments done progress)
    {step : LifespanStep} (startup : step.isStartup = true)
    (noFactory : step.factoryOf = none)
    (noAssembly : step ≠ .assembleRuntime) :
    Starting arguments done (progress.append ⟨step, none⟩) where
  startup := forall_mem_append_event _ _ starting.startup startup
  succeeded := forall_mem_append_event _ _ starting.succeeded rfl
  calls := by
    simp [Progress.append, noFactory, starting.calls]
  created := by
    simp [Progress.append, LifespanEvent.createdName, noFactory,
      starting.created]
  live := starting.live
  runtime := by
    simpa [Progress.append, LifespanArguments.HasRuntime, noAssembly] using
      starting.runtime

/-- The assembled runtime becomes the runtime of the app. -/
theorem assemble (starting : Starting arguments done progress)
    (runtime : ServiceRuntime) :
    Starting arguments done
      { progress.append ⟨.assembleRuntime, none⟩ with
        appRuntime := some runtime } where
  startup := forall_mem_append_event _ _ starting.startup rfl
  succeeded := forall_mem_append_event _ _ starting.succeeded rfl
  calls := by
    simp [Progress.append, LifespanStep.factoryOf, starting.calls]
  created := by
    simp [Progress.append, LifespanEvent.createdName,
      LifespanStep.factoryOf, starting.created]
  live := starting.live
  runtime := by
    simp [Progress.append, LifespanArguments.HasRuntime]

/-- A factory returns a value, which becomes a live instance. -/
theorem create (starting : Starting arguments done progress)
    {name : Name} (fresh : name ∉ done) (value : PyObject) :
    Starting arguments (done ++ [name])
      { progress.append ⟨.createResource name, none⟩ with
        instances := progress.instances.insert name value } where
  startup := forall_mem_append_event _ _ starting.startup rfl
  succeeded := forall_mem_append_event _ _ starting.succeeded rfl
  calls := by
    simp [Progress.append, LifespanStep.factoryOf, starting.calls]
  created := by
    simp [Progress.append, LifespanEvent.createdName,
      LifespanStep.factoryOf, starting.created]
  live := by
    show (progress.instances.insert name value).keys = done ++ [name]
    rw [OrderedDict.keys_insert_of_not_mem (starting.live.symm ▸ fresh),
      starting.live]
  runtime := by
    simpa [Progress.append, LifespanArguments.HasRuntime] using
      starting.runtime

/-- A startup step fails: nothing is created after it. -/
theorem fail (starting : Starting arguments done progress)
    {step : LifespanStep} (startup : step.isStartup = true)
    (declared :
      done ++ step.factoryOf.toList <+: arguments.resources.names)
    (exception : PyExc) :
    Settling arguments arguments.resources.names
      (progress.append ⟨step, some exception⟩) := by
  have orderly :=
    starting.orderly ((List.prefix_append _ _).trans declared)
  exact
    { calls := by
        simpa [Progress.append, starting.calls] using declared
      reaches := by
        intro succeeds
        have returned :=
          succeeds ⟨step, some exception⟩
            (List.mem_append_right _ (List.mem_singleton_self _)) startup
        cases returned
      noFactoryAfterFailure := by
        apply pairwise_append_event _ _ orderly.noFactoryAfterFailure
        intro earlier member _ failed
        exact (failed (starting.succeeded earlier member)).elim
      live := orderly.live
      closes := by
        have open_ := LifespanStep.closeOf_of_isStartup startup
        simpa [Progress.append, LifespanEvent.createdName, open_] using
          orderly.closes
      lifespanExits := by
        apply lifespanExits_append _ _ _ orderly.lifespanExits
        exact LifespanStep.ne_enterLifespan_of_isStartup startup
      closesLast := by
        apply pairwise_append_event _ _ orderly.closesLast
        intro earlier member teardown
        rw [LifespanStep.isTeardown_of_isStartup
          (starting.startup earlier member)] at teardown
        cases teardown
      runtimeOpen := by
        apply forall_mem_append_event _ _ orderly.runtimeOpen
        apply LifespanStep.ne_closeRuntime_of_not_isTeardown
        exact LifespanStep.isTeardown_of_isStartup startup
      runtime := by
        simpa [Progress.append, LifespanArguments.HasRuntime] using
          starting.runtime }

/-- The user lifespan only appends its own steps. -/
theorem serve
    (starting : Starting arguments arguments.resources.names progress)
    {added : List LifespanEvent} (served : added ≠ [])
    (serving : ∀ event ∈ added, event.step.isServing = true)
    (exits :
      Succeeded .enterLifespan added →
        ∃ event ∈ added, event.step = .exitLifespan) :
    Settling arguments arguments.resources.names
      { progress with events := progress.events ++ added } := by
  have orderly := starting.orderly List.prefix_rfl
  have noFactory : ∀ event ∈ added, event.step.factoryOf = none := by
    intro event member
    exact LifespanStep.factoryOf_of_isServing (serving event member)
  have noTeardown :
      ∀ event ∈ progress.events ++ added,
        event.step.isTeardown = false := by
    intro event member
    rcases List.mem_append.mp member with older | new
    · exact
        LifespanStep.isTeardown_of_isStartup (starting.startup event older)
    · exact LifespanStep.isTeardown_of_isServing (serving event new)
  exact
    { calls := by
        rw [factoryCalls_append_serving serving]
        exact orderly.calls
      reaches := by
        intro _
        rw [factoryCalls_append_serving serving]
        rcases List.exists_mem_of_ne_nil added served with ⟨event, member⟩
        exact
          ⟨starting.calls, event, List.mem_append_right _ member,
            serving event member⟩
      noFactoryAfterFailure := by
        rw [List.pairwise_append]
        refine ⟨orderly.noFactoryAfterFailure, ?_, ?_⟩
        · apply List.pairwise_of_forall_mem_list
          exact fun _ _ later member _ _ => noFactory later member
        · exact fun _ _ later member _ _ => noFactory later member
      live := orderly.live
      closes := by
        rw [closeAttempts_append_serving serving,
          created_append_serving serving]
        exact orderly.closes
      lifespanExits := by
        rintro ⟨event, member, entered, returned⟩
        rcases List.mem_append.mp member with older | new
        · have startup := starting.startup event older
          rw [entered] at startup
          cases startup
        · rcases exits ⟨event, new, entered, returned⟩ with
            ⟨last, lastMember, exited⟩
          exact ⟨last, List.mem_append_right _ lastMember, exited⟩
      closesLast := by
        apply List.pairwise_of_forall_mem_list
        intro earlier member later _ teardown
        rw [noTeardown earlier member] at teardown
        cases teardown
      runtimeOpen := by
        intro event member
        apply LifespanStep.ne_closeRuntime_of_not_isTeardown
        exact noTeardown event member
      runtime := by
        rw [hasRuntime_append_serving serving]
        exact orderly.runtime }

end Starting

/-! ## Closing -/

namespace Settling

variable (environment : LifespanEnvironment)

theorem widen (settling : Settling arguments bound progress)
    {wider : List Name} (shorter : bound <+: wider) :
    Settling arguments wider progress :=
  { settling with live := settling.live.trans shorter }

section Last

variable {name : Name}

theorem of_not_live
    (settling : Settling arguments (bound ++ [name]) progress)
    (absent : name ∉ progress.instances.keys) :
    Settling arguments bound progress := by
  refine { settling with live := ?_ }
  rcases List.prefix_concat_iff.mp settling.live with all | shorter
  · refine (absent ?_).elim
    rw [all]
    exact List.mem_append_right _ (List.mem_singleton_self name)
  · exact shorter

theorem live_eq_of_live
    (settling : Settling arguments (bound ++ [name]) progress)
    (fresh : name ∉ bound) (present : name ∈ progress.instances.keys) :
    progress.instances.keys = bound ++ [name] := by
  rcases List.prefix_concat_iff.mp settling.live with all | shorter
  · exact all
  · exact (fresh (shorter.subset present)).elim

/-- Erasing the last key leaves the keys before it. -/
theorem keys_erase_of_last {instances : OrderedDict Name PyObject}
    (live : instances.keys = bound ++ [name]) (fresh : name ∉ bound) :
    (instances.erase name).keys = bound := by
  rw [OrderedDict.keys_erase, live, List.filter_append]
  simp only [ne_eq, not_true_eq_false, decide_false, List.filter_cons,
    List.filter_nil, Bool.false_eq_true, if_false, List.append_nil]
  apply List.filter_eq_self.mpr
  intro earlier member
  rw [decide_eq_true_eq]
  rintro rfl
  exact fresh member

/-- Closing the last live instance moves its name to the closes. -/
theorem closeLast
    (settling : Settling arguments (bound ++ [name]) progress)
    (fresh : name ∉ bound) (present : name ∈ progress.instances.keys)
    (closer : Option Closer) (raised : Option PyExc) :
    Settling arguments bound
      { progress.append ⟨.closeResource name closer, raised⟩ with
        instances := progress.instances.erase name } := by
  have live := settling.live_eq_of_live fresh present
  have remaining := keys_erase_of_last live fresh
  have noFactory :
      LifespanEvent.createdName ⟨.closeResource name closer, raised⟩ =
        none := by
    cases raised <;> rfl
  exact
    { calls := by
        simpa [Progress.append, LifespanStep.factoryOf] using settling.calls
      reaches := settling.reaches.append _ _ rfl
      noFactoryAfterFailure := by
        apply pairwise_append_event _ _ settling.noFactoryAfterFailure
        exact fun _ _ _ _ => rfl
      live := remaining ▸ List.prefix_rfl
      closes := by
        have closes := settling.closes
        rw [live, List.reverse_append] at closes
        simpa [Progress.append, LifespanStep.closeOf, noFactory,
          remaining] using closes
      lifespanExits := by
        apply lifespanExits_append _ _ _ settling.lifespanExits
        rintro ⟨⟩
      closesLast := by
        apply pairwise_append_event _ _ settling.closesLast
        exact fun _ _ _ => rfl
      runtimeOpen := by
        apply forall_mem_append_event _ _ settling.runtimeOpen
        rintro ⟨⟩
      runtime := by
        simpa [Progress.append, LifespanArguments.HasRuntime] using
          settling.runtime }

end Last

/-- One iteration of the loop in `close` settles one name. -/
theorem closeOne {state : AppState} {resource : ManagedResource}
    (settling :
      Settling arguments (bound ++ [resource.name.resolve])
        state.progress)
    (nodup : (bound ++ [resource.name.resolve]).Nodup) :
    Settling arguments bound
      (state.closeOne environment resource).progress := by
  have fresh : resource.name.resolve ∉ bound := by
    intro member
    exact (List.nodup_append.mp nodup).2.2 _ member _ (by simp) rfl
  rw [AppState.closeOne]
  cases found : state.instances.get? resource.name.resolve with
  | none => exact settling.of_not_live (OrderedDict.get?_eq_none_iff.mp found)
  | some value =>
      have present : resource.name.resolve ∈ state.instances.keys :=
        OrderedDict.get?_isSome_iff.mp (by simp [found])
      exact
        settling.closeLast fresh present (resource.closer value)
          (closerFailure environment resource value)

/-- After `close` no instance is live. -/
theorem closeAll {resources : List ManagedResource}
    (nodup : (resourceNames resources).Nodup) {state : AppState}
    (settling :
      Settling arguments (resourceNames resources) state.progress) :
    Settling arguments []
      (state.closeAll environment resources).progress := by
  induction resources using List.reverseRecOn generalizing state with
  | nil => exact settling
  | append_singleton rest resource induction =>
      have names :
          resourceNames (rest ++ [resource]) =
            resourceNames rest ++ [resource.name.resolve] := by
        simp [resourceNames]
      rw [names] at nodup settling
      rw [AppState.closeAll, List.reverse_append, List.reverse_singleton,
        List.singleton_append, List.foldl_cons]
      exact
        induction (List.nodup_append.mp nodup).1
          (settling.closeOne environment nodup)

theorem closeAttempts_eq (settling : Settling arguments [] progress) :
    closeAttempts progress.events = (created progress.events).reverse := by
  have closes := settling.closes
  rwa [List.prefix_nil.mp settling.live, List.reverse_nil,
    List.append_nil] at closes

theorem count_closeAttempts (settling : Settling arguments [] progress)
    (name : Name) :
    (closeAttempts progress.events).count name =
      if name ∈ created progress.events then 1 else 0 := by
  have nodup : (created progress.events).Nodup :=
    ((created_sublist _).trans settling.calls.sublist).nodup
      arguments.resources.nodup_names
  rw [settling.closeAttempts_eq, List.count_reverse]
  split_ifs with member
  · exact List.count_eq_one_of_mem nodup member
  · exact List.count_eq_zero_of_not_mem member

theorem closeRuntime_not_mem (settling : Settling arguments bound progress) :
    LifespanStep.closeRuntime ∉
      progress.events.map LifespanEvent.step := by
  intro member
  rcases List.mem_map.mp member with ⟨event, eventMember, step⟩
  exact settling.runtimeOpen event eventMember step

/-- A run without a runtime ends when its resources are closed. -/
theorem traceLaw_of_noRuntime (settling : Settling arguments [] progress)
    (noRuntime : progress.appRuntime = none) :
    TraceLaw arguments progress.events where
  declarationOrder := settling.calls
  reaches := settling.reaches
  noFactoryAfterFailure := settling.noFactoryAfterFailure
  closedOnce := settling.count_closeAttempts
  closeOrder := settling.closeAttempts_eq
  lifespanExits := settling.lifespanExits
  closesLast := settling.closesLast
  runtimeClosedOnce := by
    refine ⟨fun runtime => ?_, fun _ => settling.closeRuntime_not_mem⟩
    have some := settling.runtime.mpr runtime
    rw [noRuntime] at some
    cases some
  runtimeClosedLast := by
    apply List.pairwise_of_forall_mem_list
    exact fun earlier member _ _ => settling.runtimeOpen earlier member

/-- A run with a runtime ends when the runtime is closed as well. -/
theorem traceLaw_of_runtime (settling : Settling arguments [] progress)
    {runtime : ServiceRuntime}
    (found : progress.appRuntime = some runtime)
    (raised : Option PyExc) :
    TraceLaw arguments
      (progress.append ⟨.closeRuntime, raised⟩).events := by
  have noName :
      (LifespanEvent.createdName ⟨.closeRuntime, raised⟩) = none := by
    cases raised <;> rfl
  have hasRuntime : arguments.HasRuntime progress.events :=
    settling.runtime.mp (by simp [found])
  exact
    { declarationOrder := by
        simpa [Progress.append, LifespanStep.factoryOf] using settling.calls
      reaches := settling.reaches.append _ _ rfl
      noFactoryAfterFailure := by
        apply pairwise_append_event _ _ settling.noFactoryAfterFailure
        exact fun _ _ _ _ => rfl
      closedOnce := by
        intro name
        simpa [Progress.append, LifespanStep.closeOf, noName] using
          settling.count_closeAttempts name
      closeOrder := by
        simpa [Progress.append, LifespanStep.closeOf, noName] using
          settling.closeAttempts_eq
      lifespanExits := by
        apply lifespanExits_append _ _ _ settling.lifespanExits
        rintro ⟨⟩
      closesLast := by
        apply pairwise_append_event _ _ settling.closesLast
        exact fun _ _ _ => rfl
      runtimeClosedOnce := by
        constructor
        · intro _
          have none_ :=
            List.count_eq_zero_of_not_mem settling.closeRuntime_not_mem
          simp [Progress.append, none_]
        · intro absent
          refine (absent ?_).elim
          rcases hasRuntime with injected | assembled
          · exact Or.inl injected
          · exact Or.inr ((succeeded_append _ _).mpr (Or.inl assembled))
      runtimeClosedLast := by
        apply pairwise_append_event
        · apply List.pairwise_of_forall_mem_list
          exact fun earlier member _ _ => settling.runtimeOpen earlier member
        · exact settling.runtimeOpen }

end Settling

/-! ## The phases of the run -/

section Phases

variable (arguments) (environment : LifespanEnvironment)

/-- A recorded step of the startup which creates no resource. -/
theorem triple_startupStep {step : LifespanStep} {block : Lifespan PUnit}
    (startup : step.isStartup = true) (noFactory : step.factoryOf = none)
    (noAssembly : step ≠ .assembleRuntime)
    (declared : done <+: arguments.resources.names)
    (preserves : Preserves AppState.progress block) :
    Triple (fun state => Starting arguments done state.progress)
      (recorded step block)
      (fun _ state => Starting arguments done state.progress)
      (fun _ state =>
        Settling arguments arguments.resources.names state.progress) := by
  apply triple_recorded
  apply Triple.weaken (Triple.of_preserves preserves _) (fun _ holds => holds)
  · intro _ state starting
    exact Starting.succeed starting startup noFactory noAssembly
  · intro exception state starting
    refine Starting.fail starting startup ?_ exception
    simpa [noFactory] using declared

/-- A run which has not done anything is starting. -/
theorem Starting.entered :
    Starting arguments [] ⟨[], .empty, arguments.runtime⟩ where
  startup := by simp
  succeeded := by simp
  calls := rfl
  created := rfl
  live := rfl
  runtime := by simp [LifespanArguments.HasRuntime, Succeeded]

theorem triple_assembleRuntime {current : AppState}
    (starting : Starting arguments [] current.progress) :
    Triple (fun state => state = current)
      (recorded .assembleRuntime
        (ofExcept (assembleRuntime environment arguments.runtimePlan)))
      (fun _ state => state = current.record .assembleRuntime none)
      (fun _ state =>
        Settling arguments arguments.resources.names state.progress) := by
  apply triple_recorded_ofExcept
  · rintro _ _ rfl
    rfl
  · rintro exception _ rfl
    refine starting.fail rfl ?_ exception
    exact List.nil_prefix

theorem triple_startRuntime :
    Triple
      (fun state => state.progress = ⟨[], .empty, arguments.runtime⟩)
      (arguments.startRuntime environment)
      (fun _ state => Starting arguments [] state.progress)
      (fun _ state =>
        Settling arguments arguments.resources.names state.progress) := by
  apply Triple.read
  intro current begin_
  have appRuntime : current.appRuntime = arguments.runtime :=
    congrArg Progress.appRuntime begin_
  rw [appRuntime]
  have starting : Starting arguments [] current.progress :=
    begin_ ▸ Starting.entered arguments
  cases injected : arguments.runtime with
  | none =>
      dsimp only
      refine
        Triple.bind (triple_assembleRuntime arguments environment starting)
          fun runtime => ?_
      have published :
          Triple
            (fun state => state = current.record .assembleRuntime none)
            (update fun state => { state with appRuntime := some runtime } :
              Lifespan PUnit)
            (fun _ state => Starting arguments [] state.progress)
            (fun _ state =>
              Settling arguments arguments.resources.names
                state.progress) := by
        apply Triple.update
        rintro _ rfl
        exact starting.assemble runtime
      refine Triple.bind published fun _ => ?_
      refine
        triple_startupStep arguments rfl rfl nofun List.nil_prefix ?_
      apply Preserves.bind (preserves_interrupt _)
      exact fun _ => preserves_configureServiceRuntime runtime
  | some runtime =>
      dsimp only
      split
      · refine
          Triple.weaken
            (triple_startupStep arguments rfl rfl nofun List.nil_prefix
              (preserves_checkRuntimeOnStartup (fun _ _ => rfl)
                environment arguments.config))
            ?_ (fun _ _ holds => holds) fun _ _ holds => holds
        rintro _ rfl
        exact starting
      · apply Triple.pure
        rintro _ rfl
        exact starting

theorem triple_checkAuthProvider :
    Triple (fun state => Starting arguments [] state.progress)
      arguments.checkAuthProvider
      (fun _ state => Starting arguments [] state.progress)
      (fun _ state =>
        Settling arguments arguments.resources.names state.progress) := by
  apply Triple.read_keeping
  intro current
  split
  · exact
      triple_startupStep arguments rfl rfl nofun List.nil_prefix
        (Preserves.raise _)
  · exact Triple.pure _ fun _ starting => starting

/-- One more resource is created, and its check registered. -/
theorem triple_startResource {resource : ManagedResource}
    (fresh : resource.name.resolve ∉ done)
    (declared :
      done ++ [resource.name.resolve] <+: arguments.resources.names) :
    Triple (fun state => Starting arguments done state.progress)
      (startResource environment resource)
      (fun _ state =>
        Starting arguments (done ++ [resource.name.resolve])
          state.progress)
      (fun _ state =>
        Settling arguments arguments.resources.names state.progress) := by
  have creation :
      Triple (fun state => Starting arguments done state.progress)
        (recorded (.createResource resource.name.resolve)
          (ofExcept (environment.factory resource.name.resolve)))
        (fun value state =>
          Starting arguments (done ++ [resource.name.resolve])
            (state.assignInstance resource.name.resolve value).progress)
        (fun _ state =>
          Settling arguments arguments.resources.names
            state.progress) := by
    apply triple_recorded_ofExcept
    · exact fun value state starting => starting.create fresh value
    · intro exception state starting
      refine starting.fail rfl ?_ exception
      exact declared
  refine Triple.bind creation fun value => ?_
  refine
    Triple.update_bind _
      (show
        Triple
          (fun state =>
            Starting arguments (done ++ [resource.name.resolve])
              state.progress)
          _ _ _ from ?_)
      fun state starting => starting
  split
  · exact Triple.pure _ fun _ starting => starting
  · refine triple_startupStep arguments rfl rfl nofun declared ?_
    apply Preserves.bind (preserves_interrupt _)
    exact fun _ => preserves_registerSpec _

/-- A start which fails has closed every resource it had created. -/
theorem triple_start :
    Triple (fun state => Starting arguments [] state.progress)
      (arguments.resources.start environment)
      (fun _ state =>
        Starting arguments arguments.resources.names state.progress)
      (fun _ state => Settling arguments [] state.progress) := by
  have iteration (done : List ManagedResource)
      (resource : ManagedResource) (rest : List ManagedResource) :
      Triple
        (fun state =>
          done ++ resource :: rest = arguments.resources.resources ∧
            Starting arguments (resourceNames done) state.progress)
        (startResource environment resource)
        (fun _ state =>
          done ++ [resource] ++ rest = arguments.resources.resources ∧
            Starting arguments (resourceNames (done ++ [resource]))
              state.progress)
        (fun _ state =>
          Settling arguments arguments.resources.names
            state.progress) := by
    rw [List.append_assoc, List.singleton_append]
    apply Triple.assume
    intro declared
    have names :
        arguments.resources.names =
          resourceNames done ++ [resource.name.resolve] ++
            resourceNames rest := by
      simp [ResourceRegistry.names, ← declared, resourceNames]
    have fresh : resource.name.resolve ∉ resourceNames done := by
      have nodup := arguments.resources.nodup_names
      rw [names] at nodup
      intro member
      exact
        (List.nodup_append.mp (List.nodup_append.mp nodup).1).2.2 _ member
          _ (by simp) rfl
    have step :=
      triple_startResource arguments environment fresh
        (names ▸ List.prefix_append _ _)
    simpa [resourceNames] using step
  apply Triple.tryExcept
  · have loop :=
      Triple.forM
        (fun done rest (state : AppState) =>
          done ++ rest = arguments.resources.resources ∧
            Starting arguments (resourceNames done) state.progress)
        iteration arguments.resources.resources []
    apply loop.weaken
    · exact fun _ starting => ⟨rfl, starting⟩
    · exact fun _ _ holds => holds.2
    · exact fun _ _ holds => holds
  · intro exception state settling
    rw [ResourceRegistry.run_rollback]
    exact Settling.closeAll environment arguments.resources.nodup settling

theorem triple_checkResources :
    Triple
      (fun state =>
        Starting arguments arguments.resources.names state.progress)
      (arguments.checkResources environment)
      (fun _ state =>
        Starting arguments arguments.resources.names state.progress)
      (fun _ state =>
        Settling arguments arguments.resources.names state.progress) := by
  rw [LifespanArguments.checkResources]
  split
  · refine triple_startupStep arguments rfl rfl nofun List.prefix_rfl ?_
    apply Preserves.bind (preserves_interrupt _)
    exact fun _ => preserves_checkStartup _ _ _ _
  · exact Triple.pure _ fun _ starting => starting

/-- A single step which does not enter the user lifespan. -/
theorem serving_singleton {step : LifespanStep} {raised : Option PyExc}
    (serving : step.isServing = true)
    (outside : step = .enterLifespan → raised ≠ none) :
    (∀ event ∈ [(⟨step, raised⟩ : LifespanEvent)],
        event.step.isServing = true) ∧
      (Succeeded .enterLifespan [⟨step, raised⟩] →
        ∃ event ∈ [(⟨step, raised⟩ : LifespanEvent)],
          event.step = .exitLifespan) := by
  refine ⟨List.forall_mem_singleton.mpr serving, ?_⟩
  rintro ⟨event, member, entered, returned⟩
  cases List.mem_singleton.mp member
  exact (outside entered returned).elim

/-- The steps which the user lifespan appends. -/
theorem run_runUserLifespan (lifespan : Option Callable)
    (state : AppState) :
    ∃ added,
      ((runUserLifespan environment lifespan).run state).2.progress =
          { state.progress with events := state.events ++ added } ∧
        added ≠ [] ∧
        (∀ event ∈ added, event.step.isServing = true) ∧
        (Succeeded .enterLifespan added →
          ∃ event ∈ added, event.step = .exitLifespan) := by
  cases lifespan with
  | none =>
      rw [runUserLifespan, run_recorded, run_ofExcept]
      cases environment.serve with
      | ok value =>
          exact
            ⟨[⟨.serve, none⟩], rfl, by simp,
              serving_singleton rfl (by rintro ⟨⟩)⟩
      | error exception =>
          exact
            ⟨[⟨.serve, some exception⟩], rfl, by simp,
              serving_singleton rfl (by rintro ⟨⟩)⟩
  | some callable =>
      rw [runUserLifespan, run_bind, run_recorded, run_ofExcept]
      cases environment.enter with
      | error exception =>
          exact
            ⟨[⟨.enterLifespan, some exception⟩], rfl, by simp,
              serving_singleton rfl fun _ => Option.some_ne_none exception⟩
      | ok value =>
          dsimp only
          rw [run_bind, run_tryExcept, run_bind, run_recorded,
            run_ofExcept]
          rcases environment.serve with exception | value
          · dsimp only [run_pure]
            rw [run_bind, run_recorded, run_ofExcept]
            rcases environment.exit (some exception) with
              raised | suppressed
            · exact
                ⟨[⟨.enterLifespan, none⟩, ⟨.serve, some exception⟩,
                    ⟨.exitLifespan, some raised⟩],
                  by simp [AppState.progress, AppState.record], by simp,
                  by simp [LifespanStep.isServing], by simp⟩
            · refine
                ⟨[⟨.enterLifespan, none⟩, ⟨.serve, some exception⟩,
                    ⟨.exitLifespan, none⟩], ?_, by simp,
                  by simp [LifespanStep.isServing], by simp⟩
              cases suppressed <;>
                simp [AppState.progress, AppState.record]
          · dsimp only [run_pure, run_bind]
            rw [run_recorded, run_ofExcept]
            rcases environment.exit none with raised | suppressed
            · exact
                ⟨[⟨.enterLifespan, none⟩, ⟨.serve, none⟩,
                    ⟨.exitLifespan, some raised⟩],
                  by simp [AppState.progress, AppState.record], by simp,
                  by simp [LifespanStep.isServing], by simp⟩
            · exact
                ⟨[⟨.enterLifespan, none⟩, ⟨.serve, none⟩,
                    ⟨.exitLifespan, none⟩],
                  by simp [AppState.progress, AppState.record], by simp,
                  by simp [LifespanStep.isServing], by simp⟩

/-- However the `try` block ends, the created resources can be closed. -/
theorem triple_startAndServe :
    Triple
      (fun state => state.progress = ⟨[], .empty, arguments.runtime⟩)
      (arguments.startAndServe environment)
      (fun _ state =>
        Settling arguments arguments.resources.names state.progress)
      (fun _ state =>
        Settling arguments arguments.resources.names state.progress) := by
  refine Triple.bind (triple_startRuntime arguments environment) fun _ => ?_
  refine Triple.bind (triple_checkAuthProvider arguments) fun _ => ?_
  refine
    Triple.bind
      ((triple_start arguments environment).weaken_raise
        fun _ _ settling => ?_)
      fun _ => ?_
  · exact settling.widen List.nil_prefix
  refine
    Triple.bind (triple_checkResources arguments environment) fun _ => ?_
  apply triple_iff_forall_run.mpr
  intro state starting
  rcases run_runUserLifespan environment arguments.lifespan state with
    ⟨added, progress, served, serving, exits⟩
  rw [progress]
  exact starting.serve served serving exits

/-- The trace is complete and no instance is live. -/
def Closed (state : AppState) : Prop :=
  TraceLaw arguments state.events ∧ state.instances = .empty

theorem Settling.instances_eq {state : AppState}
    (settling : Settling arguments [] state.progress) :
    state.instances = .empty := by
  ext : 1
  have none_ : state.instances.keys = [] :=
    List.prefix_nil.mp settling.live
  exact List.map_eq_nil_iff.mp none_

/-- Closing a settled run completes its trace. -/
theorem triple_closeAppRuntime :
    Triple (fun state => Settling arguments [] state.progress)
      (closeAppRuntime environment)
      (fun _ => Closed arguments) (fun _ => Closed arguments) := by
  apply Triple.read
  intro current settling
  have empty := settling.instances_eq
  split
  · next noRuntime =>
      apply Triple.pure
      rintro _ rfl
      exact ⟨settling.traceLaw_of_noRuntime noRuntime, empty⟩
  · next runtime found =>
      have closed :
          Triple (fun state => state = current)
            (recorded .closeRuntime (ofExcept environment.closeRuntime))
            (fun _ => Closed arguments) (fun _ => Closed arguments) := by
        apply triple_recorded_ofExcept
        · rintro _ _ rfl
          exact ⟨settling.traceLaw_of_runtime found none, empty⟩
        · rintro exception _ rfl
          exact
            ⟨settling.traceLaw_of_runtime found (some exception), empty⟩
      apply Triple.tryExcept closed
      intro exception
      have unrecorded :
          Preserves AppState.progress (reportCloseFailure exception) := by
        rw [reportCloseFailure]
        split
        · apply Preserves.bind
          · exact Preserves.update fun _ => rfl
          · exact fun _ => Preserves.raise exception
        · exact Preserves.raise exception
      exact
        Triple.of_preserves unrecorded fun progress =>
          TraceLaw arguments progress.events ∧ progress.instances = .empty

end Phases

/-! ## The trace law -/

theorem managedLifespan_closed (arguments : LifespanArguments)
    (environment : LifespanEnvironment) (state : AppState) :
    Closed arguments
      ((arguments.managedLifespan environment).run state.atRest).2 := by
  have closing :
      Triple
        (fun state =>
          Settling arguments arguments.resources.names state.progress)
        (tryFinally (arguments.resources.close environment)
          (closeAppRuntime environment))
        (fun _ => Closed arguments) (fun _ => Closed arguments) := by
    have closed :
        Triple
          (fun state =>
            Settling arguments arguments.resources.names state.progress)
          (arguments.resources.close environment)
          (fun _ state => Settling arguments [] state.progress)
          (fun _ state => Settling arguments [] state.progress) := by
      apply triple_iff_forall_run.mpr
      intro state settling
      rw [ResourceRegistry.run_close]
      exact Settling.closeAll environment arguments.resources.nodup settling
    exact
      Triple.tryFinally closed
        (fun _ => triple_closeAppRuntime arguments environment)
        fun _ => triple_closeAppRuntime arguments environment
  have run :
      Triple (fun current => current = state.atRest)
        (arguments.managedLifespan environment)
        (fun _ => Closed arguments) (fun _ => Closed arguments) := by
    refine
      Triple.update_bind _
        (Triple.tryFinally (triple_startAndServe arguments environment)
          (fun _ => closing) fun _ => closing) ?_
    rintro _ rfl
    rfl
  exact triple_iff_forall_run.mp run state.atRest rfl

/-- Every run satisfies the trace law, however its steps end. -/
theorem managedLifespan_traceLaw (arguments : LifespanArguments)
    (environment : LifespanEnvironment) (state : AppState) :
    TraceLaw arguments
      ((arguments.managedLifespan environment).run state.atRest).2.events :=
  (managedLifespan_closed arguments environment state).1

/-- The key of a cache. -/
def ResourceKey.cache : ResourceKey where
  name := "cache"
  notBlank := by decide

/-- A database and a cache behind it. -/
def cachedDatabase : ResourceRegistry where
  bindings :=
    [ { key := .database, factory := .function 1, close := some (.function 3) },
      { key := .cache, factory := .function 2, close := some (.function 4) } ]
  valid := by decide
  nodup := by decide

/-- The lifespan of an application with both. -/
def cachedArguments : LifespanArguments where
  config := .enabling []
  resources := cachedDatabase

/-- A run whose closers fail. -/
def failingClosers : LifespanEnvironment :=
  { LifespanEnvironment.quiet .empty with
    closer := fun name => .error (.valueError name) }

theorem traceLaw_cachedDatabase :
    ∃ events,
      ((cachedArguments.managedLifespan failingClosers).run
          (AppState.atRest { readinessRegistry := .new none })).2.events =
        events ∧
        TraceLaw cachedArguments events ∧
        factoryCalls events = ["database", "cache"] ∧
        closeAttempts events = ["cache", "database"] := by
  have law :=
    managedLifespan_traceLaw cachedArguments failingClosers
      { readinessRegistry := .new none }
  refine ⟨_, Eq.refl _, law, ?_, ?_⟩
  · exact Eq.refl _
  · exact law.closeOrder

end FastapiCore
