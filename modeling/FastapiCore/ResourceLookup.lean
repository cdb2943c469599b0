import FastapiCore.Dependencies
import FastapiCore.LifespanErrors
import FastapiCore.StaleChecks

/-!
# Looking up a managed resource

A resource is looked up by its name, by its `ResourceKey` or by its
`ResourceBinding`, in the registry or through a dependency.  Requests and
closers run between any two steps of a `start` or a `close`, so the calls of
the registry are taken apart here: `RegistryStep` is one step of such a call,
with every way in which a factory, a registration or a closer may end, and
the calls of the model are runs of it.

The labels of a run say which resource is available, without looking at the
instances of the registry.
-/

namespace FastapiCore

open Library
open Library.Effect

/-! ## Lookups -/

/-- The type `str | ResourceKey | ResourceBinding` of a handle. -/
inductive ResourceHandle where
  | str (name : Name)
  | key (resourceKey : ResourceKey)
  | binding (resourceBinding : ResourceBinding)

/-- `ResourceRegistry._name`, which returns a binding as it is. -/
def ResourceHandle.name : ResourceHandle → ResourceHandle
  | .key resourceKey => .str resourceKey.name
  | .str name => .str name
  | .binding resourceBinding => .binding resourceBinding

/--
`instances[handle]`.  The names are strings, which differ from every other
object; the error shows the representation of the handle.
-/
def getInstance (represent : ResourceHandle → String)
    (instances : OrderedDict Name PyObject) (handle : ResourceHandle) :
    Except PyExc PyObject :=
  let missing := { cls := .keyError, message := represent handle }
  match handle with
  | .str name =>
      match instances.get? name with
      | some value => .ok value
      | none => .error missing
  | _ => .error missing

/-- `ResourceRegistry.require`. -/
def requireResource (represent : ResourceHandle → String)
    (instances : OrderedDict Name PyObject) (handle : ResourceHandle) :
    Except PyExc PyObject :=
  getInstance represent instances handle.name

/-- `ResourceKey._not_available`. -/
def ResourceKey.notAvailable (resourceKey : ResourceKey) : PyExc :=
  .httpException 503
    ("Managed resource '" ++ resourceKey.name ++ "' is not available")

/--
`ResourceKey.dependency`, with the instances of the resource registry of the
application, if it has one.
-/
def ResourceKey.dependency (represent : ResourceHandle → String)
    (resourceKey : ResourceKey)
    (registry : Option (OrderedDict Name PyObject)) :
    Except PyExc PyObject :=
  match registry with
  | none => .error resourceKey.notAvailable
  | some instances =>
      match requireResource represent instances (.str resourceKey.name) with
      | .ok value => .ok value
      | .error exception =>
          if exception.cls = .keyError then
            .error resourceKey.notAvailable
          else .error exception

/-- `ResourceBinding.dependency`. -/
def ResourceBinding.dependency (represent : ResourceHandle → String)
    (binding : ResourceBinding) :
    Option (OrderedDict Name PyObject) → Except PyExc PyObject :=
  binding.key.dependency represent

/-- `get_resource`. -/
def getResource (represent : ResourceHandle → String) :
    ResourceHandle →
      Except PyExc
        (Option (OrderedDict Name PyObject) → Except PyExc PyObject)
  | .binding binding => .ok (binding.dependency represent)
  | .key resourceKey => .ok (resourceKey.dependency represent)
  | .str name =>
      (ResourceKey.new name).map fun resourceKey =>
        resourceKey.dependency represent

/-- The kinds of handle. -/
inductive HandleKind where
  | str
  | key
  | binding
deriving DecidableEq

/-- The handle of a declared resource. -/
def ResourceBinding.handle (binding : ResourceBinding) :
    HandleKind → ResourceHandle
  | .str => .str binding.name
  | .key => .key binding.key
  | .binding => .binding binding

/-- The ways of looking up a resource. -/
inductive ResourceLookup where
  | require (kind : HandleKind)
  | dependency (kind : HandleKind)
deriving DecidableEq

/-- What a lookup of a declared resource returns or raises. -/
def ResourceLookup.answer (represent : ResourceHandle → String)
    (binding : ResourceBinding) (instances : OrderedDict Name PyObject) :
    ResourceLookup → Except PyExc PyObject
  | .require kind =>
      requireResource represent instances (binding.handle kind)
  | .dependency kind =>
      (getResource represent (binding.handle kind)).bind fun dependency =>
        dependency (some instances)

/-! ## The steps of a start and of a close -/

/-- Where a call on a resource registry stands. -/
inductive RegistryControl where
  | idle
  | creating (todo : List ManagedResource)
  | registering (spec : ReadinessCheckSpec) (todo : List ManagedResource)
  | closing (todo : List ManagedResource) (failures : List PyExc)
      (cause : Option PyExc)
  | awaitingCloser (resource : ManagedResource) (value : PyObject)
      (todo : List ManagedResource) (failures : List PyExc)
      (cause : Option PyExc)

/-- Where a call stands, in which state of the application. -/
structure RegistryPoint where
  control : RegistryControl
  app : AppState

/-- What happens in one step. -/
inductive RegistryLabel where
  | start
  | created (name : Name) (value : PyObject)
  | createRaised (name : Name) (exception : PyExc)
  | registered (name : Name)
  | registerRaised (name : Name) (exception : PyExc)
  | close
  | skipped (name : Name)
  | closeBegan (name : Name)
  | closeEnded (name : Name) (raised : Option PyExc)
  | ended (outcome : Except PyExc PUnit)

/-- A started resource without a health check has nothing to register. -/
def ManagedResource.afterCreation (resource : ManagedResource)
    (value : PyObject) (todo : List ManagedResource) : RegistryControl :=
  match resource.healthcheck with
  | none => .creating todo
  | some healthcheck =>
      .registering (resource.readinessCheckSpec healthcheck value) todo

/-- How a close ends; in a rollback it keeps the cause. -/
def closeOutcome (failures : List PyExc) :
    Option PyExc → Except PyExc PUnit
  | none => shutdownOutcome failures
  | some exception => .error (noted exception failures)

/--
One step of a `start` or a `close`.  Factories, registrations and closers may
raise any exception; a start finds no live instance.
-/
inductive RegistryStep (registry : ResourceRegistry) :
    RegistryPoint → RegistryLabel → RegistryPoint → Prop where
  | start {app : AppState} (atRest : app.instances = .empty) :
      RegistryStep registry ⟨.idle, app⟩ .start
        ⟨.creating registry.resources, app⟩
  | created {app : AppState} {resource : ManagedResource}
      {todo : List ManagedResource} (value : PyObject) :
      RegistryStep registry ⟨.creating (resource :: todo), app⟩
        (.created resource.name.resolve value)
        ⟨resource.afterCreation value todo,
          (app.record (.createResource resource.name.resolve)
              none).assignInstance resource.name.resolve value⟩
  | createRaised {app : AppState} {resource : ManagedResource}
      {todo : List ManagedResource} (exception : PyExc) :
      RegistryStep registry ⟨.creating (resource :: todo), app⟩
        (.createRaised resource.name.resolve exception)
        ⟨.closing registry.resources.reverse [] (some exception),
          app.record (.createResource resource.name.resolve)
            (some exception)⟩
  | registered {app : AppState} {spec : ReadinessCheckSpec}
      {todo : List ManagedResource} {next : ReadinessRegistry}
      (accepted : app.readinessRegistry.register spec = .ok next) :
      RegistryStep registry ⟨.registering spec todo, app⟩
        (.registered spec.name)
        ⟨.creating todo,
          (app.setReadiness next).record (.registerCheck spec) none⟩
  | registerRaised {app : AppState} {spec : ReadinessCheckSpec}
      {todo : List ManagedResource} (exception : PyExc) :
      RegistryStep registry ⟨.registering spec todo, app⟩
        (.registerRaised spec.name exception)
        ⟨.closing registry.resources.reverse [] (some exception),
          app.record (.registerCheck spec) (some exception)⟩
  | started {app : AppState} :
      RegistryStep registry ⟨.creating [], app⟩ (.ended (.ok ⟨⟩))
        ⟨.idle, app⟩
  | close {app : AppState} :
      RegistryStep registry ⟨.idle, app⟩ .close
        ⟨.closing registry.resources.reverse [] none, app⟩
  | skipped {app : AppState} {resource : ManagedResource}
      {todo : List ManagedResource} {failures : List PyExc}
      {cause : Option PyExc}
      (absent : app.instances.get? resource.name.resolve = none) :
      RegistryStep registry ⟨.closing (resource :: todo) failures cause, app⟩
        (.skipped resource.name.resolve)
        ⟨.closing todo failures cause, app⟩
  | closeBegan {app : AppState} {resource : ManagedResource}
      {todo : List ManagedResource} {failures : List PyExc}
      {cause : Option PyExc} {value : PyObject}
      (live : app.instances.get? resource.name.resolve = some value) :
      RegistryStep registry ⟨.closing (resource :: todo) failures cause, app⟩
        (.closeBegan resource.name.resolve)
        ⟨.awaitingCloser resource value todo failures cause,
          app.popInstance resource.name.resolve⟩
  | closeEnded {app : AppState} {resource : ManagedResource}
      {value : PyObject} {todo : List ManagedResource}
      {failures : List PyExc} {cause : Option PyExc}
      (raised : Option PyExc)
      (possible : resource.closer value = none → raised = none) :
      RegistryStep registry
        ⟨.awaitingCloser resource value todo failures cause, app⟩
        (.closeEnded resource.name.resolve raised)
        ⟨.closing todo (failures ++ raised.toList) cause,
          (app.record
              (.closeResource resource.name.resolve (resource.closer value))
              raised).setReadiness
            (app.readinessRegistry.withoutOwnCheck resource value)⟩
  | closed {app : AppState} {failures : List PyExc}
      {cause : Option PyExc} :
      RegistryStep registry ⟨.closing [] failures cause, app⟩
        (.ended (closeOutcome failures cause)) ⟨.idle, app⟩

/-! ## Availability -/

/-- The label starts a run, or ends or replaces the instance of a name. -/
def RegistryLabel.Ends (name : Name) : RegistryLabel → Prop
  | .start => True
  | .created other _ => other = name
  | .closeBegan other => other = name
  | _ => False

/--
The factory of this name has returned the value in the current run, and the
close of the resource has not begun.
-/
def Available (labels : List RegistryLabel) (name : Name)
    (value : PyObject) : Prop :=
  ∃ before after,
    labels = before ++ .created name value :: after ∧
      ∀ label ∈ after, ¬label.Ends name

/-- How a lookup refuses a resource which is not available. -/
def ResourceLookup.Refuses (binding : ResourceBinding) :
    ResourceLookup → PyExc → Prop
  | .require _, exception => exception.cls = .keyError
  | .dependency _, exception =>
      exception =
        .httpException 503
          ("Managed resource '" ++ binding.name ++ "' is not available")

/-- The answer which a lookup is to give after these steps. -/
structure ResourceLookup.Answers (lookup : ResourceLookup)
    (binding : ResourceBinding) (labels : List RegistryLabel)
    (answer : Except PyExc PyObject) : Prop where
  available :
    ∀ value, Available labels binding.name value → answer = .ok value
  unavailable :
    (∀ value, ¬Available labels binding.name value) →
      ∃ exception, answer = .error exception ∧
        lookup.Refuses binding exception

namespace Available

variable {labels : List RegistryLabel} {label : RegistryLabel}
  {name : Name} {value : PyObject}

theorem not_nil : ¬Available [] name value := by
  rintro ⟨before, after, split, -⟩
  exact (List.append_ne_nil_of_right_ne_nil _ (List.cons_ne_nil _ _)) split.symm

theorem snoc_iff :
    Available (labels ++ [label]) name value ↔
      label = .created name value ∨
        Available labels name value ∧ ¬label.Ends name := by
  constructor
  · rintro ⟨before, after, split, open_⟩
    rcases List.eq_nil_or_concat' after with rfl | ⟨earlier, last, rfl⟩
    · have same := List.append_inj' split rfl
      exact Or.inl (List.cons.inj same.2).1
    · rw [← List.cons_append, ← List.append_assoc] at split
      have same := List.append_inj' split rfl
      cases (List.cons.inj same.2).1
      rw [List.forall_mem_append] at open_
      exact
        Or.inr
          ⟨⟨before, earlier, same.1, open_.1⟩,
            open_.2 _ (List.mem_singleton_self _)⟩
  · rintro (rfl | ⟨⟨before, after, rfl, open_⟩, last⟩)
    · exact ⟨labels, [], rfl, by simp⟩
    · refine ⟨before, after ++ [label], by simp, ?_⟩
      exact
        List.forall_mem_append.mpr
          ⟨open_, List.forall_mem_singleton.mpr last⟩

end Available

/-- What a step does to the instances, by its label. -/
def instancesAfter (instances : OrderedDict Name PyObject) :
    RegistryLabel → OrderedDict Name PyObject
  | .created name value => instances.insert name value
  | .closeBegan name => instances.erase name
  | _ => instances

section Steps

variable {registry : ResourceRegistry} {point next : RegistryPoint}
  {label : RegistryLabel} {labels : List RegistryLabel}

/-- Only a creation and the begin of a close change the instances. -/
theorem RegistryStep.instances_eq
    (step : RegistryStep registry point label next) :
    next.app.instances = instancesAfter point.app.instances label := by
  cases step <;> rfl

/-- A start finds no live instance. -/
theorem RegistryStep.atRest_of_start
    (step : RegistryStep registry point .start next) :
    point.app.instances = .empty := by
  cases step
  assumption

/-- The instances of a registry are the available resources. -/
def Tracks (labels : List RegistryLabel) (point : RegistryPoint) : Prop :=
  ∀ name value,
    point.app.instances.get? name = some value ↔
      Available labels name value

theorem Tracks.step (tracks : Tracks labels point)
    (step : RegistryStep registry point label next) :
    Tracks (labels ++ [label]) next := by
  intro name value
  rw [step.instances_eq, Available.snoc_iff, ← tracks name value]
  cases label with
  | start =>
      have atRest := step.atRest_of_start
      simp [instancesAfter, RegistryLabel.Ends, atRest]
  | created other made =>
      by_cases same : other = name
      · subst same
        simp [instancesAfter, RegistryLabel.Ends]
      · rw [instancesAfter, OrderedDict.get?_insert_of_ne (Ne.symm same)]
        simp [RegistryLabel.Ends, same]
  | closeBegan other =>
      by_cases same : other = name
      · subst same
        simp [instancesAfter, RegistryLabel.Ends]
      · rw [instancesAfter, OrderedDict.get?_erase_of_ne (Ne.symm same)]
        simp [RegistryLabel.Ends, same]
  | _ => simp [instancesAfter, RegistryLabel.Ends]

/-- In every run, the instances are the available resources. -/
theorem tracks_of_run {initial : AppState}
    (run :
      Run (RegistryStep registry) ⟨.idle, initial.atRest⟩ labels point) :
    Tracks labels point := by
  apply run.labelled_invariant
  · intro name value
    rw [iff_false_right Available.not_nil]
    show OrderedDict.empty.get? name ≠ some value
    simp
  · exact fun _ _ _ _ step tracks => tracks.step step

end Steps

/-! ## The calls of the model are runs -/

section Refinement

variable (registry : ResourceRegistry) (environment : LifespanEnvironment)

/-- Some run leads from one point to the other. -/
def Leads (point next : RegistryPoint) : Prop :=
  ∃ labels, Run (RegistryStep registry) point labels next

variable {registry}

theorem RegistryStep.leads {point next : RegistryPoint}
    {label : RegistryLabel} (step : RegistryStep registry point label next) :
    Leads registry point next :=
  ⟨[label], Run.nil.snoc step⟩

theorem Leads.trans {point between next : RegistryPoint}
    (first : Leads registry point between)
    (second : Leads registry between next) : Leads registry point next := by
  rcases first with ⟨earlier, run⟩
  rcases second with ⟨later, goesOn⟩
  exact ⟨earlier ++ later, run.append goesOn⟩

variable {environment}

theorem possible_closerFailure {resource : ManagedResource}
    {value : PyObject} (noCloser : resource.closer value = none) :
    closerFailure environment resource value = none := by
  rw [closerFailure, noCloser]

/-- The loop in `close`. -/
theorem leads_closing (todo : List ManagedResource)
    (failures : List PyExc) (cause : Option PyExc) (app : AppState) :
    Leads registry ⟨.closing todo failures cause, app⟩
      ⟨.closing [] (failures ++ closeFailures environment todo app) cause,
        todo.foldl (AppState.closeOne environment) app⟩ := by
  induction todo generalizing failures app with
  | nil =>
      rw [closeFailures, List.append_nil]
      exact ⟨[], .nil⟩
  | cons resource rest induction =>
      rw [List.foldl_cons, closeFailures, ← List.append_assoc]
      refine Leads.trans ?_ (induction _ _)
      rw [AppState.closeOne, closeFailure]
      cases live : app.instances.get? resource.name.resolve with
      | none =>
          dsimp only [Option.bind, Option.toList]
          rw [List.append_nil]
          exact (RegistryStep.skipped live).leads
      | some value =>
          apply (RegistryStep.closeBegan live).leads.trans
          apply RegistryStep.leads
          exact RegistryStep.closeEnded _ possible_closerFailure

theorem leads_closeAll (failures : List PyExc) (cause : Option PyExc)
    (app : AppState) :
    Leads registry
      ⟨.closing registry.resources.reverse failures cause, app⟩
      ⟨.closing [] (failures ++ registry.failures environment app) cause,
        app.closeAll environment registry.resources⟩ :=
  leads_closing _ _ _ _

/-- A `close` of the model is a run which ends with its outcome. -/
theorem run_close_refines (environment : LifespanEnvironment)
    (app : AppState) :
    ∃ labels,
      Run (RegistryStep registry) ⟨.idle, app⟩
        (labels ++ [.ended ((registry.close environment).run app).1])
        ⟨.idle, ((registry.close environment).run app).2⟩ := by
  have begins :
      Leads registry ⟨.idle, app⟩
        ⟨.closing registry.resources.reverse [] none, app⟩ :=
    RegistryStep.close.leads
  rcases begins.trans (leads_closeAll [] none app) with ⟨labels, run⟩
  refine ⟨labels, run.snoc ?_⟩
  rw [(registry.run_close_eq environment app).1, registry.run_close,
    ← registry.failures_eq]
  exact RegistryStep.closed

/-- Where a start goes on: with the other resources, or in the rollback. -/
def ResourceRegistry.goesOn (registry : ResourceRegistry)
    (rest : List ManagedResource) : Except PyExc PUnit → RegistryControl
  | .ok _ => .creating rest
  | .error exception =>
      .closing registry.resources.reverse [] (some exception)

theorem leads_registerResourceCheck (spec : ReadinessCheckSpec)
    (rest : List ManagedResource) (app : AppState) :
    Leads registry ⟨.registering spec rest, app⟩
      ⟨registry.goesOn rest
          ((registerResourceCheck environment spec).run app).1,
        ((registerResourceCheck environment spec).run app).2⟩ := by
  rw [run_registerResourceCheck]
  cases environment.registrationInterrupt spec.name with
  | some exception => exact (RegistryStep.registerRaised exception).leads
  | none =>
      cases registered : app.readinessRegistry.register spec with
      | ok next => exact (RegistryStep.registered registered).leads
      | error exception =>
          exact (RegistryStep.registerRaised exception).leads

/-- One iteration of the loop in `start`. -/
theorem leads_startResource (resource : ManagedResource)
    (rest : List ManagedResource) (app : AppState) :
    Leads registry ⟨.creating (resource :: rest), app⟩
      ⟨registry.goesOn rest
          ((startResource environment resource).run app).1,
        ((startResource environment resource).run app).2⟩ := by
  rw [startResource, run_bind, run_recorded, run_ofExcept]
  cases environment.factory resource.name.resolve with
  | error exception => exact (RegistryStep.createRaised exception).leads
  | ok value =>
      dsimp only
      rw [run_update_bind]
      have created :
          Leads registry ⟨.creating (resource :: rest), app⟩ _ :=
        (RegistryStep.created value).leads
      rw [ManagedResource.afterCreation] at created
      cases check : resource.healthcheck with
      | none =>
          rw [check] at created
          exact created
      | some healthcheck =>
          rw [check] at created
          exact created.trans (leads_registerResourceCheck _ rest _)

/-- The loop in `start`. -/
theorem leads_startLoop (resources : List ManagedResource)
    (app : AppState) :
    Leads registry ⟨.creating resources, app⟩
      ⟨registry.goesOn []
          ((forM resources (startResource environment)).run app).1,
        ((forM resources (startResource environment)).run app).2⟩ := by
  induction resources generalizing app with
  | nil => exact ⟨[], .nil⟩
  | cons resource rest induction =>
      have first :=
        @leads_startResource registry environment resource rest app
      rw [List.forM_cons, run_bind]
      rcases ran : (startResource environment resource).run app with
        ⟨outcome, later⟩
      rw [ran] at first
      cases outcome with
      | ok value => exact first.trans (induction later)
      | error exception => exact first

/-- A `start` of the model is a run which ends with its outcome. -/
theorem run_start_refines (environment : LifespanEnvironment)
    {app : AppState} (atRest : app.instances = .empty) :
    ∃ labels,
      Run (RegistryStep registry) ⟨.idle, app⟩
        (labels ++ [.ended ((registry.start environment).run app).1])
        ⟨.idle, ((registry.start environment).run app).2⟩ := by
  have begins := (@RegistryStep.start registry app atRest).leads
  have loop :=
    begins.trans (@leads_startLoop registry environment _ app)
  rw [ResourceRegistry.start, run_tryExcept]
  rcases ran :
      (forM registry.resources (startResource environment)).run app with
    ⟨outcome, later⟩
  rw [ran] at loop
  cases outcome with
  | ok value =>
      rcases loop with ⟨labels, run⟩
      exact ⟨labels, run.snoc RegistryStep.started⟩
  | error exception =>
      rcases loop.trans (leads_closeAll [] _ later) with ⟨labels, run⟩
      refine ⟨labels, run.snoc ?_⟩
      dsimp only
      rw [registry.run_rollback, registry.reported_eq,
        ← registry.failures_eq]
      exact RegistryStep.closed

/-- Whatever calls of the model reach is reached between two calls. -/
theorem leads_of_reaches {initial state : AppState}
    (reaches : registry.Reaches initial state) :
    Leads registry ⟨.idle, initial.atRest⟩ ⟨.idle, state⟩ := by
  rcases reaches with ⟨actions, run⟩
  apply run.invariant
  · exact ⟨[], .nil⟩
  · intro before action after step reached
    cases step with
    | start environment atRest =>
        rcases run_start_refines environment atRest with ⟨labels, goesOn⟩
        exact reached.trans ⟨_, goesOn⟩
    | close environment =>
        rcases @run_close_refines registry environment before with
          ⟨labels, goesOn⟩
        exact reached.trans ⟨_, goesOn⟩

end Refinement

/-! ## The answers -/

section Answers

variable {represent : ResourceHandle → String} {binding : ResourceBinding}
  {instances : OrderedDict Name PyObject} {lookup : ResourceLookup}

/-- What a lookup by name raises without an instance. -/
def ResourceLookup.refusal (represent : ResourceHandle → String)
    (binding : ResourceBinding) : ResourceLookup → PyExc
  | .require _ =>
      { cls := .keyError, message := represent (.str binding.name) }
  | .dependency _ => binding.key.notAvailable

/-- The answer to a lookup which asks for the name of the resource. -/
def ResourceLookup.answerByName (represent : ResourceHandle → String)
    (binding : ResourceBinding) (instances : OrderedDict Name PyObject)
    (lookup : ResourceLookup) : Except PyExc PyObject :=
  match instances.get? binding.name with
  | some value => .ok value
  | none => .error (lookup.refusal represent binding)

theorem dependency_key_eq :
    binding.key.dependency represent (some instances) =
      (ResourceLookup.dependency .key).answerByName represent binding
        instances := by
  rw [ResourceKey.dependency, ResourceLookup.answerByName, requireResource,
    ResourceHandle.name, getInstance, ResourceBinding.name]
  cases instances.get? binding.key.name with
  | none => rfl
  | some value => rfl

/-- Every dependency asks for the name. -/
theorem answer_dependency (kind : HandleKind) :
    (ResourceLookup.dependency kind).answer represent binding instances =
      (ResourceLookup.dependency kind).answerByName represent binding
        instances := by
  have byKey := @dependency_key_eq represent binding instances
  cases kind with
  | key => exact byKey
  | binding => exact byKey
  | str =>
      have valid : ResourceKey.new binding.name = .ok binding.key := by
        rw [ResourceKey.new, dif_neg]
        · rfl
        · rw [ResourceBinding.name, binding.key.notBlank]
          exact Bool.false_ne_true
      show (getResource represent (.str binding.name)).bind _ = _
      rw [getResource, valid]
      exact byKey

/-- Every lookup but one asks for the name. -/
theorem answer_eq_answerByName (other : lookup ≠ .require .binding) :
    lookup.answer represent binding instances =
      lookup.answerByName represent binding instances := by
  cases lookup with
  | dependency kind => exact answer_dependency kind
  | require kind =>
      have byName :
          getInstance represent instances (.str binding.name) =
            (ResourceLookup.require kind).answerByName represent binding
              instances := by
        rw [getInstance, ResourceLookup.answerByName]
        cases instances.get? binding.name with
        | none => rfl
        | some value => rfl
      cases kind with
      | str => exact byName
      | key => exact byName
      | binding => exact (other rfl).elim

variable {labels : List RegistryLabel} {point : RegistryPoint}

/-- The answer by name is the one which the lookup is to give. -/
theorem Tracks.answers_answerByName (tracks : Tracks labels point) :
    lookup.Answers binding labels
      (lookup.answerByName represent binding point.app.instances) := by
  constructor
  · intro value available
    rw [ResourceLookup.answerByName,
      (tracks binding.name value).mpr available]
  · intro unavailable
    have absent : point.app.instances.get? binding.name = none := by
      apply Option.eq_none_iff_forall_ne_some.mpr
      intro value live
      exact unavailable value ((tracks binding.name value).mp live)
    rw [ResourceLookup.answerByName, absent]
    cases lookup with
    | require kind => exact ⟨_, rfl, rfl⟩
    | dependency kind => exact ⟨_, rfl, rfl⟩

end Answers

/--
At every point of every run, every lookup of a resource gives the answer of
the current run, but for a lookup in the registry by a `ResourceBinding`,
which finds no resource that is available.
-/
theorem ResourceLookup.answers_iff (registry : ResourceRegistry)
    (represent : ResourceHandle → String) (binding : ResourceBinding)
    (lookup : ResourceLookup) {initial : AppState}
    {labels : List RegistryLabel} {point : RegistryPoint}
    (run :
      Run (RegistryStep registry) ⟨.idle, initial.atRest⟩ labels point) :
    lookup.Answers binding labels
        (lookup.answer represent binding point.app.instances) ↔
      (lookup = .require .binding →
        ∀ value, ¬Available labels binding.name value) := by
  have tracks := tracks_of_run run
  constructor
  · rintro answers rfl value available
    cases answers.available value available
  · intro condition
    by_cases affected : lookup = .require .binding
    · subst affected
      refine ⟨fun value available => ?_, fun _ => ⟨_, rfl, rfl⟩⟩
      exact (condition rfl value available).elim
    · rw [answer_eq_answerByName affected]
      exact tracks.answers_answerByName

/-! ## A registry with one resource -/

/-- The binding of a database. -/
def databaseBinding : ResourceBinding where
  key := .database
  factory := .function 1

/-- A registry which declares it. -/
def databaseRegistry : ResourceRegistry where
  bindings := [databaseBinding]
  valid := by decide
  nodup := by decide

/-- An application whose readiness registry is empty. -/
def freshApp : AppState :=
  { readinessRegistry := .new none }

/-- The point of its start where the factory has returned. -/
def databaseCreated : RegistryPoint where
  control := .creating []
  app :=
    (freshApp.atRest.record (.createResource "database") none).assignInstance
      "database" { ref := 1 }

/-- The run which leads there. -/
theorem run_databaseCreated :
    Run (RegistryStep databaseRegistry) ⟨.idle, freshApp.atRest⟩
      [.start, .created "database" { ref := 1 }] databaseCreated :=
  have begins :
      RegistryStep databaseRegistry ⟨.idle, freshApp.atRest⟩ .start
        ⟨.creating [databaseBinding.managedResource], freshApp.atRest⟩ :=
    .start rfl
  (Run.nil.snoc begins).snoc (.created { ref := 1 })

/-- The database is looked up by its key. -/
theorem ResourceLookup.answers_databaseKey :
    (ResourceLookup.require .key).Answers databaseBinding
      [.start, .created "database" { ref := 1 }]
      ((ResourceLookup.require .key).answer (fun _ => "") databaseBinding
        databaseCreated.app.instances) :=
  (ResourceLookup.answers_iff databaseRegistry (fun _ => "")
    databaseBinding (.require .key) run_databaseCreated).mpr (by rintro ⟨⟩)

/-- A created database is not found by its binding. -/
theorem ResourceLookup.not_forall_answers :
    ¬∀ (registry : ResourceRegistry) (initial : AppState)
        (labels : List RegistryLabel) (point : RegistryPoint),
      Run (RegistryStep registry) ⟨.idle, initial.atRest⟩ labels point →
      ∀ binding ∈ registry.bindings, ∀ represent,
      ∀ lookup : ResourceLookup,
        lookup.Answers binding labels
          (lookup.answer represent binding point.app.instances) := by
  intro claim
  have answers :=
    claim databaseRegistry freshApp _ _ run_databaseCreated databaseBinding
      (List.mem_singleton_self _) (fun _ => "") (.require .binding)
  have available :
      Available [.start, .created "database" { ref := 1 }]
        databaseBinding.name { ref := 1 } :=
    ⟨[.start], [], rfl, by simp⟩
  cases answers.available _ available

end FastapiCore
