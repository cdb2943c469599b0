import FastapiCore.Library.WorkerPool
import FastapiCore.ReadinessCheck
import Mathlib.Logic.Function.Basic

/-!
# Calls of SDK methods from the event loop

`invoke_resource` awaits a coroutine function in its own task and hands any
other callable to the default worker pool of `asyncio`, where it may return an
awaitable, which is then awaited in the task.  `_invoke_check` does the same
for a readiness check, and both share the pool.

`InvocationStep` is the step relation of any number of these calls.  A
cancellation or a timeout ends the task which awaits, unless a coroutine
suppresses it.  It takes a call which no worker has started out of the queue,
but it does not stop a worker.
-/

namespace FastapiCore

open Library

/-! ## What is called -/

/-- What `inspect` tells about a callable and its `__call__`. -/
structure Method where
  isCoroutineFunction : Bool
  callIsCoroutineFunction : Bool
deriving DecidableEq

/-- The function which invokes. -/
inductive Invoker where
  | resource
  | check
deriving DecidableEq

/-- Whether the callable is awaited directly. -/
def Invoker.awaitsDirectly (method : Method) : Invoker → Bool
  | .resource =>
      method.isCoroutineFunction || method.callIsCoroutineFunction
  | .check => method.isCoroutineFunction

/-- The first argument of `ResourceBinding.call`. -/
inductive MethodArgument where
  | callable (method : Method)
  | methodName (text : String)

/-- The arguments of `_invoke_check` or `invoke_resource`. -/
structure InvocationRequest where
  invoker : Invoker := .resource
  method : Except PyExc Method
  timeoutSeconds : Option ℚ := none

/--
`ResourceBinding.call`, where `getattr` looks a method of the instance up.
What the lookup raises is raised before anything is invoked.
-/
def ResourceBinding.call (getattr : PyObject → String → Except PyExc Method)
    (method : MethodArgument) (resource : Option PyObject)
    (timeoutSeconds : Option ℚ) : InvocationRequest where
  timeoutSeconds
  method :=
    match method with
    | .callable method => .ok method
    | .methodName text =>
        match resource with
        | none =>
            .error
              (.valueError
                "resource method name requires a typed instance")
        | some resource => getattr resource text

/-- Why the method is not invoked at all. -/
def InvocationRequest.refusal? (request : InvocationRequest) :
    Option PyExc :=
  match request.method with
  | .error exception => some exception
  | .ok _ =>
      match request.invoker, request.timeoutSeconds with
      | .resource, some limit =>
          if limit ≤ 0 then
            some (.valueError "timeout_seconds must be greater than zero")
          else none
      | _, _ => none

/-- Whether the method is called in the task of the event loop. -/
def InvocationRequest.awaitsDirectly (request : InvocationRequest) : Bool :=
  match request.method with
  | .error _ => false
  | .ok method => request.invoker.awaitsDirectly method

/-! ## One invocation -/

section Model

variable {α : Type}

/-- Where an invocation is. -/
inductive InvocationPhase (α : Type) where
  | scheduled
  | queued
  | inThread
  | inTask
  | done (outcome : Except PyExc α)

/-- An invocation, with the number of times its method has been called. -/
structure Invocation (α : Type) where
  request : InvocationRequest
  phase : InvocationPhase α
  timer : Bool
  calls : Nat := 0

/-- What a worker thread gives back to the task. -/
inductive ThreadResult (α : Type) where
  | value (result : α)
  | awaitable

/-- What happens to an invocation. -/
inductive InvocationEvent (α : Type) where
  | callInTask
  | submit
  | startThread
  | threadReturns (result : Except PyExc (ThreadResult α))
  | settle (outcome : Except PyExc α)
  | cancel (suppressed : Bool)
  | expire (suppressed : Bool)

namespace Invocation

/-- The invocation when its function has been called. -/
def begin (request : InvocationRequest) : Invocation α where
  request
  phase :=
    match request.refusal? with
    | some exception => .done (.error exception)
    | none => .scheduled
  timer := request.timeoutSeconds.isSome

variable (invocation : Invocation α)

/-- A cancellation by the caller or the timer reaches the innermost await. -/
def interrupt (reason : PyExc) (suppressed : Bool) : Invocation α :=
  match invocation.phase with
  | .done _ => invocation
  | .inTask =>
      if suppressed then invocation
      else { invocation with phase := .done (.error reason) }
  | _ => { invocation with phase := .done (.error reason) }

/-- The invocation after an event. -/
def advance : InvocationEvent α → Invocation α
  | .callInTask =>
      { invocation with phase := .inTask, calls := invocation.calls + 1 }
  | .submit => { invocation with phase := .queued }
  | .startThread =>
      { invocation with phase := .inThread, calls := invocation.calls + 1 }
  | .threadReturns result =>
      match invocation.phase with
      | .inThread =>
          match result with
          | .error exception =>
              { invocation with phase := .done (.error exception) }
          | .ok (.value value) =>
              { invocation with phase := .done (.ok value) }
          | .ok .awaitable => { invocation with phase := .inTask }
      | _ => invocation
  | .settle outcome => { invocation with phase := .done outcome }
  | .cancel suppressed => invocation.interrupt .cancelledError suppressed
  | .expire suppressed =>
      { invocation with timer := false }.interrupt .timeoutError suppressed

/-- The invocation has returned or raised. -/
def Ended : Prop :=
  ∃ outcome, invocation.phase = .done outcome

/-- When the task of an invocation allows an event; workers act freely. -/
def Enables : InvocationEvent α → Prop
  | .callInTask =>
      invocation.phase = .scheduled ∧
        invocation.request.awaitsDirectly = true
  | .submit =>
      invocation.phase = .scheduled ∧
        invocation.request.awaitsDirectly = false
  | .startThread => True
  | .threadReturns _ => True
  | .settle _ => invocation.phase = .inTask
  | .cancel _ => ¬invocation.Ended
  | .expire _ => ¬invocation.Ended ∧ invocation.timer = true

end Invocation

/-! ## All invocations -/

/-- The action of the worker pool in an event. -/
def InvocationEvent.poolAction? (id : Nat) :
    InvocationEvent α → Option (PoolAction Nat)
  | .submit => some (.submit id)
  | .startThread => some (.start id)
  | .threadReturns _ => some (.finish id)
  | .cancel _ => some (.drop id)
  | .expire _ => some (.drop id)
  | .callInTask => none
  | .settle _ => none

/-- The invocations of a process, and its default worker pool. -/
structure InvocationServer (α : Type) where
  pool : WorkerPool Nat := {}
  invocations : Nat → Option (Invocation α) := fun _ => none

/-- What happens in one step. -/
inductive InvocationLabel (α : Type) where
  | invoke (id : Nat) (request : InvocationRequest)
  | event (id : Nat) (event : InvocationEvent α)

/-- The action of the worker pool in a step. -/
def InvocationLabel.poolAction? :
    InvocationLabel α → Option (PoolAction Nat)
  | .invoke _ _ => none
  | .event id happened => happened.poolAction? id

/-- One step of an invocation or of a worker. -/
inductive InvocationStep (workers : Nat) :
    InvocationServer α → InvocationLabel α → InvocationServer α → Prop where
  | invoke {server : InvocationServer α} {id : Nat}
      (request : InvocationRequest) (new : server.invocations id = none) :
      InvocationStep workers server (.invoke id request)
        { server with
          invocations :=
            Function.update server.invocations id
              (some (.begin request)) }
  | event {server : InvocationServer α} {id : Nat}
      {invocation : Invocation α} (event : InvocationEvent α)
      (present : server.invocations id = some invocation)
      (enabled : invocation.Enables event)
      (allowed :
        ∀ action, event.poolAction? id = some action →
          server.pool.Allows workers action) :
      InvocationStep workers server (.event id event)
        { pool :=
            (event.poolAction? id).elim server.pool server.pool.after
          invocations :=
            Function.update server.invocations id
              (some (invocation.advance event)) }

end Model

end FastapiCore
