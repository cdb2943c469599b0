import FastapiCore.ResourceRegistry
import Mathlib.Logic.Function.Basic

/-!
# A streaming response which closes a resource

Every call of a `ManagedStreamingResponse` has a serving task.  When its
streaming has ended it starts a close task and awaits it twice: first through
`asyncio.shield`, and after a cancellation directly.  The close tasks of all
calls share a lock and the flag `_closed`.

`StreamingStep` is the step relation of any number of calls.  A cancellation
reaches the innermost await of the serving task: it ends the shield but not
the close task, and it is passed on to a close task which is awaited
directly.  The event loop runs a new task before it resumes a task which was
cancelled later, so no close task is cancelled before its first step.
-/

namespace FastapiCore

/-! ## The response -/

/-- What `_close_callable` reads of a `ManagedStreamingResponse`. -/
structure ManagedStreamingResponse where
  resource : Option PyObject := none
  resourceClose : Option Callable := none

/-- `_close_callable`. -/
def ManagedStreamingResponse.closeCallable
    (response : ManagedStreamingResponse) : Option Closer :=
  match response.resourceClose with
  | some callable => some (.given callable)
  | none =>
      match response.resource with
      | none => none
      | some resource =>
          if resource.aclose then some .aclose
          else if resource.close then some .close
          else none

/-! ## The outcome of a call -/

/-- How a block which returns nothing has ended. -/
abbrev Outcome := Except PyExc Unit

/-- The `except` block of `_close_with_cancellation_protection`. -/
def afterCancellation : Outcome → Outcome
  | .ok _ => .error .cancelledError
  | .error exception =>
      if exception.cls = .cancelledError then .error .cancelledError
      else .error exception

/--
`_close_with_cancellation_protection` when no cancellation has reached the
serving task: a close task which was cancelled also cancels the shield.
-/
def closeWithCancellationProtection : Outcome → Outcome
  | .ok _ => .ok ()
  | .error exception =>
      if exception.cls = .cancelledError then
        afterCancellation (.error exception)
      else .error exception

/-- `_close_preserving_error`. -/
def closePreservingError (error : PyExc) : Outcome → PyExc
  | .ok _ => error
  | .error closeError =>
      error.addNote
        ("managed streaming resource close failed: " ++ closeError.str)

/-- `__call__`, from the outcomes of the streaming and of the close. -/
def callOutcome (streamed closed : Outcome) : Outcome :=
  match streamed with
  | .ok _ => closed
  | .error error => .error (closePreservingError error closed)

/-! ## States -/

/-- Where the serving task of a call is. -/
inductive ServingTask where
  | idle
  | streaming
  | awaitsShield (streamed : Outcome)
  | awaitsClose (streamed : Outcome)
  | done (outcome : Outcome)

/-- Where the close task of a call is, which runs `_close_once`. -/
inductive CloseTask where
  | absent
  | scheduled
  | awaitsLock
  | closing
  | done (outcome : Outcome)

/-- How far the close callable has come. -/
inductive CloseProgress where
  | notInvoked
  | queued
  | inThread
  | inTask
  | finished (outcome : Outcome)
  | abandoned

/--
The calls of one response.  `cancelled` records that a cancellation has
reached the close before it has finished.
-/
structure StreamingState where
  serving : Nat → ServingTask
  closeTask : Nat → CloseTask
  closeLock : Option Nat
  closed : Bool
  close : CloseProgress
  invocations : Nat
  cancelled : Bool

namespace StreamingState

/-- A new response. -/
def initial : StreamingState where
  serving := fun _ => .idle
  closeTask := fun _ => .absent
  closeLock := none
  closed := false
  close := .notInvoked
  invocations := 0
  cancelled := false

variable (state : StreamingState) (call : Nat)

def setServing (task : ServingTask) : StreamingState :=
  { state with serving := Function.update state.serving call task }

def setCloseTask (task : CloseTask) : StreamingState :=
  { state with closeTask := Function.update state.closeTask call task }

/-- Streaming has ended: the close task is created and shielded. -/
def shieldClose (streamed : Outcome) : StreamingState :=
  (state.setServing call (.awaitsShield streamed)).setCloseTask call
    .scheduled

/-- The close task ends and releases the lock. -/
def endCloseTask (outcome : Outcome) : StreamingState :=
  { state.setCloseTask call (.done outcome) with closeLock := none }

/-- `_close_once` from the moment in which its task has the lock. -/
def closeOnce (response : ManagedStreamingResponse)
    (isCoroutineFunction : Closer → Bool) : StreamingState :=
  if state.closed then state.endCloseTask call (.ok ())
  else
    let marked := { state with closed := true }
    match response.closeCallable with
    | none => marked.endCloseTask call (.ok ())
    | some callable =>
        let holding :=
          { marked.setCloseTask call .closing with closeLock := some call }
        if isCoroutineFunction callable then
          { holding with
            close := .inTask
            invocations := holding.invocations + 1 }
        else { holding with close := .queued }

/-- A worker thread calls the close callable. -/
def startThread : StreamingState :=
  { state with
    close := .inThread
    invocations := state.invocations + 1 }

/-- The thread has returned an awaitable, which its task awaits. -/
def awaitResult : StreamingState :=
  match state.closeLock with
  | none => { state with close := .abandoned }
  | some _ => { state with close := .inTask }

/-- The close finishes, and with it the task which awaits it. -/
def finishClose (outcome : Outcome) : StreamingState :=
  match state.closeLock with
  | none => { state with close := .finished outcome }
  | some holder =>
      { state.endCloseTask holder outcome with close := .finished outcome }

/--
`task.cancel()` for a close task.  A close which a thread already runs goes
on without its task; a coroutine may suppress the cancellation.
-/
def cancelCloseTask (suppressed : Bool) : StreamingState :=
  match state.closeTask call with
  | .awaitsLock => state.setCloseTask call (.done (.error .cancelledError))
  | .closing =>
      let reached := { state with cancelled := true }
      match state.close with
      | .queued =>
          { reached.endCloseTask call (.error .cancelledError) with
            close := .abandoned }
      | .inTask =>
          if suppressed then reached
          else
            { reached.endCloseTask call (.error .cancelledError) with
              close := .abandoned }
      | .inThread => reached.endCloseTask call (.error .cancelledError)
      | _ => state
  | _ => state

/-- The serving task returns or raises. -/
def finish (streamed closed : Outcome) : StreamingState :=
  state.setServing call (.done (callOutcome streamed closed))

/-- A cancellation ends the shield; a finished close task is not awaited. -/
def cancelShield (streamed : Outcome) : StreamingState :=
  match state.closeTask call with
  | .done result =>
      state.finish call streamed (afterCancellation result)
  | _ => state.setServing call (.awaitsClose streamed)

/-- A cancellation reaches the close task which is awaited directly. -/
def cancelAwait (streamed : Outcome) (suppressed : Bool) :
    StreamingState :=
  match state.closeTask call with
  | .done _ =>
      state.finish call streamed
        (afterCancellation (.error .cancelledError))
  | _ => state.cancelCloseTask call suppressed

end StreamingState

/-! ## Steps -/

/-- What happens in one step. -/
inductive StreamingAction where
  | begin (call : Nat)
  | streamed (call : Nat)
  | cancel (call : Nat)
  | runCloseTask (call : Nat)
  | startThread
  | awaitResult
  | finishClose
  | resume (call : Nat)
deriving DecidableEq

/-- The steps of the calls of one response. -/
inductive StreamingStep (response : ManagedStreamingResponse)
    (isCoroutineFunction : Closer → Bool) :
    StreamingState → StreamingAction → StreamingState → Prop where
  | begin {state : StreamingState} {call : Nat}
      (idle : state.serving call = .idle) :
      StreamingStep response isCoroutineFunction state (.begin call)
        (state.setServing call .streaming)
  | streamed {state : StreamingState} {call : Nat} (outcome : Outcome)
      (streaming : state.serving call = .streaming) :
      StreamingStep response isCoroutineFunction state (.streamed call)
        (state.shieldClose call outcome)
  | cancelStreaming {state : StreamingState} {call : Nat}
      (streaming : state.serving call = .streaming) :
      StreamingStep response isCoroutineFunction state (.cancel call) state
  | cancelShield {state : StreamingState} {call : Nat}
      {streamed : Outcome}
      (awaits : state.serving call = .awaitsShield streamed)
      (started : state.closeTask call ≠ .scheduled) :
      StreamingStep response isCoroutineFunction state (.cancel call)
        (state.cancelShield call streamed)
  | cancelAwait {state : StreamingState} {call : Nat}
      {streamed : Outcome} (suppressed : Bool)
      (awaits : state.serving call = .awaitsClose streamed) :
      StreamingStep response isCoroutineFunction state (.cancel call)
        (state.cancelAwait call streamed suppressed)
  | acquireLock {state : StreamingState} {call : Nat}
      (waits :
        state.closeTask call = .scheduled ∨
          state.closeTask call = .awaitsLock)
      (free : state.closeLock = none) :
      StreamingStep response isCoroutineFunction state
        (.runCloseTask call)
        (state.closeOnce call response isCoroutineFunction)
  | awaitLock {state : StreamingState} {call holder : Nat}
      (scheduled : state.closeTask call = .scheduled)
      (held : state.closeLock = some holder) :
      StreamingStep response isCoroutineFunction state
        (.runCloseTask call) (state.setCloseTask call .awaitsLock)
  | startThread {state : StreamingState}
      (queued : state.close = .queued) :
      StreamingStep response isCoroutineFunction state .startThread
        state.startThread
  | awaitResult {state : StreamingState}
      (inThread : state.close = .inThread) :
      StreamingStep response isCoroutineFunction state .awaitResult
        state.awaitResult
  | finishClose {state : StreamingState} (outcome : Outcome)
      (running : state.close = .inThread ∨ state.close = .inTask) :
      StreamingStep response isCoroutineFunction state .finishClose
        (state.finishClose outcome)
  | resumeShield {state : StreamingState} {call : Nat}
      {streamed result : Outcome}
      (awaits : state.serving call = .awaitsShield streamed)
      (done : state.closeTask call = .done result) :
      StreamingStep response isCoroutineFunction state (.resume call)
        (state.finish call streamed
          (closeWithCancellationProtection result))
  | resumeAwait {state : StreamingState} {call : Nat}
      {streamed result : Outcome}
      (awaits : state.serving call = .awaitsClose streamed)
      (done : state.closeTask call = .done result) :
      StreamingStep response isCoroutineFunction state (.resume call)
        (state.finish call streamed (afterCancellation result))

end FastapiCore
