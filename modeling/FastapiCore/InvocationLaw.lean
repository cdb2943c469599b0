import FastapiCore.Invocation

/-!
# What holds over all runs of invocations

Each method is called at most once, and never after its invocation has ended.
Calls in worker threads begin in the order in which their tasks have submitted
them, and a worker which does not return stays busy, whether or not anyone
still awaits it.
-/

namespace FastapiCore

open Library

variable {α : Type} {workers : Nat} {pool : WorkerPool Nat} {id : Nat}

/-! ## One invocation and the pool -/

namespace Invocation

/-- Where the pool has an invocation, and how often its method was called. -/
def Placed (pool : WorkerPool Nat) (id : Nat) (invocation : Invocation α) :
    Prop :=
  match invocation.phase with
  | .scheduled =>
      pool.queue.count id = 0 ∧ pool.busy.count id = 0 ∧
        invocation.calls = 0 ∧ invocation.request.refusal? = none
  | .queued =>
      pool.queue.count id = 1 ∧ pool.busy.count id = 0 ∧
        invocation.calls = 0 ∧ invocation.request.refusal? = none
  | .inThread =>
      pool.queue.count id = 0 ∧ pool.busy.count id = 1 ∧
        invocation.calls = 1 ∧ invocation.request.refusal? = none
  | .inTask =>
      pool.queue.count id = 0 ∧ pool.busy.count id = 0 ∧
        invocation.calls = 1 ∧ invocation.request.refusal? = none
  | .done outcome =>
      pool.queue.count id = 0 ∧ pool.busy.count id ≤ 1 ∧
        invocation.calls ≤ 1 ∧
          (∀ value, outcome = .ok value → invocation.calls = 1) ∧
            ∀ exception, invocation.request.refusal? = some exception →
              invocation.calls = 0 ∧ outcome = .error exception

variable {invocation : Invocation α}

theorem placed_begin (request : InvocationRequest)
    (queue : pool.queue.count id = 0) (busy : pool.busy.count id = 0) :
    (begin request : Invocation α).Placed pool id := by
  cases refusal : request.refusal? with
  | none => simp [Placed, begin, refusal, queue, busy]
  | some exception => simp [Placed, begin, refusal, queue, busy]

/-- An interruption leaves the queue, but a worker stays busy. -/
theorem Placed.interrupt (placed : invocation.Placed pool id)
    (reason : PyExc) (suppressed : Bool) :
    (invocation.interrupt reason suppressed).Placed (pool.after (.drop id))
      id := by
  have erased (count : pool.queue.count id ≤ 1) :
      (pool.queue.erase id).count id = 0 := by
    rw [List.count_erase_self]
    omega
  simp only [Placed] at placed
  cases phase : invocation.phase with
  | done outcome =>
      simp only [phase] at placed
      rcases placed with ⟨queue, rest⟩
      simp only [Invocation.interrupt, phase, Placed, WorkerPool.after]
      exact ⟨erased (by omega), rest⟩
  | inTask =>
      simp only [phase] at placed
      rcases placed with ⟨queue, busy, calls, accepted⟩
      cases suppressed with
      | false =>
          simp [Invocation.interrupt, phase, Placed, WorkerPool.after,
            erased, queue, busy, calls, accepted]
      | true =>
          simp [Invocation.interrupt, phase, Placed, WorkerPool.after,
            erased, queue, busy, calls, accepted]
  | _ =>
      simp only [phase] at placed
      rcases placed with ⟨queue, busy, calls, accepted⟩
      simp [Invocation.interrupt, phase, Placed, WorkerPool.after,
        erased, queue, busy, calls, accepted]

/-- A worker starts only what waits in the queue. -/
theorem Placed.phase_of_head (placed : invocation.Placed pool id)
    (head : pool.queue.head? = some id) :
    invocation.phase = .queued := by
  have waiting : 0 < pool.queue.count id := by
    rw [List.count_pos_iff, WorkerPool.queue_eq_cons head]
    exact .head _
  simp only [Placed] at placed
  split at placed
  · omega
  · next phase => exact phase
  · omega
  · omega
  · omega

/-- A worker returns to its task, or to nobody. -/
theorem Placed.phase_of_busy (placed : invocation.Placed pool id)
    (busy : id ∈ pool.busy) :
    invocation.phase = .inThread ∨ invocation.Ended := by
  have occupies : 0 < pool.busy.count id := List.count_pos_iff.mpr busy
  simp only [Placed] at placed
  split at placed
  · omega
  · omega
  · next phase => exact .inl phase
  · omega
  · next outcome phase => exact .inr ⟨outcome, phase⟩

/-- Every event leaves the invocation where the pool has it. -/
theorem Placed.advance (placed : invocation.Placed pool id)
    {event : InvocationEvent α} (enabled : invocation.Enables event)
    (allowed :
      ∀ action, event.poolAction? id = some action →
        pool.Allows workers action) :
    (invocation.advance event).Placed
      ((event.poolAction? id).elim pool pool.after) id := by
  cases event with
  | callInTask =>
      simp only [Placed, enabled.1] at placed
      rcases placed with ⟨queue, busy, calls, accepted⟩
      simp [InvocationEvent.poolAction?, Invocation.advance, Placed, queue,
        busy, calls, accepted]
  | submit =>
      simp only [Placed, enabled.1] at placed
      rcases placed with ⟨queue, busy, calls, accepted⟩
      simp [InvocationEvent.poolAction?, Invocation.advance, Placed,
        WorkerPool.after, queue, busy, calls, accepted]
  | startThread =>
      have head := (allowed _ (Eq.refl _)).1
      have removed : pool.queue.count id = pool.queue.tail.count id + 1 :=
        (congrArg (List.count id) (WorkerPool.queue_eq_cons head)).trans
          List.count_cons_self
      simp only [Placed, placed.phase_of_head head] at placed
      rcases placed with ⟨queue, busy, calls, accepted⟩
      rw [queue] at removed
      have tail : pool.queue.tail.count id = 0 := by omega
      simp [InvocationEvent.poolAction?, Invocation.advance, Placed,
        WorkerPool.after, tail, busy, calls, accepted]
  | threadReturns result =>
      have busy : id ∈ pool.busy := allowed _ (Eq.refl _)
      rcases placed.phase_of_busy busy with inThread | ⟨outcome, ended⟩
      · simp only [Placed, inThread] at placed
        rcases placed with ⟨queue, held, calls, accepted⟩
        cases result with
        | error exception =>
            simp [InvocationEvent.poolAction?, Invocation.advance, Placed,
              WorkerPool.after, inThread, queue, held, calls, accepted]
        | ok returned =>
            cases returned with
            | value result =>
                simp [InvocationEvent.poolAction?, Invocation.advance,
                  Placed, WorkerPool.after, inThread, queue, held, calls,
                  accepted]
            | awaitable =>
                simp [InvocationEvent.poolAction?, Invocation.advance,
                  Placed, WorkerPool.after, inThread, queue, held, calls,
                  accepted]
      · simp only [Placed, ended] at placed
        rcases placed with ⟨queue, held, rest⟩
        simp only [InvocationEvent.poolAction?, Invocation.advance, Placed,
          WorkerPool.after, ended, Option.elim_some, List.count_erase_self]
        exact ⟨queue, by omega, rest⟩
  | settle outcome =>
      have inTask : invocation.phase = .inTask := enabled
      simp only [Placed, inTask] at placed
      rcases placed with ⟨queue, busy, calls, accepted⟩
      simp [InvocationEvent.poolAction?, Invocation.advance, Placed, queue,
        busy, calls, accepted]
  | cancel suppressed =>
      exact placed.interrupt .cancelledError suppressed
  | expire suppressed =>
      have stopped :
          Placed pool id { invocation with timer := false } := placed
      exact stopped.interrupt .timeoutError suppressed

theorem Placed.congr {other : WorkerPool Nat}
    (placed : invocation.Placed pool id)
    (queue : other.queue.count id = pool.queue.count id)
    (busy : other.busy.count id = pool.busy.count id) :
    invocation.Placed other id := by
  simp only [Placed, queue, busy]
  exact placed

/-- Nothing which happens later changes an invocation which has ended. -/
theorem Placed.advance_of_ended (placed : invocation.Placed pool id)
    (ended : invocation.Ended) {event : InvocationEvent α}
    (enabled : invocation.Enables event)
    (allowed :
      ∀ action, event.poolAction? id = some action →
        pool.Allows workers action) :
    invocation.advance event = invocation := by
  rcases ended with ⟨outcome, done⟩
  cases event with
  | callInTask => cases done.symm.trans enabled.1
  | submit => cases done.symm.trans enabled.1
  | startThread =>
      have queued := placed.phase_of_head (allowed _ (Eq.refl _)).1
      cases done.symm.trans queued
  | threadReturns result => simp only [Invocation.advance, done]
  | settle settled => cases done.symm.trans enabled
  | cancel suppressed => exact (enabled ⟨outcome, done⟩).elim
  | expire suppressed => exact (enabled.1 ⟨outcome, done⟩).elim

end Invocation

/-! ## The outcome of an invocation -/

/-- An event ends the invocation of a request with an outcome. -/
def InvocationEvent.Ends (request : InvocationRequest)
    (outcome : Except PyExc α) : InvocationEvent α → Prop
  | .threadReturns (.ok (.value value)) => outcome = .ok value
  | .threadReturns (.error exception) => outcome = .error exception
  | .settle settled => outcome = settled
  | .cancel _ => outcome = .error .cancelledError
  | .expire _ =>
      outcome = .error .timeoutError ∧
        request.timeoutSeconds.isSome = true
  | _ => False

theorem InvocationEvent.item_poolAction {event : InvocationEvent α}
    {action : PoolAction Nat} (acts : event.poolAction? id = some action) :
    action.item = id := by
  cases event <;> cases acts <;> exact Eq.refl _

namespace Invocation

variable {invocation : Invocation α}

theorem interrupt_request (reason : PyExc) (suppressed : Bool) :
    (invocation.interrupt reason suppressed).request =
      invocation.request := by
  simp only [interrupt]
  split
  · exact Eq.refl _
  · split <;> exact Eq.refl _
  · exact Eq.refl _

@[simp]
theorem advance_request (event : InvocationEvent α) :
    (invocation.advance event).request = invocation.request := by
  cases event with
  | threadReturns result =>
      simp only [advance]
      split
      · split <;> exact Eq.refl _
      · exact Eq.refl _
  | cancel suppressed => exact interrupt_request _ _
  | expire suppressed => exact interrupt_request _ _
  | _ => exact Eq.refl _

theorem interrupt_phase {reason : PyExc} {suppressed : Bool}
    {outcome : Except PyExc α}
    (done :
      (invocation.interrupt reason suppressed).phase = .done outcome) :
    invocation.phase = .done outcome ∨ outcome = .error reason := by
  simp only [interrupt] at done
  split at done
  · exact .inl done
  · split at done
    · exact .inl done
    · cases done
      exact .inr (Eq.refl _)
  · cases done
    exact .inr (Eq.refl _)

/-- An invocation ends by an event which ends it so. -/
theorem phase_advance {event : InvocationEvent α}
    {outcome : Except PyExc α}
    (timed :
      invocation.timer = true →
        invocation.request.timeoutSeconds.isSome = true)
    (enabled : invocation.Enables event)
    (done : (invocation.advance event).phase = .done outcome) :
    invocation.phase = .done outcome ∨
      event.Ends invocation.request outcome := by
  cases event with
  | callInTask => cases done
  | submit => cases done
  | startThread => cases done
  | threadReturns result =>
      simp only [advance] at done
      split at done
      · split at done
        · cases done
          exact .inr (Eq.refl _)
        · cases done
          exact .inr (Eq.refl _)
        · cases done
      · exact .inl done
  | settle settled =>
      cases done
      exact .inr (Eq.refl _)
  | cancel suppressed => exact interrupt_phase done
  | expire suppressed =>
      rcases interrupt_phase done with before | timedOut
      · exact .inl before
      · exact .inr ⟨timedOut, timed enabled.2⟩

theorem timer_advance {event : InvocationEvent α}
    (running : (invocation.advance event).timer = true) :
    invocation.timer = true := by
  cases event with
  | threadReturns result =>
      simp only [advance] at running
      split at running
      · split at running <;> exact running
      · exact running
  | cancel suppressed =>
      simp only [advance, interrupt] at running
      split at running
      · exact running
      · split at running <;> exact running
      · exact running
  | expire suppressed =>
      simp only [advance, interrupt] at running
      split at running
      · cases running
      · split at running <;> cases running
      · cases running
  | _ => exact running

end Invocation

/-! ## One step -/

/-- The calls which worker threads have begun, in order. -/
def startedIds (labels : List (InvocationLabel α)) : List Nat :=
  labels.filterMap fun
    | .event id .startThread => some id
    | _ => none

/-- The calls which tasks have handed to the worker pool, in order. -/
def submittedIds (labels : List (InvocationLabel α)) : List Nat :=
  labels.filterMap fun
    | .event id .submit => some id
    | _ => none

/-- An invocation comes from its request and has ended by an event. -/
def Invocation.Explained (labels : List (InvocationLabel α)) (id : Nat)
    (invocation : Invocation α) : Prop :=
  .invoke id invocation.request ∈ labels ∧
    (invocation.timer = true →
      invocation.request.timeoutSeconds.isSome = true) ∧
    ∀ outcome, invocation.phase = .done outcome →
      (∃ exception, invocation.request.refusal? = some exception ∧
          outcome = .error exception) ∨
        ∃ event, .event id event ∈ labels ∧
          event.Ends invocation.request outcome

theorem Invocation.Explained.append {labels : List (InvocationLabel α)}
    {invocation : Invocation α} (explained : invocation.Explained labels id)
    (later : List (InvocationLabel α)) :
    invocation.Explained (labels ++ later) id := by
  rcases explained with ⟨invoked, timed, ends⟩
  refine ⟨List.mem_append_left _ invoked, timed, ?_⟩
  intro outcome done
  rcases ends outcome done with refused | ⟨event, member, ended⟩
  · exact .inl refused
  · exact .inr ⟨event, List.mem_append_left _ member, ended⟩

/-! ## Agreement with the timed behaviour -/

/-- What a worker hands back of a returned value. -/
def Returned.threadResult : Returned α → ThreadResult α
  | .value result => .value result
  | .awaitable _ => .awaitable

/-- What the task awaits of a callable. -/
def CheckBehaviour.awaited? :
    CheckBehaviour α → Option (Completion (Except PyExc α))
  | .coroutineFunction completion => some completion
  | .syncFunction (.settles _ (.ok (.awaitable completion))) =>
      some completion
  | _ => none

/-- An event is one of a callable with this behaviour. -/
def CheckBehaviour.Shows (behaviour : CheckBehaviour α) :
    InvocationEvent α → Prop
  | .threadReturns result =>
      ∃ elapsed call, behaviour = .syncFunction (.settles elapsed call) ∧
        result = call.map Returned.threadResult
  | .settle outcome =>
      ∃ elapsed, behaviour.awaited? = some (.settles elapsed outcome)
  | .cancel _ => False
  | _ => True

/-- Without a cancellation the outcome is the awaited one, or a timeout. -/
theorem CheckBehaviour.outcome_of_shows {behaviour : CheckBehaviour α}
    {event : InvocationEvent α} {request : InvocationRequest}
    {outcome : Except PyExc α} (shows : behaviour.Shows event)
    (ends : event.Ends request outcome) :
    (invokeCheck behaviour none).value? = some outcome ∨
      outcome = .error .timeoutError ∧
        request.timeoutSeconds.isSome = true := by
  cases event with
  | callInTask => exact ends.elim
  | submit => exact ends.elim
  | startThread => exact ends.elim
  | threadReturns result =>
      rcases shows with ⟨elapsed, call, rfl, rfl⟩
      left
      cases call with
      | error exception =>
          cases ends
          exact Eq.refl _
      | ok returned =>
          cases returned with
          | value value =>
              cases ends
              exact Eq.refl _
          | awaitable completion => exact ends.elim
  | settle settled =>
      rcases shows with ⟨elapsed, awaited⟩
      cases ends
      left
      simp only [CheckBehaviour.awaited?] at awaited
      split at awaited
      · cases awaited
        exact Eq.refl _
      · cases awaited
        exact Eq.refl _
      · cases awaited
  | cancel suppressed => exact shows.elim
  | expire suppressed => exact .inr ends

namespace InvocationServer

/-- The pool and the invocations agree. -/
structure Coupled (server : InvocationServer α) : Prop where
  unknown :
    ∀ id, server.invocations id = none →
      server.pool.queue.count id = 0 ∧ server.pool.busy.count id = 0
  placed :
    ∀ id invocation, server.invocations id = some invocation →
      invocation.Placed server.pool id

/-- Every invocation comes from a request and ends by one of its events. -/
def Explained (labels : List (InvocationLabel α))
    (server : InvocationServer α) : Prop :=
  ∀ id invocation, server.invocations id = some invocation →
    invocation.Explained labels id

variable {server next : InvocationServer α} {label : InvocationLabel α}
variable {labels : List (InvocationLabel α)}

theorem Coupled.step (coupled : server.Coupled)
    (step : InvocationStep workers server label next) : next.Coupled := by
  cases step with
  | invoke request new =>
      rename_i id
      rcases coupled.unknown id new with ⟨queue, busy⟩
      constructor
      · intro other absent
        apply coupled.unknown
        by_cases same : other = id
        · exact same ▸ new
        · simpa only [Function.update_of_ne same] using absent
      · intro other invocation present
        by_cases same : other = id
        · subst same
          simp only [Function.update_self, Option.some.injEq] at present
          exact present ▸ Invocation.placed_begin request queue busy
        · simp only [Function.update_of_ne same] at present
          exact coupled.placed other invocation present
  | event event present enabled allowed =>
      rename_i id invocation
      have counts (other : Nat) (different : other ≠ id) :
          ((event.poolAction? id).elim server.pool
                server.pool.after).queue.count other =
              server.pool.queue.count other ∧
            ((event.poolAction? id).elim server.pool
                server.pool.after).busy.count other =
              server.pool.busy.count other := by
        cases acts : event.poolAction? id with
        | none => exact ⟨Eq.refl _, Eq.refl _⟩
        | some action =>
            apply WorkerPool.count_after_of_ne (allowed action acts)
            rwa [InvocationEvent.item_poolAction acts]
      constructor
      · intro other absent
        by_cases same : other = id
        · subst same
          simp only [Function.update_self, reduceCtorEq] at absent
        · simp only [Function.update_of_ne same] at absent
          simp only [counts other same]
          exact coupled.unknown other absent
      · intro other changed shown
        by_cases same : other = id
        · subst same
          simp only [Function.update_self, Option.some.injEq] at shown
          exact shown ▸
            (coupled.placed other invocation present).advance enabled allowed
        · simp only [Function.update_of_ne same] at shown
          exact
            (coupled.placed other changed shown).congr
              (counts other same).1 (counts other same).2

theorem Explained.step (explained : server.Explained labels)
    (step : InvocationStep workers server label next) :
    next.Explained (labels ++ [label]) := by
  have earlier (id : Nat) (invocation : Invocation α)
      (present : server.invocations id = some invocation) :
      invocation.Explained (labels ++ [label]) id :=
    (explained id invocation present).append [label]
  cases step with
  | invoke request new =>
      rename_i id
      intro other invocation present
      by_cases same : other = id
      · subst same
        simp only [Function.update_self, Option.some.injEq] at present
        subst present
        refine ⟨by simp [Invocation.begin], fun running => running, ?_⟩
        intro outcome done
        simp only [Invocation.begin] at done
        split at done
        · next exception refused =>
            cases done
            exact .inl ⟨exception, refused, Eq.refl _⟩
        · cases done
      · simp only [Function.update_of_ne same] at present
        exact earlier other invocation present
  | event event present enabled allowed =>
      rename_i id invocation
      intro other changed shown
      by_cases same : other = id
      · subst same
        simp only [Function.update_self, Option.some.injEq] at shown
        subst shown
        rcases earlier other invocation present with ⟨invoked, timed, ends⟩
        simp only [Invocation.Explained, Invocation.advance_request]
        refine ⟨invoked, fun running => ?_, ?_⟩
        · exact timed (Invocation.timer_advance running)
        · intro outcome done
          rcases Invocation.phase_advance timed enabled done with
            before | ended
          · exact ends outcome before
          · exact .inr ⟨event, by simp, ended⟩
      · simp only [Function.update_of_ne same] at shown
        exact earlier other changed shown

/-- A step is one action of the worker pool, or none. -/
theorem pool_step (step : InvocationStep workers server label next) :
    (label.poolAction? = none → next.pool = server.pool) ∧
      ∀ action, label.poolAction? = some action →
        WorkerPool.Step workers server.pool action next.pool := by
  cases step with
  | invoke request new => exact ⟨fun _ => Eq.refl _, nofun⟩
  | event event present enabled allowed =>
      rename_i id invocation
      constructor
      · intro silent
        simp only [InvocationLabel.poolAction?] at silent
        simp only [silent, Option.elim_none]
      · intro action acts
        simp only [InvocationLabel.poolAction?] at acts
        refine ⟨allowed action acts, ?_⟩
        simp only [acts, Option.elim_some]

/-- The runs of the server are runs of its pool. -/
theorem pool_run (run : Run (InvocationStep workers) server labels next) :
    Run (WorkerPool.Step workers) server.pool
      (labels.filterMap InvocationLabel.poolAction?) next.pool :=
  run.project
    (fun _ _ _ step => (pool_step step).1)
    (fun _ _ action _ step => (pool_step step).2 action)

/-! ## All runs -/

/-- What is known of the invocations after some steps. -/
structure Lawful (workers : Nat) (labels : List (InvocationLabel α))
    (server : InvocationServer α) : Prop where
  capacity : server.pool.busy.length ≤ workers
  order :
    (startedIds labels ++ server.pool.queue).Sublist (submittedIds labels)
  once :
    ∀ id invocation, server.invocations id = some invocation →
      invocation.calls ≤ 1 ∧
        (∀ value, invocation.phase = .done (.ok value) →
          invocation.calls = 1) ∧
        ∀ exception, invocation.request.refusal? = some exception →
          invocation.calls = 0 ∧
            invocation.phase = .done (.error exception)
  outcome : server.Explained labels
  agrees :
    ∀ id invocation, server.invocations id = some invocation →
      invocation.request.refusal? = none →
        ∀ behaviour : CheckBehaviour α,
          (∀ event, .event id event ∈ labels → behaviour.Shows event) →
            ∀ outcome, invocation.phase = .done outcome →
              (invokeCheck behaviour none).value? = some outcome ∨
                outcome = .error .timeoutError ∧
                  invocation.request.timeoutSeconds.isSome = true
  held :
    ∀ id, id ∈ server.pool.busy →
      ∃ invocation, server.invocations id = some invocation ∧
        (invocation.phase = .inThread ∨ invocation.Ended)
  waits :
    ∀ id invocation, server.invocations id = some invocation →
      invocation.phase = .queued → server.pool.busy.length < workers →
        ∃ other next,
          InvocationStep workers server (.event other .startThread) next

theorem startedIds_eq (labels : List (InvocationLabel α)) :
    startedIds labels =
      (labels.filterMap InvocationLabel.poolAction?).filterMap
        PoolAction.started? := by
  rw [List.filterMap_filterMap]
  apply List.filterMap_congr
  intro label member
  cases label with
  | invoke id request => exact Eq.refl _
  | event id event => cases event <;> exact Eq.refl _

theorem submittedIds_eq (labels : List (InvocationLabel α)) :
    submittedIds labels =
      (labels.filterMap InvocationLabel.poolAction?).filterMap
        PoolAction.submitted? := by
  rw [List.filterMap_filterMap]
  apply List.filterMap_congr
  intro label member
  cases label with
  | invoke id request => exact Eq.refl _
  | event id event => cases event <;> exact Eq.refl _

theorem coupled_run
    (run : Run (InvocationStep workers) ({} : InvocationServer α) labels
      server) :
    server.Coupled := by
  apply run.invariant
  · exact ⟨fun _ _ => ⟨Eq.refl _, Eq.refl _⟩, nofun⟩
  · intro before label after step coupled
    exact coupled.step step

theorem Coupled.present (coupled : server.Coupled)
    (member : id ∈ server.pool.queue ∨ id ∈ server.pool.busy) :
    ∃ invocation, server.invocations id = some invocation := by
  cases found : server.invocations id with
  | some invocation => exact ⟨invocation, Eq.refl _⟩
  | none =>
      rcases coupled.unknown id found with ⟨queue, busy⟩
      rcases member with queued | occupied
      · exact (List.count_eq_zero.mp queue queued).elim
      · exact (List.count_eq_zero.mp busy occupied).elim

/-- An invocation which has ended stays as it is in every later state. -/
theorem Coupled.ended_run (coupled : server.Coupled)
    {invocation : Invocation α}
    (present : server.invocations id = some invocation)
    (ended : invocation.Ended)
    (run : Run (InvocationStep workers) server labels next) :
    next.invocations id = some invocation := by
  have kept : next.Coupled ∧ next.invocations id = some invocation := by
    apply run.invariant
    · exact ⟨coupled, present⟩
    · rintro before label after step ⟨coupled, present⟩
      refine ⟨coupled.step step, ?_⟩
      cases step with
      | invoke request new =>
          rename_i other
          have different : id ≠ other := by
            rintro rfl
            cases new.symm.trans present
          simpa only [Function.update_of_ne different] using present
      | event event found enabled allowed =>
          rename_i other advanced
          by_cases same : id = other
          · subst same
            cases found.symm.trans present
            simp only [Function.update_self, Option.some.injEq]
            exact
              (coupled.placed id invocation present).advance_of_ended ended
                enabled allowed
          · simpa only [Function.update_of_ne same] using present
  exact kept.2

theorem Coupled.lawful (coupled : server.Coupled)
    (explained : server.Explained labels)
    (capacity : server.pool.busy.length ≤ workers)
    (order :
      (startedIds labels ++ server.pool.queue).Sublist
        (submittedIds labels)) :
    server.Lawful workers labels := by
  refine ⟨capacity, order, ?_, explained, ?_, ?_, ?_⟩
  · intro id invocation present
    have placed := coupled.placed id invocation present
    simp only [Invocation.Placed] at placed
    split at placed
    · next phase =>
        rcases placed with ⟨-, -, calls, accepted⟩
        simp [phase, calls, accepted]
    · next phase =>
        rcases placed with ⟨-, -, calls, accepted⟩
        simp [phase, calls, accepted]
    · next phase =>
        rcases placed with ⟨-, -, calls, accepted⟩
        simp [phase, calls, accepted]
    · next phase =>
        rcases placed with ⟨-, -, calls, accepted⟩
        simp [phase, calls, accepted]
    · next outcome phase =>
        rcases placed with ⟨-, -, calls, returned, refused⟩
        refine ⟨calls, ?_, ?_⟩
        · rintro value done
          cases phase.symm.trans done
          exact returned value (Eq.refl _)
        · intro exception refusal
          rcases refused exception refusal with ⟨uncalled, rfl⟩
          exact ⟨uncalled, phase⟩
  · intro id invocation present accepted behaviour shows outcome done
    rcases (explained id invocation present).2.2 outcome done with
      ⟨exception, refused, -⟩ | ⟨event, member, ends⟩
    · cases accepted.symm.trans refused
    · exact CheckBehaviour.outcome_of_shows (shows event member) ends
  · intro id busy
    rcases coupled.present (.inr busy) with ⟨invocation, present⟩
    exact
      ⟨invocation, present,
        (coupled.placed id invocation present).phase_of_busy busy⟩
  · intro id invocation present queued free
    have placed := coupled.placed id invocation present
    simp only [Invocation.Placed, queued] at placed
    have waiting : server.pool.queue ≠ [] := by
      intro empty
      rw [empty] at placed
      cases placed.1
    rcases WorkerPool.exists_start waiting free with ⟨other, member, allows⟩
    rcases coupled.present (.inl member) with ⟨first, found⟩
    refine ⟨other, _, .event .startThread found trivial ?_⟩
    rintro action ⟨⟩
    exact allows

/--
In every run of invocations the methods are called at most once and in order,
and outcomes come from requests and events.  Later an invocation which has
ended stays as it is, and while all workers are busy with calls which do not
return, no thread begins a call.
-/
theorem lawful_run
    (run : Run (InvocationStep workers) ({} : InvocationServer α) labels
      server) :
    server.Lawful workers labels ∧
      ∀ more later, Run (InvocationStep workers) server more later →
        (∀ id invocation, server.invocations id = some invocation →
          invocation.Ended → later.invocations id = some invocation) ∧
        (workers ≤ server.pool.busy.length →
          (∀ id result, .event id (.threadReturns result) ∉ more) →
            startedIds more = []) := by
  have coupled := coupled_run run
  have pool := pool_run run
  constructor
  · apply coupled.lawful
    · apply run.labelled_invariant
      · nofun
      · intro earlier before label after step explained
        exact explained.step step
    · exact WorkerPool.length_busy_run pool (Nat.zero_le _)
    · rw [startedIds_eq, submittedIds_eq]
      exact WorkerPool.order_run pool
  · intro more later further
    refine ⟨fun id invocation present ended =>
      coupled.ended_run present ended further, ?_⟩
    intro full unreturned
    rw [startedIds_eq]
    apply (WorkerPool.started_eq_nil_of_full (pool_run further) full ?_).1
    intro id finished
    rcases List.mem_filterMap.mp finished with ⟨label, member, acts⟩
    cases label with
    | invoke other request => cases acts
    | event other event =>
        cases event with
        | threadReturns result => exact unreturned other result member
        | _ => cases acts

/-- A function which is no coroutine function, called for a resource. -/
def blockingCall (timeoutSeconds : Option ℚ) : InvocationRequest :=
  ResourceBinding.call (fun _ _ => .error (.attributeError ""))
    (.callable ⟨false, false⟩) none timeoutSeconds

/-- A call which has timed out still keeps the only worker from another. -/
theorem lawful_timedOutCall :
    ∃ server : InvocationServer Nat,
      server.Lawful 1
          [.invoke 0 (blockingCall (some 1)), .invoke 1 (blockingCall none),
            .event 0 .submit, .event 1 .submit, .event 0 .startThread,
            .event 0 (.expire false)] ∧
        ∀ more later, Run (InvocationStep 1) server more later →
          (∀ id invocation, server.invocations id = some invocation →
            invocation.Ended → later.invocations id = some invocation) ∧
          (1 ≤ server.pool.busy.length →
            (∀ id result, .event id (.threadReturns result) ∉ more) →
              startedIds more = []) :=
  ⟨_, lawful_run
    ((((((Run.nil.snoc (.invoke (blockingCall (some 1)) (Eq.refl _))).snoc
      (.invoke (blockingCall none) (Eq.refl _))).snoc
        (.event .submit (Eq.refl _) (And.intro (Eq.refl _) (Eq.refl _))
          fun | _, Eq.refl _ => trivial)).snoc
            (.event .submit (Eq.refl _) (And.intro (Eq.refl _) (Eq.refl _))
              fun | _, Eq.refl _ => trivial)).snoc
                (.event .startThread (Eq.refl _) trivial
                  fun | _, Eq.refl _ => ⟨Eq.refl _, Nat.one_pos⟩)).snoc
                    (.event (.expire false) (Eq.refl _)
                      ⟨nofun, Eq.refl _⟩ fun | _, Eq.refl _ => trivial))⟩

end InvocationServer

end FastapiCore
