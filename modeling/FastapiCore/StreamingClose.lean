import FastapiCore.Library.Transition
import FastapiCore.Streaming

/-!
# Closing a streamed resource exactly once

The flag `_closed` admits one invocation of the close callable in every run.
As long as no cancellation reaches a close task which is awaited directly,
the task which has invoked it keeps the lock until the close has finished,
and every other close task ends afterwards.  `Protected` is the invariant of
these runs.
-/

namespace FastapiCore

open Library

namespace StreamingState

/-! ## At most one invocation -/

/-- The close callable is invoked once the flag is set, and only once. -/
structure AtMostOnce (state : StreamingState) : Prop where
  unmarked : state.closed = false → state.close = .notInvoked
  pending :
    state.close = .notInvoked ∨ state.close = .queued →
      state.invocations = 0
  invocations : state.invocations ≤ 1

theorem AtMostOnce.of_invoked {state : StreamingState}
    (marked : state.closed = true)
    (invoked : state.close ≠ .notInvoked ∧ state.close ≠ .queued)
    (once : state.invocations ≤ 1) : state.AtMostOnce where
  unmarked unmarked := by
    rw [marked] at unmarked
    cases unmarked
  pending pending :=
    (pending.elim invoked.1 invoked.2).elim
  invocations := once

theorem AtMostOnce.marked {state : StreamingState}
    (once : state.AtMostOnce) (begun : state.close ≠ .notInvoked) :
    state.closed = true := by
  cases marked : state.closed with
  | true => rfl
  | false => exact (begun (once.unmarked marked)).elim

theorem AtMostOnce.closeOnce {state : StreamingState}
    (once : state.AtMostOnce) (call : Nat)
    (response : ManagedStreamingResponse)
    (isCoroutineFunction : Closer → Bool) :
    (state.closeOnce call response isCoroutineFunction).AtMostOnce := by
  rw [StreamingState.closeOnce]
  cases marked : state.closed with
  | true =>
      exact ⟨once.unmarked, once.pending, once.invocations⟩
  | false =>
      have notInvoked := once.unmarked marked
      have invocations := once.pending (.inl notInvoked)
      dsimp only
      rw [if_neg Bool.false_ne_true]
      split
      · exact ⟨nofun, once.pending, once.invocations⟩
      · split
        · apply AtMostOnce.of_invoked
          · rfl
          · exact ⟨nofun, nofun⟩
          · exact (congrArg Nat.succ invocations).le
        · exact ⟨nofun, fun _ => invocations, once.invocations⟩

theorem AtMostOnce.cancelCloseTask {state : StreamingState}
    (once : state.AtMostOnce) (call : Nat) (suppressed : Bool) :
    (state.cancelCloseTask call suppressed).AtMostOnce := by
  rw [StreamingState.cancelCloseTask]
  have kept := once
  rcases once with ⟨unmarked, pending, invocations⟩
  split
  · exact ⟨unmarked, pending, invocations⟩
  · split
    · next queued =>
        exact
          .of_invoked (kept.marked (by simp [queued])) ⟨nofun, nofun⟩
            invocations
    · next inTask =>
        split
        · exact ⟨unmarked, pending, invocations⟩
        · exact
            .of_invoked (kept.marked (by simp [inTask])) ⟨nofun, nofun⟩
              invocations
    · exact ⟨unmarked, pending, invocations⟩
    · exact kept
  · exact kept

theorem AtMostOnce.step {response : ManagedStreamingResponse}
    {isCoroutineFunction : Closer → Bool} {before after : StreamingState}
    {action : StreamingAction}
    (taken :
      StreamingStep response isCoroutineFunction before action after)
    (once : before.AtMostOnce) : after.AtMostOnce := by
  cases taken with
  | begin => exact ⟨once.unmarked, once.pending, once.invocations⟩
  | streamed => exact ⟨once.unmarked, once.pending, once.invocations⟩
  | cancelStreaming => exact once
  | cancelShield =>
      rw [StreamingState.cancelShield]
      split <;> exact ⟨once.unmarked, once.pending, once.invocations⟩
  | cancelAwait =>
      rw [StreamingState.cancelAwait]
      split
      · exact ⟨once.unmarked, once.pending, once.invocations⟩
      · exact once.cancelCloseTask _ _
  | acquireLock => exact once.closeOnce _ _ _
  | awaitLock => exact ⟨once.unmarked, once.pending, once.invocations⟩
  | startThread queued =>
      apply AtMostOnce.of_invoked
      · exact once.marked (by simp [queued])
      · exact ⟨nofun, nofun⟩
      · exact (congrArg Nat.succ (once.pending (.inr queued))).le
  | awaitResult inThread =>
      rw [StreamingState.awaitResult]
      have marked := once.marked (by simp [inThread])
      split <;> exact .of_invoked marked ⟨nofun, nofun⟩ once.invocations
  | finishClose outcome running =>
      rw [StreamingState.finishClose]
      have marked :=
        once.marked (by rcases running with run | run <;> simp [run])
      split <;> exact .of_invoked marked ⟨nofun, nofun⟩ once.invocations
  | resumeShield => exact ⟨once.unmarked, once.pending, once.invocations⟩
  | resumeAwait => exact ⟨once.unmarked, once.pending, once.invocations⟩

/-! ## The close task which holds the lock -/

/-- The close task of this call, and no other, has the lock and closes. -/
structure HeldBy (state : StreamingState) (holder : Nat) : Prop where
  lock : state.closeLock = some holder
  closing : ∀ call, state.closeTask call = .closing ↔ call = holder

/-- No close task has the lock. -/
structure Unheld (state : StreamingState) : Prop where
  lock : state.closeLock = none
  closing : ∀ call, state.closeTask call ≠ .closing

/-- How far the close has come, and who waits for it. -/
inductive Phase (state : StreamingState) : Prop where
  | before (unmarked : state.closed = false)
      (close : state.close = .notInvoked)
      (invocations : state.invocations = 0) (unheld : state.Unheld)
  | queued (holder : Nat) (marked : state.closed = true)
      (close : state.close = .queued) (invocations : state.invocations = 0)
      (held : state.HeldBy holder)
  | running (holder : Nat) (marked : state.closed = true)
      (close : state.close = .inThread ∨ state.close = .inTask)
      (invocations : state.invocations = 1) (held : state.HeldBy holder)
  | after (outcome : Outcome) (marked : state.closed = true)
      (close : state.close = .finished outcome)
      (invocations : state.invocations = 1) (unheld : state.Unheld)

/-- A phase is not changed by close tasks which do not close. -/
theorem Phase.congr {before after : StreamingState} (phase : before.Phase)
    (closed : after.closed = before.closed)
    (close : after.close = before.close)
    (invocations : after.invocations = before.invocations)
    (lock : after.closeLock = before.closeLock)
    (closing :
      ∀ call, after.closeTask call = .closing ↔
        before.closeTask call = .closing) :
    after.Phase := by
  have held {holder : Nat} (held : before.HeldBy holder) :
      after.HeldBy holder :=
    ⟨lock.trans held.lock, fun call =>
      (closing call).trans (held.closing call)⟩
  have unheld (unheld : before.Unheld) : after.Unheld :=
    ⟨lock.trans unheld.lock, fun call closes =>
      unheld.closing call ((closing call).mp closes)⟩
  cases phase with
  | before unmarked notInvoked none free =>
      exact
        .before (closed.trans unmarked) (close.trans notInvoked)
          (invocations.trans none) (unheld free)
  | queued holder marked queued none holds =>
      exact
        .queued holder (closed.trans marked) (close.trans queued)
          (invocations.trans none) (held holds)
  | running holder marked running one holds =>
      exact
        .running holder (closed.trans marked) (close ▸ running)
          (invocations.trans one) (held holds)
  | after outcome marked finished one free =>
      exact
        .after outcome (closed.trans marked) (close.trans finished)
          (invocations.trans one) (unheld free)

theorem closing_setCloseTask {state : StreamingState} {call : Nat}
    {task : CloseTask} (notClosing : state.closeTask call ≠ .closing)
    (stays : task ≠ .closing) (other : Nat) :
    (state.setCloseTask call task).closeTask other = .closing ↔
      state.closeTask other = .closing := by
  rw [setCloseTask]
  by_cases same : other = call
  · subst same
    simp [notClosing, stays]
  · simp [same]

/-- A state in which no cancellation has reached a close task. -/
structure Protected (state : StreamingState) : Prop where
  phase : state.Phase
  spared : state.cancelled = false
  absent :
    ∀ call, state.closeTask call = .absent ↔
      state.serving call = .idle ∨ state.serving call = .streaming
  closed :
    ∀ call result, state.closeTask call = .done result →
      ∃ outcome, state.close = .finished outcome
  returned :
    ∀ call outcome, state.serving call = .done outcome →
      ∃ result, state.closeTask call = .done result

theorem protected_initial : initial.Protected where
  phase := .before rfl rfl rfl ⟨rfl, nofun⟩
  spared := rfl
  absent _ := by simp [initial]
  closed := nofun
  returned := nofun

namespace Protected

variable {state : StreamingState} {call : Nat}

/-- The serving task of a call goes on. -/
theorem setServing (safe : state.Protected) {task : ServingTask}
    (absent :
      state.closeTask call = .absent ↔
        task = .idle ∨ task = .streaming)
    (returned :
      ∀ outcome, task = .done outcome →
        ∃ result, state.closeTask call = .done result) :
    (state.setServing call task).Protected where
  phase := safe.phase.congr rfl rfl rfl rfl fun _ => Iff.rfl
  spared := safe.spared
  absent other := by
    by_cases same : other = call
    · subst same
      simpa [StreamingState.setServing] using absent
    · simpa [StreamingState.setServing, same] using safe.absent other
  closed := safe.closed
  returned other outcome := by
    by_cases same : other = call
    · subst same
      simpa [StreamingState.setServing] using returned outcome
    · simpa [StreamingState.setServing, same] using
        safe.returned other outcome

/-- The serving task of a call whose close task is done returns. -/
theorem finish (safe : state.Protected) {result : Outcome}
    (done : state.closeTask call = .done result)
    (streamed closed : Outcome) :
    (state.finish call streamed closed).Protected := by
  apply safe.setServing
  · simp [done]
  · exact fun _ _ => ⟨result, done⟩

/-- A close task which does not close goes on. -/
theorem setCloseTask (safe : state.Protected) {task : CloseTask}
    (present : state.closeTask call ≠ .absent)
    (notClosing : state.closeTask call ≠ .closing)
    (notDone : ∀ result, state.closeTask call ≠ .done result)
    (stays : task ≠ .absent ∧ task ≠ .closing)
    (closed :
      ∀ result, task = .done result →
        ∃ outcome, state.close = .finished outcome) :
    (state.setCloseTask call task).Protected where
  phase :=
    safe.phase.congr rfl rfl rfl rfl
      (closing_setCloseTask notClosing stays.2)
  spared := safe.spared
  absent other := by
    by_cases same : other = call
    · subst same
      have begun := (safe.absent other).not.mp present
      simpa [StreamingState.setCloseTask, stays.1] using begun
    · simpa [StreamingState.setCloseTask, same] using safe.absent other
  closed other result := by
    by_cases same : other = call
    · subst same
      simpa [StreamingState.setCloseTask] using closed result
    · simpa [StreamingState.setCloseTask, same] using
        safe.closed other result
  returned other outcome served := by
    have before := safe.returned other outcome served
    by_cases same : other = call
    · subst same
      rcases before with ⟨result, done⟩
      exact (notDone result done).elim
    · simpa [StreamingState.setCloseTask, same] using before

/-- Streaming ends, and the close task is created. -/
theorem shieldClose (safe : state.Protected)
    (streaming : state.serving call = .streaming) (streamed : Outcome) :
    (state.shieldClose call streamed).Protected := by
  have absent : state.closeTask call = .absent :=
    (safe.absent call).mpr (.inr streaming)
  have notClosing : state.closeTask call ≠ .closing := by simp [absent]
  constructor
  · exact
      safe.phase.congr rfl rfl rfl rfl
        (closing_setCloseTask notClosing nofun)
  · exact safe.spared
  · intro other
    by_cases same : other = call
    · subst same
      simp [StreamingState.shieldClose, StreamingState.setCloseTask,
        StreamingState.setServing]
    · simpa [StreamingState.shieldClose, StreamingState.setCloseTask,
        StreamingState.setServing, same] using safe.absent other
  · intro other result
    by_cases same : other = call
    · subst same
      simp [StreamingState.shieldClose, StreamingState.setCloseTask]
    · simpa [StreamingState.shieldClose, StreamingState.setCloseTask,
        StreamingState.setServing, same] using safe.closed other result
  · intro other outcome
    by_cases same : other = call
    · subst same
      simp [StreamingState.shieldClose, StreamingState.setCloseTask,
        StreamingState.setServing]
    · simpa [StreamingState.shieldClose, StreamingState.setCloseTask,
        StreamingState.setServing, same] using safe.returned other outcome

/-- The close task of a call is the first to get the lock. -/
theorem startClose (safe : state.Protected)
    (waits :
      state.closeTask call = .scheduled ∨
        state.closeTask call = .awaitsLock)
    (notInvoked : state.close = .notInvoked) (unheld : state.Unheld)
    {close : CloseProgress} {invocations : Nat}
    (begun :
      close = .queued ∧ invocations = 0 ∨
        close = .inTask ∧ invocations = 1) :
    ({ state.setCloseTask call .closing with
        closed := true
        closeLock := some call
        close
        invocations } : StreamingState).Protected := by
  have notDone (other : Nat) (result : Outcome) :
      state.closeTask other ≠ .done result := by
    intro done
    rcases safe.closed other result done with ⟨outcome, finished⟩
    rw [notInvoked] at finished
    cases finished
  constructor
  · have held :
        ({ state.setCloseTask call .closing with
            closed := true
            closeLock := some call
            close
            invocations } : StreamingState).HeldBy call := by
      constructor
      · rfl
      · intro other
        by_cases same : other = call
        · subst same
          simp [StreamingState.setCloseTask]
        · simpa [StreamingState.setCloseTask, same] using
            unheld.closing other
    rcases begun with ⟨queued, none⟩ | ⟨running, one⟩
    · exact .queued call rfl queued none held
    · exact .running call rfl (.inr running) one held
  · exact safe.spared
  · intro other
    by_cases same : other = call
    · subst same
      have begun : state.closeTask other ≠ .absent := by
        rcases waits with wait | wait <;> simp [wait]
      simpa [StreamingState.setCloseTask] using
        (safe.absent other).not.mp begun
    · simpa [StreamingState.setCloseTask, same] using safe.absent other
  · intro other result done
    by_cases same : other = call
    · subst same
      simp [StreamingState.setCloseTask] at done
    · simp only [StreamingState.setCloseTask, Function.update_of_ne same]
        at done
      exact (notDone other result done).elim
  · intro other outcome served
    rcases safe.returned other outcome served with ⟨result, done⟩
    exact (notDone other result done).elim

/-- A close task gets the lock. -/
theorem closeOnce (safe : state.Protected)
    {response : ManagedStreamingResponse} {callable : Closer}
    (closable : response.closeCallable = some callable)
    (isCoroutineFunction : Closer → Bool)
    (waits :
      state.closeTask call = .scheduled ∨
        state.closeTask call = .awaitsLock)
    (free : state.closeLock = none) :
    (state.closeOnce call response isCoroutineFunction).Protected := by
  rw [StreamingState.closeOnce]
  cases safe.phase with
  | before unmarked notInvoked none unheld =>
      rw [unmarked, if_neg Bool.false_ne_true, closable]
      dsimp only
      split
      · exact
          safe.startClose waits notInvoked unheld
            (.inr ⟨rfl, congrArg Nat.succ none⟩)
      · exact
          safe.startClose waits notInvoked unheld (.inl ⟨rfl, none⟩)
  | after outcome marked finished one unheld =>
      rw [marked, if_pos rfl, endCloseTask, ← free]
      apply safe.setCloseTask
      · rcases waits with wait | wait <;> simp [wait]
      · exact unheld.closing call
      · rcases waits with wait | wait <;> simp [wait]
      · exact ⟨nofun, nofun⟩
      · exact fun _ _ => ⟨outcome, finished⟩
  | queued holder marked queued none held =>
      rw [held.lock] at free
      cases free
  | running holder marked running one held =>
      rw [held.lock] at free
      cases free

/-- A worker thread calls the close callable. -/
theorem startThread (safe : state.Protected)
    (queued : state.close = .queued) : state.startThread.Protected := by
  cases safe.phase with
  | queued holder marked _ none held =>
      exact
        { phase :=
            .running holder marked (.inl rfl) (congrArg Nat.succ none)
              ⟨held.lock, held.closing⟩
          spared := safe.spared
          absent := safe.absent
          closed := by
            intro other result done
            rcases safe.closed other result done with ⟨outcome, finished⟩
            rw [queued] at finished
            cases finished
          returned := safe.returned }
  | before _ close => exact nomatch queued.symm.trans close
  | running _ _ close =>
      rcases close with close | close <;>
        exact nomatch queued.symm.trans close
  | after _ _ close => exact nomatch queued.symm.trans close

/-- While the close runs, a close task holds the lock. -/
theorem held_of_running (safe : state.Protected)
    (running : state.close = .inThread ∨ state.close = .inTask) :
    ∃ holder, state.closed = true ∧ state.invocations = 1 ∧
      state.HeldBy holder := by
  cases safe.phase with
  | running holder marked _ one held => exact ⟨holder, marked, one, held⟩
  | before _ close =>
      rcases running with run | run <;> exact nomatch run.symm.trans close
  | queued _ _ close =>
      rcases running with run | run <;> exact nomatch run.symm.trans close
  | after _ _ close =>
      rcases running with run | run <;> exact nomatch run.symm.trans close

/-- The thread returns an awaitable. -/
theorem awaitResult (safe : state.Protected)
    (inThread : state.close = .inThread) :
    state.awaitResult.Protected := by
  rcases safe.held_of_running (.inl inThread) with
    ⟨holder, marked, one, held⟩
  rw [StreamingState.awaitResult, held.lock]
  exact
    { phase :=
        .running holder marked (.inr rfl) one ⟨rfl, held.closing⟩
      spared := safe.spared
      absent := safe.absent
      closed := by
        intro other result done
        rcases safe.closed other result done with ⟨outcome, finished⟩
        rw [inThread] at finished
        cases finished
      returned := safe.returned }

/-- The close finishes, and the close task with it. -/
theorem finishClose (safe : state.Protected) (outcome : Outcome)
    (running : state.close = .inThread ∨ state.close = .inTask) :
    (state.finishClose outcome).Protected := by
  rcases safe.held_of_running running with ⟨holder, marked, one, held⟩
  have closing : state.closeTask holder = .closing :=
    (held.closing holder).mpr rfl
  rw [StreamingState.finishClose, held.lock]
  constructor
  · refine .after outcome marked rfl one ⟨rfl, ?_⟩
    intro other closes
    by_cases same : other = holder
    · subst same
      simp [endCloseTask, StreamingState.setCloseTask] at closes
    · simp only [endCloseTask, StreamingState.setCloseTask,
        Function.update_of_ne same] at closes
      exact same ((held.closing other).mp closes)
  · exact safe.spared
  · intro other
    by_cases same : other = holder
    · subst same
      have begun : state.closeTask other ≠ .absent := by simp [closing]
      simpa [endCloseTask, StreamingState.setCloseTask] using
        (safe.absent other).not.mp begun
    · simpa [endCloseTask, StreamingState.setCloseTask, same] using
        safe.absent other
  · exact fun _ _ _ => ⟨outcome, rfl⟩
  · intro other returned served
    by_cases same : other = holder
    · subst same
      exact ⟨outcome, by simp [endCloseTask, StreamingState.setCloseTask]⟩
    · simpa [endCloseTask, StreamingState.setCloseTask, same] using
        safe.returned other returned served

end Protected

/-! ## Runs -/

/--
No cancellation reaches a serving task which awaits its close task directly,
unless the close task is done.
-/
def SparesClose (state : StreamingState) (action : StreamingAction) :
    Prop :=
  ∀ call streamed, action = .cancel call →
    state.serving call = .awaitsClose streamed →
    ∃ result, state.closeTask call = .done result

theorem Protected.step {response : ManagedStreamingResponse}
    {isCoroutineFunction : Closer → Bool} {callable : Closer}
    (closable : response.closeCallable = some callable)
    {before after : StreamingState} {action : StreamingAction}
    (taken :
      StreamingStep response isCoroutineFunction before action after)
    (spares : before.SparesClose action) (safe : before.Protected) :
    after.Protected := by
  cases taken with
  | begin idle =>
      apply safe.setServing
      · simp [(safe.absent _).mpr (.inl idle)]
      · nofun
  | streamed outcome streaming => exact safe.shieldClose streaming outcome
  | cancelStreaming => exact safe
  | cancelShield awaits started =>
      rw [StreamingState.cancelShield]
      split
      · next done => exact safe.finish done _ _
      · apply safe.setServing
        · simp [safe.absent, awaits]
        · nofun
  | cancelAwait suppressed awaits =>
      rcases spares _ _ rfl awaits with ⟨result, done⟩
      rw [StreamingState.cancelAwait, done]
      exact safe.finish done _ _
  | acquireLock waits free => exact safe.closeOnce closable _ waits free
  | awaitLock scheduled held =>
      apply safe.setCloseTask
      · simp [scheduled]
      · simp [scheduled]
      · simp [scheduled]
      · exact ⟨nofun, nofun⟩
      · nofun
  | startThread queued => exact safe.startThread queued
  | awaitResult inThread => exact safe.awaitResult inThread
  | finishClose outcome running => exact safe.finishClose outcome running
  | resumeShield awaits done => exact safe.finish done _ _
  | resumeAwait awaits done => exact safe.finish done _ _

/--
No cancellation has reached the close, and a call has ended only after the
close was invoked once and has finished.
-/
structure ClosedOnce (state : StreamingState) : Prop where
  spared : state.cancelled = false
  invoked :
    ∀ call outcome, state.serving call = .done outcome →
      state.invocations = 1
  finished :
    ∀ call outcome, state.serving call = .done outcome →
      ∃ result, state.close = .finished result

/-- The serving task of a call waits for its close task. -/
def AwaitsClose (state : StreamingState) (call : Nat) : Prop :=
  ∃ streamed, state.serving call = .awaitsShield streamed ∨
    state.serving call = .awaitsClose streamed

/-- Whenever a call waits, a step is possible which is no cancellation. -/
def Proceeds (response : ManagedStreamingResponse)
    (isCoroutineFunction : Closer → Bool) (state : StreamingState) : Prop :=
  ∀ call, state.AwaitsClose call → ∃ action next,
    StreamingStep response isCoroutineFunction state action next ∧
      ∀ other, action ≠ .cancel other

theorem Protected.closedOnce {state : StreamingState}
    (safe : state.Protected) : state.ClosedOnce := by
  have finished (call : Nat) (outcome : Outcome)
      (served : state.serving call = .done outcome) :
      ∃ result, state.close = .finished result := by
    rcases safe.returned call outcome served with ⟨result, done⟩
    exact safe.closed call result done
  refine ⟨safe.spared, ?_, finished⟩
  intro call outcome served
  rcases finished call outcome served with ⟨result, close⟩
  cases safe.phase with
  | after _ _ _ one _ => exact one
  | before _ other => exact nomatch close.symm.trans other
  | queued _ _ other => exact nomatch close.symm.trans other
  | running _ _ other =>
      rcases other with other | other <;>
        exact nomatch close.symm.trans other

/-- A close which has the lock can go on. -/
theorem Protected.exists_step_of_held
    {response : ManagedStreamingResponse}
    {isCoroutineFunction : Closer → Bool} {state : StreamingState}
    (safe : state.Protected) {holder : Nat}
    (held : state.closeLock = some holder) :
    ∃ action next,
      StreamingStep response isCoroutineFunction state action next ∧
        ∀ other, action ≠ .cancel other := by
  cases safe.phase with
  | before _ _ _ unheld => exact nomatch held.symm.trans unheld.lock
  | after _ _ _ _ unheld => exact nomatch held.symm.trans unheld.lock
  | queued _ _ queued => exact ⟨_, _, .startThread queued, nofun⟩
  | running _ _ running =>
      exact ⟨_, _, .finishClose (.ok ()) running, nofun⟩

theorem Protected.proceeds {response : ManagedStreamingResponse}
    {isCoroutineFunction : Closer → Bool} {state : StreamingState}
    (safe : state.Protected) :
    state.Proceeds response isCoroutineFunction := by
  rintro call ⟨streamed, awaits⟩
  cases task : state.closeTask call with
  | absent =>
      have begun := (safe.absent call).mp task
      rcases awaits with awaits | awaits <;> simp [awaits] at begun
  | scheduled =>
      cases lock : state.closeLock with
      | none => exact ⟨_, _, .acquireLock (.inl task) lock, nofun⟩
      | some holder => exact ⟨_, _, .awaitLock task lock, nofun⟩
  | awaitsLock =>
      cases lock : state.closeLock with
      | none => exact ⟨_, _, .acquireLock (.inr task) lock, nofun⟩
      | some holder => exact safe.exists_step_of_held lock
  | closing =>
      cases safe.phase with
      | before _ _ _ unheld => exact (unheld.closing call task).elim
      | after _ _ _ _ unheld => exact (unheld.closing call task).elim
      | queued _ _ _ _ held => exact safe.exists_step_of_held held.lock
      | running _ _ _ _ held => exact safe.exists_step_of_held held.lock
  | done result =>
      rcases awaits with awaits | awaits
      · exact ⟨_, _, .resumeShield awaits task, nofun⟩
      · exact ⟨_, _, .resumeAwait awaits task, nofun⟩

end StreamingState

/--
In every run of any number of calls, the close callable is invoked at most
once.  In the runs which spare the close tasks, no cancellation reaches the
close, a call ends only after the close has finished, and no call is stuck.
-/
theorem ManagedStreamingResponse.closesOnce
    {response : ManagedStreamingResponse} {callable : Closer}
    (closable : response.closeCallable = some callable)
    (isCoroutineFunction : Closer → Bool) :
    (∀ actions state,
        Run (StreamingStep response isCoroutineFunction) .initial actions
            state →
          state.invocations ≤ 1) ∧
      ∀ actions state,
        Run
            (fun before action after =>
              StreamingStep response isCoroutineFunction before action
                  after ∧
                before.SparesClose action)
            .initial actions state →
          state.ClosedOnce ∧
            state.Proceeds response isCoroutineFunction := by
  constructor
  · intro actions state run
    have once : state.AtMostOnce :=
      run.invariant ⟨fun _ => rfl, fun _ => rfl, Nat.zero_le 1⟩
        fun _ _ _ taken => .step taken
    exact once.invocations
  · intro actions state run
    have safe : state.Protected :=
      run.invariant_of_forall StreamingState.protected_initial
        fun _ _ _ taken spares => .step closable taken spares
    exact ⟨safe.closedOnce, safe.proceeds⟩

/-! ## Cancellations during one close -/

/-- A response with an asynchronous resource. -/
def asyncResponse : ManagedStreamingResponse where
  resource := some { ref := 0, aclose := true }

/-- The close of the first call has begun. -/
def closeBegun : StreamingState :=
  ((StreamingState.initial.setServing 0 .streaming).shieldClose 0
    (.ok ())).closeOnce 0 asyncResponse fun _ => true

theorem started_closeBegun : closeBegun.closeTask 0 ≠ .scheduled := by
  intro scheduled
  have closing : closeBegun.closeTask 0 = .closing := rfl
  exact nomatch closing.symm.trans scheduled

/-- After one cancellation the close finishes, and then the call ends. -/
theorem asyncResponse_closedOnce :
    ((((closeBegun.cancelShield 0 (.ok ())).finishClose (.ok ())).finish 0
      (.ok ()) (afterCancellation (.ok ()))).ClosedOnce) := by
  have spares {state : StreamingState} {action : StreamingAction}
      (other : ∀ call, action ≠ .cancel call) :
      state.SparesClose action :=
    fun call _ same => (other call same).elim
  refine
    ((ManagedStreamingResponse.closesOnce rfl fun _ => true).2 _ _
      ((((((Run.nil.snoc ⟨.begin rfl, spares nofun⟩).snoc
        ⟨.streamed (.ok ()) rfl, spares nofun⟩).snoc
        ⟨.acquireLock (.inl rfl) rfl, spares nofun⟩).snoc
        ⟨.cancelShield rfl started_closeBegun, ?_⟩).snoc
        ⟨.finishClose (.ok ()) (.inr rfl), spares nofun⟩).snoc
        ⟨.resumeAwait rfl rfl, spares nofun⟩)).1
  intro call streamed same awaits
  cases same
  cases awaits

/-- A second cancellation ends the close task and the call. -/
theorem not_forall_closedOnce :
    ¬∀ (response : ManagedStreamingResponse) (callable : Closer)
        (isCoroutineFunction : Closer → Bool)
        (actions : List StreamingAction) (state : StreamingState),
      response.closeCallable = some callable →
      Run (StreamingStep response isCoroutineFunction) .initial actions
        state →
      state.ClosedOnce := by
  intro closesOnce
  have closed :
      (((closeBegun.cancelShield 0 (.ok ())).cancelAwait 0 (.ok ())
        false).finish 0 (.ok ())
        (afterCancellation (.error .cancelledError))).ClosedOnce :=
    closesOnce asyncResponse .aclose (fun _ => true) _ _ rfl
      ((((((Run.nil.snoc (.begin rfl)).snoc
        (.streamed (.ok ()) rfl)).snoc
        (.acquireLock (.inl rfl) rfl)).snoc
        (.cancelShield rfl started_closeBegun)).snoc
        (.cancelAwait false rfl)).snoc
        (.resumeAwait rfl rfl))
  rcases closed.finished 0 _ rfl with ⟨result, finished⟩
  cases finished

end FastapiCore
