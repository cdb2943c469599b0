import FastapiCore.StreamingClose

/-!
# How a streaming call ends

Streaming, the close and the cancellation of the serving task may all
contribute an exception to the end of a call.  `CallStep` is what a step of
any number of calls means for one of them, and with it the outcome of the
call is read off the run: an exception of the streaming is kept, a
cancellation is kept unless the close raises something else.
-/

namespace FastapiCore

open Library

namespace StreamingState

/-! ## The close task of a call -/

/--
The task which has the lock is the one which closes, the close callable is on
its way as long as there is one, and a call whose streaming has not ended has
no close task.
-/
structure Locked (state : StreamingState) : Prop where
  lock :
    ∀ holder, state.closeLock = some holder ↔
      state.closeTask holder = .closing
  running :
    ∀ holder, state.closeLock = some holder →
      state.close = .queued ∨ state.close = .inThread ∨
        state.close = .inTask
  absent :
    ∀ call, state.serving call = .idle ∨ state.serving call = .streaming →
      state.closeTask call = .absent

theorem locked_initial : initial.Locked where
  lock _ := iff_of_false nofun nofun
  running := nofun
  absent _ _ := rfl

namespace Locked

variable {state : StreamingState} {call : Nat}

/-- A call with a close task is past its streaming. -/
theorem past (locked : state.Locked)
    (present : state.closeTask call ≠ .absent) :
    ¬(state.serving call = .idle ∨ state.serving call = .streaming) :=
  fun early => present (locked.absent call early)

/-- Without the lock no close task closes. -/
theorem not_closing (locked : state.Locked) (free : state.closeLock = none)
    (other : Nat) : state.closeTask other ≠ .closing := by
  intro closing
  have held := (locked.lock other).mpr closing
  exact nomatch free.symm.trans held

/-- Two close tasks do not close at the same time. -/
theorem closing_unique (locked : state.Locked) {other : Nat}
    (closing : state.closeTask call = .closing)
    (closing' : state.closeTask other = .closing) : call = other := by
  have held := (locked.lock call).mpr closing
  have held' := (locked.lock other).mpr closing'
  exact Option.some.inj (held.symm.trans held')

/-- The serving task of a call goes on. -/
theorem setServing (locked : state.Locked) {task : ServingTask}
    (absent :
      task = .idle ∨ task = .streaming → state.closeTask call = .absent) :
    (state.setServing call task).Locked where
  lock := locked.lock
  running := locked.running
  absent other := by
    by_cases same : other = call
    · subst same
      simpa [StreamingState.setServing] using absent
    · simpa [StreamingState.setServing, same] using locked.absent other

theorem finish (locked : state.Locked) (streamed closed : Outcome) :
    (state.finish call streamed closed).Locked :=
  locked.setServing nofun

/-- A close task which does not close goes on, and does not begin to. -/
theorem setCloseTask (locked : state.Locked) {task : CloseTask}
    (present : state.closeTask call ≠ .absent)
    (notClosing : state.closeTask call ≠ .closing)
    (stays : task ≠ .closing) : (state.setCloseTask call task).Locked where
  lock holder :=
    (locked.lock holder).trans
      (closing_setCloseTask notClosing stays holder).symm
  running := locked.running
  absent other early := by
    have different : other ≠ call := by
      rintro rfl
      exact locked.past present early
    simpa [StreamingState.setCloseTask, different] using
      locked.absent other early

/-- A close task ends, which has the lock if any task has it. -/
theorem endCloseTask (locked : state.Locked) (outcome : Outcome)
    (present : state.closeTask call ≠ .absent)
    (last : ∀ other, state.closeTask other = .closing → other = call) :
    (state.endCloseTask call outcome).Locked where
  lock holder := by
    refine iff_of_false nofun fun closing => ?_
    by_cases same : holder = call
    · subst same
      simp [StreamingState.endCloseTask, StreamingState.setCloseTask]
        at closing
    · simp only [StreamingState.endCloseTask, StreamingState.setCloseTask,
        Function.update_of_ne same] at closing
      exact same (last holder closing)
  running := nofun
  absent other early := by
    have different : other ≠ call := by
      rintro rfl
      exact locked.past present early
    simpa [StreamingState.endCloseTask, StreamingState.setCloseTask,
      different] using locked.absent other early

/-- The other parts of the state do not matter. -/
theorem congr (locked : state.Locked) {other : StreamingState}
    (serving : other.serving = state.serving)
    (closeTask : other.closeTask = state.closeTask)
    (lock : other.closeLock = state.closeLock)
    (running :
      ∀ holder, state.closeLock = some holder →
        other.close = .queued ∨ other.close = .inThread ∨
          other.close = .inTask) : other.Locked where
  lock := by
    rw [lock, closeTask]
    exact locked.lock
  running := by
    rw [lock]
    exact running
  absent := by
    rw [serving, closeTask]
    exact locked.absent

/-- Streaming ends, and the close task is created. -/
theorem shieldClose (locked : state.Locked)
    (streaming : state.serving call = .streaming) (streamed : Outcome) :
    (state.shieldClose call streamed).Locked where
  lock holder := by
    have notClosing : state.closeTask call ≠ .closing := by
      simp [locked.absent call (.inr streaming)]
    have stays : CloseTask.scheduled ≠ .closing := nofun
    exact
      (locked.lock holder).trans
        (closing_setCloseTask notClosing stays holder).symm
  running := locked.running
  absent other := by
    by_cases same : other = call
    · subst same
      simp [StreamingState.shieldClose, StreamingState.setCloseTask,
        StreamingState.setServing]
    · simpa [StreamingState.shieldClose, StreamingState.setCloseTask,
        StreamingState.setServing, same] using locked.absent other

/-- A close task takes the free lock and begins to close. -/
theorem beginClose (locked : state.Locked) (free : state.closeLock = none)
    (present : state.closeTask call ≠ .absent) {close : CloseProgress}
    {invocations : Nat}
    (running : close = .queued ∨ close = .inThread ∨ close = .inTask) :
    ({ state.setCloseTask call .closing with
        closed := true
        closeLock := some call
        close
        invocations } : StreamingState).Locked where
  lock holder := by
    by_cases same : holder = call
    · subst same
      simp [StreamingState.setCloseTask]
    · have other := locked.not_closing free holder
      simpa [StreamingState.setCloseTask, same, Ne.symm same] using other
  running _ _ := running
  absent other early := by
    have different : other ≠ call := by
      rintro rfl
      exact locked.past present early
    simpa [StreamingState.setCloseTask, different] using
      locked.absent other early

theorem closeOnce (locked : state.Locked) (free : state.closeLock = none)
    (present : state.closeTask call ≠ .absent)
    (response : ManagedStreamingResponse)
    (isCoroutineFunction : Closer → Bool) :
    (state.closeOnce call response isCoroutineFunction).Locked := by
  rw [StreamingState.closeOnce]
  have last (other : Nat) (closing : state.closeTask other = .closing) :
      other = call :=
    (locked.not_closing free other closing).elim
  have marked : ({ state with closed := true } : StreamingState).Locked :=
    locked.congr rfl rfl rfl locked.running
  split
  · exact locked.endCloseTask _ present last
  · dsimp only
    split
    · exact marked.endCloseTask _ present last
    · split
      · exact locked.beginClose free present (.inr (.inr rfl))
      · exact locked.beginClose free present (.inl rfl)

theorem cancelCloseTask (locked : state.Locked) (suppressed : Bool) :
    (state.cancelCloseTask call suppressed).Locked := by
  rw [StreamingState.cancelCloseTask]
  split
  · next waits =>
      exact
        locked.setCloseTask (by simp [waits]) (by simp [waits]) (by simp)
  · next closes =>
      have reached :
          ({ state with cancelled := true } : StreamingState).Locked :=
        locked.congr rfl rfl rfl locked.running
      have ended :=
        reached.endCloseTask (.error .cancelledError)
          (show state.closeTask call ≠ .absent by simp [closes])
          fun _ closing => locked.closing_unique closing closes
      split
      · exact ended.congr rfl rfl rfl (by rintro _ ⟨⟩)
      · split
        · exact reached
        · exact ended.congr rfl rfl rfl (by rintro _ ⟨⟩)
      · exact ended
      · exact locked
  · exact locked

theorem finishClose (locked : state.Locked) (outcome : Outcome) :
    (state.finishClose outcome).Locked := by
  rw [StreamingState.finishClose]
  cases held : state.closeLock with
  | none =>
      have free (holder : Nat) : state.closeLock ≠ some holder := by
        simp [held]
      exact
        locked.congr rfl rfl held.symm fun holder holds =>
          (free holder holds).elim
  | some holder =>
      have closing := (locked.lock holder).mp held
      have ended :=
        locked.endCloseTask outcome
          (show state.closeTask holder ≠ .absent by simp [closing])
          fun _ other => locked.closing_unique other closing
      exact ended.congr rfl rfl rfl (by rintro _ ⟨⟩)

theorem step {response : ManagedStreamingResponse}
    {isCoroutineFunction : Closer → Bool} {before after : StreamingState}
    {action : StreamingAction}
    (taken :
      StreamingStep response isCoroutineFunction before action after)
    (locked : before.Locked) : after.Locked := by
  cases taken with
  | begin idle =>
      exact locked.setServing fun _ => locked.absent _ (.inl idle)
  | streamed outcome streaming => exact locked.shieldClose streaming outcome
  | cancelStreaming => exact locked
  | cancelShield =>
      rw [StreamingState.cancelShield]
      split
      · exact locked.finish _ _
      · exact locked.setServing (by rintro (⟨⟨⟩⟩ | ⟨⟨⟩⟩))
  | cancelAwait =>
      rw [StreamingState.cancelAwait]
      split
      · exact locked.finish _ _
      · exact locked.cancelCloseTask _
  | acquireLock waits free =>
      apply locked.closeOnce free
      rcases waits with wait | wait <;> simp [wait]
  | awaitLock scheduled held =>
      exact
        locked.setCloseTask (by simp [scheduled]) (by simp [scheduled])
          (by simp)
  | startThread =>
      exact locked.congr rfl rfl rfl fun _ _ => .inr (.inl rfl)
  | awaitResult =>
      rw [StreamingState.awaitResult]
      split
      · next free =>
          refine locked.congr rfl rfl rfl ?_
          intro holder held
          cases free.symm.trans held
      · next held =>
          exact locked.congr rfl rfl rfl fun _ _ => .inr (.inr rfl)
  | finishClose outcome => exact locked.finishClose outcome
  | resumeShield => exact locked.finish _ _
  | resumeAwait => exact locked.finish _ _

end Locked

/-! ## A step, for one of the calls -/

/--
What a step of any number of calls means for the serving task of one of them
which waits for its close task.
-/
inductive CallStep (call : Nat) (before : StreamingState)
    (action : StreamingAction) (after : StreamingState) : Prop where
  | other (different : action ≠ .cancel call)
      (serving : after.serving call = before.serving call)
  | cancelled {streamed : Outcome} (cancel : action = .cancel call)
      (awaits : before.serving call = .awaitsShield streamed)
      (serving : after.serving call = .awaitsClose streamed)
  | cancelledLate {streamed result : Outcome}
      (cancel : action = .cancel call)
      (awaits : before.serving call = .awaitsShield streamed)
      (done : before.closeTask call = .done result)
      (serving :
        after.serving call =
          .done (callOutcome streamed (afterCancellation result)))
  | cancelledAgain {streamed : Outcome} (cancel : action = .cancel call)
      (awaits : before.serving call = .awaitsClose streamed)
  | resumedShield {streamed result : Outcome}
      (different : action ≠ .cancel call)
      (awaits : before.serving call = .awaitsShield streamed)
      (done : before.closeTask call = .done result)
      (serving :
        after.serving call =
          .done
            (callOutcome streamed (closeWithCancellationProtection result)))
  | resumedClose {streamed result : Outcome}
      (different : action ≠ .cancel call)
      (awaits : before.serving call = .awaitsClose streamed)
      (done : before.closeTask call = .done result)
      (serving :
        after.serving call =
          .done (callOutcome streamed (afterCancellation result)))

variable {response : ManagedStreamingResponse}
  {isCoroutineFunction : Closer → Bool}

theorem serving_setServing_of_ne {state : StreamingState}
    {call other : Nat} (different : other ≠ call) (task : ServingTask) :
    (state.setServing call task).serving other = state.serving other :=
  Function.update_of_ne different ..

theorem serving_setServing (state : StreamingState) (call : Nat)
    (task : ServingTask) :
    (state.setServing call task).serving call = task :=
  Function.update_self ..

theorem serving_closeOnce (state : StreamingState) (call : Nat)
    (response : ManagedStreamingResponse)
    (isCoroutineFunction : Closer → Bool) :
    (state.closeOnce call response isCoroutineFunction).serving =
      state.serving := by
  rw [StreamingState.closeOnce]
  split
  · rfl
  · dsimp only
    split
    · rfl
    · split <;> rfl

theorem serving_cancelCloseTask (state : StreamingState) (call : Nat)
    (suppressed : Bool) :
    (state.cancelCloseTask call suppressed).serving = state.serving := by
  rw [StreamingState.cancelCloseTask]
  split
  · rfl
  · split
    · rfl
    · split <;> rfl
    · rfl
    · rfl
  · rfl

theorem serving_finishClose (state : StreamingState) (outcome : Outcome) :
    (state.finishClose outcome).serving = state.serving := by
  rw [StreamingState.finishClose]
  split <;> rfl

/-- Only its own steps concern a call which waits for its close task. -/
theorem callStep {before after : StreamingState} {action : StreamingAction}
    (taken :
      StreamingStep response isCoroutineFunction before action after)
    {call : Nat}
    (waits :
      ¬(before.serving call = .idle ∨ before.serving call = .streaming)) :
    CallStep call before action after := by
  have distinct {other : Nat}
      (early :
        before.serving other = .idle ∨ before.serving other = .streaming) :
      call ≠ other := by
    rintro rfl
    exact waits early
  cases taken with
  | begin idle =>
      exact
        .other (by rintro ⟨⟩)
          (serving_setServing_of_ne (distinct (.inl idle)) _)
  | streamed outcome streaming =>
      exact
        .other (by rintro ⟨⟩)
          (serving_setServing_of_ne (distinct (.inr streaming)) _)
  | cancelStreaming streaming =>
      refine .other ?_ rfl
      rintro ⟨⟩
      exact waits (.inr streaming)
  | @cancelShield other _ awaits started =>
      by_cases same : call = other
      · subst same
        rw [StreamingState.cancelShield]
        split
        · next result done =>
            exact .cancelledLate rfl awaits done (serving_setServing ..)
        · exact .cancelled rfl awaits (serving_setServing ..)
      · refine .other ?_ ?_
        · rintro ⟨⟩
          exact same rfl
        · rw [StreamingState.cancelShield]
          split <;> exact serving_setServing_of_ne same _
  | @cancelAwait other _ suppressed awaits =>
      by_cases same : call = other
      · subst same
        exact .cancelledAgain rfl awaits
      · refine .other ?_ ?_
        · rintro ⟨⟩
          exact same rfl
        · rw [StreamingState.cancelAwait]
          split
          · exact serving_setServing_of_ne same _
          · rw [serving_cancelCloseTask]
  | acquireLock =>
      exact .other (by rintro ⟨⟩) (congrFun (serving_closeOnce ..) call)
  | awaitLock => exact .other (by rintro ⟨⟩) rfl
  | startThread => exact .other (by rintro ⟨⟩) rfl
  | awaitResult =>
      refine .other (by rintro ⟨⟩) ?_
      rw [StreamingState.awaitResult]
      split <;> rfl
  | finishClose outcome =>
      exact .other (by rintro ⟨⟩) (congrFun (serving_finishClose ..) call)
  | @resumeShield other _ _ awaits done =>
      by_cases same : call = other
      · subst same
        exact
          .resumedShield (by rintro ⟨⟩) awaits done (serving_setServing ..)
      · exact .other (by rintro ⟨⟩) (serving_setServing_of_ne same _)
  | @resumeAwait other _ _ awaits done =>
      by_cases same : call = other
      · subst same
        exact
          .resumedClose (by rintro ⟨⟩) awaits done (serving_setServing ..)
      · exact .other (by rintro ⟨⟩) (serving_setServing_of_ne same _)

/-! ## A close task which is done -/

theorem closeTask_endCloseTask_of_ne {state : StreamingState}
    {call other : Nat} (different : call ≠ other) (outcome : Outcome) :
    (state.endCloseTask other outcome).closeTask call =
      state.closeTask call :=
  Function.update_of_ne different ..

theorem closeTask_setCloseTask_of_ne {state : StreamingState}
    {call other : Nat} (different : call ≠ other) (task : CloseTask) :
    (state.setCloseTask other task).closeTask call = state.closeTask call :=
  Function.update_of_ne different ..

theorem closeTask_closeOnce_of_ne {state : StreamingState}
    {call other : Nat} (different : call ≠ other)
    (response : ManagedStreamingResponse)
    (isCoroutineFunction : Closer → Bool) :
    (state.closeOnce other response isCoroutineFunction).closeTask call =
      state.closeTask call := by
  rw [StreamingState.closeOnce]
  split
  · exact closeTask_endCloseTask_of_ne different _
  · dsimp only
    split
    · exact closeTask_endCloseTask_of_ne different _
    · split <;> exact closeTask_setCloseTask_of_ne different _

theorem closeTask_cancelCloseTask_of_ne {state : StreamingState}
    {call other : Nat} (different : call ≠ other) (suppressed : Bool) :
    (state.cancelCloseTask other suppressed).closeTask call =
      state.closeTask call := by
  rw [StreamingState.cancelCloseTask]
  split
  · exact closeTask_setCloseTask_of_ne different _
  · split
    · exact closeTask_endCloseTask_of_ne different _
    · split
      · rfl
      · exact closeTask_endCloseTask_of_ne different _
    · exact closeTask_endCloseTask_of_ne different _
    · rfl
  · rfl

/-- A close task which is done keeps its result. -/
theorem closeTask_eq_done {before after : StreamingState}
    {action : StreamingAction}
    (taken :
      StreamingStep response isCoroutineFunction before action after)
    (locked : before.Locked) {call : Nat} {result : Outcome}
    (done : before.closeTask call = .done result) :
    after.closeTask call = .done result := by
  have present : before.closeTask call ≠ .absent := by simp [done]
  cases taken with
  | begin => exact done
  | @streamed other outcome streaming =>
      have different : call ≠ other := by
        rintro rfl
        exact locked.past present (.inr streaming)
      exact (closeTask_setCloseTask_of_ne different _).trans done
  | cancelStreaming => exact done
  | cancelShield =>
      rw [StreamingState.cancelShield]
      split <;> exact done
  | @cancelAwait other =>
      rw [StreamingState.cancelAwait]
      split
      · exact done
      · next unfinished =>
          have different : call ≠ other := by
            rintro rfl
            exact unfinished result done
          exact (closeTask_cancelCloseTask_of_ne different _).trans done
  | @acquireLock other waits =>
      have different : call ≠ other := by
        rintro rfl
        rcases waits with wait | wait <;>
          cases done.symm.trans wait
      exact (closeTask_closeOnce_of_ne different ..).trans done
  | @awaitLock other _ scheduled =>
      have different : call ≠ other := by
        rintro rfl
        cases done.symm.trans scheduled
      exact (closeTask_setCloseTask_of_ne different _).trans done
  | startThread => exact done
  | awaitResult =>
      rw [StreamingState.awaitResult]
      split <;> exact done
  | finishClose outcome =>
      rw [StreamingState.finishClose]
      split
      · exact done
      · next holder held =>
          have different : call ≠ holder := by
            rintro rfl
            cases done.symm.trans ((locked.lock _).mp held)
          exact (closeTask_endCloseTask_of_ne different _).trans done
  | resumeShield => exact done
  | resumeAwait => exact done

/-! ## A call from its shield to its end -/

/-- The outcome of the close as the call sees it, with or without a cancel. -/
def closeOutcome (cancelled : Bool) (result : Outcome) : Outcome :=
  if cancelled then afterCancellation result
  else closeWithCancellationProtection result

/--
How far a call has come which was cancelled at most once since it has begun
to wait for its close task.
-/
inductive Closing (call : Nat) (streamed : Outcome) (state : StreamingState) :
    Bool → Prop where
  | shielded (serving : state.serving call = .awaitsShield streamed) :
      Closing call streamed state false
  | cancelled (serving : state.serving call = .awaitsClose streamed) :
      Closing call streamed state true
  | ended {cancelled : Bool} {result : Outcome}
      (done : state.closeTask call = .done result)
      (serving :
        state.serving call =
          .done (callOutcome streamed (closeOutcome cancelled result))) :
      Closing call streamed state cancelled

theorem Closing.past {call : Nat} {streamed : Outcome}
    {state : StreamingState} {cancelled : Bool}
    (closing : Closing call streamed state cancelled) :
    ¬(state.serving call = .idle ∨ state.serving call = .streaming) := by
  cases closing with
  | shielded serving => simp [serving]
  | cancelled serving => simp [serving]
  | ended _ serving => simp [serving]

/-- What a step makes of a call which waits or has ended. -/
theorem Closing.step {before after : StreamingState}
    {action : StreamingAction}
    (taken :
      StreamingStep response isCoroutineFunction before action after)
    (locked : before.Locked) {call : Nat} {streamed : Outcome}
    {cancelled : Bool}
    (closing : Closing call streamed before cancelled) :
    action ≠ .cancel call ∧ Closing call streamed after cancelled ∨
      action = .cancel call ∧
        (cancelled = false → Closing call streamed after true) := by
  cases callStep taken closing.past with
  | other different serving =>
      refine .inl ⟨different, ?_⟩
      cases closing with
      | shielded waits => exact .shielded (serving.trans waits)
      | cancelled waits => exact .cancelled (serving.trans waits)
      | ended done returned =>
          exact
            .ended (closeTask_eq_done taken locked done)
              (serving.trans returned)
  | cancelled cancel awaits serving =>
      refine .inr ⟨cancel, fun _ => ?_⟩
      cases closing with
      | shielded waits =>
          cases awaits.symm.trans waits
          exact .cancelled serving
      | cancelled waits => cases awaits.symm.trans waits
      | ended _ returned => cases awaits.symm.trans returned
  | cancelledLate cancel awaits done serving =>
      refine .inr ⟨cancel, fun _ => ?_⟩
      cases closing with
      | shielded waits =>
          cases awaits.symm.trans waits
          exact .ended (closeTask_eq_done taken locked done) serving
      | cancelled waits => cases awaits.symm.trans waits
      | ended _ returned => cases awaits.symm.trans returned
  | cancelledAgain cancel awaits =>
      refine .inr ⟨cancel, ?_⟩
      rintro rfl
      cases closing with
      | shielded waits => cases awaits.symm.trans waits
      | ended _ returned => cases awaits.symm.trans returned
  | resumedShield different awaits done serving =>
      refine .inl ⟨different, ?_⟩
      cases closing with
      | shielded waits =>
          cases awaits.symm.trans waits
          exact .ended (closeTask_eq_done taken locked done) serving
      | cancelled waits => cases awaits.symm.trans waits
      | ended _ returned => cases awaits.symm.trans returned
  | resumedClose different awaits done serving =>
      refine .inl ⟨different, ?_⟩
      cases closing with
      | shielded waits => cases awaits.symm.trans waits
      | cancelled waits =>
          cases awaits.symm.trans waits
          exact .ended (closeTask_eq_done taken locked done) serving
      | ended _ returned => cases awaits.symm.trans returned

/-! ## The close callable of a call -/

/-- A close which has finished stays as it is. -/
theorem close_eq_finished {before after : StreamingState}
    {action : StreamingAction}
    (taken :
      StreamingStep response isCoroutineFunction before action after)
    (once : before.AtMostOnce) {result : Outcome}
    (finished : before.close = .finished result) :
    after.close = .finished result := by
  cases taken with
  | begin => exact finished
  | streamed => exact finished
  | cancelStreaming => exact finished
  | cancelShield =>
      rw [StreamingState.cancelShield]
      split <;> exact finished
  | cancelAwait =>
      rw [StreamingState.cancelAwait]
      split
      · exact finished
      · rw [StreamingState.cancelCloseTask]
        split
        · exact finished
        · split
          · next queued => cases queued.symm.trans finished
          · next inTask => cases inTask.symm.trans finished
          · exact finished
          · exact finished
        · exact finished
  | acquireLock =>
      have marked := once.marked (by simp [finished])
      rw [StreamingState.closeOnce, if_pos marked]
      exact finished
  | awaitLock => exact finished
  | startThread queued => cases queued.symm.trans finished
  | awaitResult inThread => cases inThread.symm.trans finished
  | finishClose outcome running =>
      rcases running with run | run <;> cases run.symm.trans finished
  | resumeShield => exact finished
  | resumeAwait => exact finished

/--
What a step makes of the close task of a call, unless it cancels the call for
the second time.
-/
inductive CloseTaskStep (call : Nat) (before after : StreamingState) :
    Prop where
  | kept (task : after.closeTask call = before.closeTask call)
  | waits (notClosing : before.closeTask call ≠ .closing)
      (task :
        after.closeTask call = .scheduled ∨
          after.closeTask call = .awaitsLock)
  | spared (notClosing : before.closeTask call ≠ .closing)
      (task : after.closeTask call = .done (.ok ()))
  | closes (task : after.closeTask call = .closing)
  | finished {outcome : Outcome}
      (closing : before.closeTask call = .closing)
      (task : after.closeTask call = .done outcome)
      (close : after.close = .finished outcome)

/-- A close task which gets the lock closes unless there is nothing to do. -/
theorem closeTask_closeOnce (state : StreamingState) (call : Nat)
    (response : ManagedStreamingResponse)
    (isCoroutineFunction : Closer → Bool) :
    (state.closeOnce call response isCoroutineFunction).closeTask call =
        .closing ∨
      (state.closeOnce call response isCoroutineFunction).closeTask call =
        .done (.ok ()) := by
  rw [StreamingState.closeOnce]
  split
  · exact .inr (Function.update_self ..)
  · dsimp only
    split
    · exact .inr (Function.update_self ..)
    · split <;> exact .inl (Function.update_self ..)

theorem closeTaskStep {before after : StreamingState}
    {action : StreamingAction}
    (taken :
      StreamingStep response isCoroutineFunction before action after)
    (locked : before.Locked) {call : Nat}
    (spared :
      ∀ streamed, action = .cancel call →
        before.serving call ≠ .awaitsClose streamed) :
    CloseTaskStep call before after := by
  cases taken with
  | begin => exact .kept rfl
  | @streamed other outcome streaming =>
      by_cases same : call = other
      · subst same
        refine .waits ?_ (.inl (Function.update_self ..))
        simp [locked.absent call (.inr streaming)]
      · exact .kept (closeTask_setCloseTask_of_ne same _)
  | cancelStreaming => exact .kept rfl
  | cancelShield =>
      refine .kept ?_
      rw [StreamingState.cancelShield]
      split <;> rfl
  | @cancelAwait other streamed suppressed awaits =>
      have different : call ≠ other := by
        rintro rfl
        exact spared streamed rfl awaits
      refine .kept ?_
      rw [StreamingState.cancelAwait]
      split
      · rfl
      · exact closeTask_cancelCloseTask_of_ne different suppressed
  | @acquireLock other waits free =>
      by_cases same : call = other
      · subst same
        rcases
          closeTask_closeOnce before call response isCoroutineFunction with
          closes | done
        · exact .closes closes
        · exact .spared (locked.not_closing free call) done
      · exact .kept (closeTask_closeOnce_of_ne same ..)
  | @awaitLock other _ scheduled =>
      by_cases same : call = other
      · subst same
        exact
          .waits (by simp [scheduled]) (.inr (Function.update_self ..))
      · exact .kept (closeTask_setCloseTask_of_ne same _)
  | startThread => exact .kept rfl
  | awaitResult =>
      refine .kept ?_
      rw [StreamingState.awaitResult]
      split <;> rfl
  | finishClose outcome =>
      rw [StreamingState.finishClose]
      split
      · exact .kept rfl
      · next holder held =>
          by_cases same : call = holder
          · subst same
            exact
              .finished ((locked.lock call).mp held)
                (Function.update_self ..) rfl
          · exact .kept (closeTask_endCloseTask_of_ne same outcome)
  | resumeShield => exact .kept rfl
  | resumeAwait => exact .kept rfl

/-- The close task of the call closes, or ended as its close callable. -/
inductive ClosesItself (call : Nat) (state : StreamingState) : Prop where
  | closing (task : state.closeTask call = .closing)
  | finished {result : Outcome} (task : state.closeTask call = .done result)
      (close : state.close = .finished result)

theorem ClosesItself.step {before after : StreamingState}
    {action : StreamingAction}
    (taken :
      StreamingStep response isCoroutineFunction before action after)
    (locked : before.Locked) (once : before.AtMostOnce) {call : Nat}
    (step : CloseTaskStep call before after)
    (closes : ClosesItself call before) : ClosesItself call after := by
  cases closes with
  | finished task close =>
      exact
        .finished (closeTask_eq_done taken locked task)
          (close_eq_finished taken once close)
  | closing closing =>
      cases step with
      | kept task => exact .closing (task.trans closing)
      | waits notClosing => exact (notClosing closing).elim
      | spared notClosing => exact (notClosing closing).elim
      | closes task => exact .closing task
      | finished _ task close => exact .finished task close

/-- The close task of the call has nothing to close. -/
structure LeavesClose (call : Nat) (state : StreamingState) : Prop where
  notClosing : state.closeTask call ≠ .closing
  succeeds :
    ∀ result, state.closeTask call = .done result → result = .ok ()

theorem LeavesClose.step {before after : StreamingState} {call : Nat}
    (step : CloseTaskStep call before after)
    (notClosing : after.closeTask call ≠ .closing)
    (leaves : LeavesClose call before) : LeavesClose call after := by
  refine ⟨notClosing, ?_⟩
  intro result done
  cases step with
  | kept task => exact leaves.succeeds result (task.symm.trans done)
  | waits _ task =>
      rcases task with task | task <;> cases task.symm.trans done
  | spared _ task =>
      cases task.symm.trans done
      exact Eq.refl _
  | closes task => exact (notClosing task).elim
  | finished closing => exact (leaves.notClosing closing).elim

/-! ## Runs of one call -/

/-- What holds from the shield of a call on, up to a second cancellation. -/
structure Tracked (call : Nat) (streamed : Outcome)
    (actions : List StreamingAction) (state : StreamingState) : Prop where
  locked : state.Locked
  once : state.AtMostOnce
  closing :
    actions.count (.cancel call) ≤ 1 →
      Closing call streamed state (decide (.cancel call ∈ actions))

/-- A call which has not been cancelled does not await its close task. -/
theorem Tracked.spared {before : StreamingState} {action : StreamingAction}
    {actions : List StreamingAction} {call : Nat} {streamed : Outcome}
    (tracked : Tracked call streamed actions before)
    (few : (actions ++ [action]).count (.cancel call) ≤ 1) :
    ∀ other, action = .cancel call →
      before.serving call ≠ .awaitsClose other := by
  rintro other rfl waits
  rw [List.count_append, List.count_singleton_self] at few
  have none : .cancel call ∉ actions :=
    List.count_eq_zero.mp (by omega)
  have closing := tracked.closing (by omega)
  rw [decide_eq_false none] at closing
  cases closing with
  | shielded serving => exact nomatch waits.symm.trans serving
  | ended _ serving => exact nomatch waits.symm.trans serving

theorem Tracked.step {before after : StreamingState}
    {action : StreamingAction} {actions : List StreamingAction}
    (taken :
      StreamingStep response isCoroutineFunction before action after)
    {call : Nat} {streamed : Outcome}
    (tracked : Tracked call streamed actions before) :
    Tracked call streamed (actions ++ [action]) after where
  locked := .step taken tracked.locked
  once := .step taken tracked.once
  closing := by
    intro few
    rw [List.count_append] at few
    have closing := tracked.closing (by omega)
    rcases closing.step taken tracked.locked with
      ⟨different, next⟩ | ⟨rfl, next⟩
    · have same :
          decide (.cancel call ∈ actions ++ [action]) =
            decide (.cancel call ∈ actions) := by
        simp [Ne.symm different]
      rw [same]
      exact next
    · have none : .cancel call ∉ actions := by
        rw [List.count_singleton_self] at few
        exact List.count_eq_zero.mp (by omega)
      have now :
          decide (.cancel call ∈ actions ++ [.cancel call]) = true := by
        simp
      rw [now]
      exact next (decide_eq_false none)

end StreamingState

/-! ## The outcome -/

/--
How a call is to end: with the exception of the streaming, where a failure of
the close is only a note, else with a cancellation, else as the close does.
-/
structure EndsAs (streamed : Outcome) (cancelled : Prop)
    (closed outcome : Outcome) : Prop where
  keepsError :
    ∀ error, streamed = .error error →
      ∃ notes : List String,
        outcome = .error { error with notes := error.notes ++ notes } ∧
          notes.length ≤ 1 ∧ (closed ≠ .ok () → notes ≠ [])
  keepsCancellation :
    streamed = .ok () → cancelled → outcome = .error .cancelledError
  keepsClose : streamed = .ok () → ¬cancelled → outcome = closed

/--
The close of a call whose streaming has returned replaces a cancellation by
its own exception, or loses its own cancellation in the shield.
-/
def CloseReplaces (streamed : Outcome) (cancelled : Prop)
    (closed : Outcome) : Prop :=
  streamed = .ok () ∧
    ∃ failure, closed = .error failure ∧
      (cancelled ∧ failure.cls ≠ .cancelledError ∨
        ¬cancelled ∧ failure.cls = .cancelledError ∧
          failure ≠ .cancelledError)

theorem closePreservingError_eq (error : PyExc) (closed : Outcome) :
    ∃ notes : List String,
      closePreservingError error closed =
          { error with notes := error.notes ++ notes } ∧
        notes.length ≤ 1 ∧ (closed ≠ .ok () → notes ≠ []) := by
  cases closed with
  | ok value =>
      refine ⟨[], ?_, Nat.zero_le 1, fun failed => (failed rfl).elim⟩
      rcases error with ⟨cls, message, notes, members⟩
      rw [List.append_nil]
      rfl
  | error failure => exact ⟨[_], rfl, le_rfl, by simp⟩

theorem closeOutcome_ne_ok {cancelled : Bool} {closed : Outcome}
    (failed : closed ≠ .ok ()) :
    StreamingState.closeOutcome cancelled closed ≠ .ok () := by
  cases closed with
  | ok value => exact (failed rfl).elim
  | error failure =>
      rw [StreamingState.closeOutcome, afterCancellation,
        closeWithCancellationProtection]
      split
      · split <;> nofun
      · split
        · rw [afterCancellation]
          split <;> nofun
        · nofun

/-- After a cancellation, only a cancelled close lets it through. -/
theorem closeOutcome_cancelled_iff {failure : PyExc} :
    StreamingState.closeOutcome true (.error failure) =
        .error .cancelledError ↔
      failure.cls = .cancelledError := by
  rw [StreamingState.closeOutcome, if_pos rfl, afterCancellation]
  constructor
  · intro same
    by_contra other
    rw [if_neg other] at same
    cases same
    exact other rfl
  · intro cancelled
    rw [if_pos cancelled]

/-- Without one, a failure is raised as it is unless it is a cancellation. -/
theorem closeOutcome_failed_iff {failure : PyExc} :
    StreamingState.closeOutcome false (.error failure) = .error failure ↔
      (failure.cls = .cancelledError → failure = .cancelledError) := by
  rw [StreamingState.closeOutcome, if_neg Bool.false_ne_true,
    closeWithCancellationProtection]
  by_cases cancelled : failure.cls = .cancelledError
  · rw [if_pos cancelled, afterCancellation, if_pos cancelled,
      Except.error.injEq]
    exact ⟨fun same _ => same.symm, fun same => (same cancelled).symm⟩
  · rw [if_neg cancelled]
    exact iff_of_true rfl fun other => (cancelled other).elim

theorem endsAs_ok_iff {cancelled : Prop} {closed outcome : Outcome} :
    EndsAs (.ok ()) cancelled closed outcome ↔
      (cancelled → outcome = .error .cancelledError) ∧
        (¬cancelled → outcome = closed) := by
  constructor
  · intro ends
    exact ⟨ends.keepsCancellation rfl, ends.keepsClose rfl⟩
  · rintro ⟨cancellation, close⟩
    exact ⟨nofun, fun _ => cancellation, fun _ => close⟩

theorem closeReplaces_ok_error_iff {cancelled : Prop} {failure : PyExc} :
    CloseReplaces (.ok ()) cancelled (.error failure) ↔
      cancelled ∧ failure.cls ≠ .cancelledError ∨
        ¬cancelled ∧ failure.cls = .cancelledError ∧
          failure ≠ .cancelledError := by
  constructor
  · rintro ⟨-, _, ⟨⟩, replaces⟩
    exact replaces
  · exact fun replaces => ⟨rfl, failure, rfl, replaces⟩

/-- The outcome of the code is the right one unless the close replaces it. -/
theorem endsAs_callOutcome_iff {streamed : Outcome} {cancelled : Prop}
    [Decidable cancelled] {closed : Outcome} :
    EndsAs streamed cancelled closed
        (callOutcome streamed
          (StreamingState.closeOutcome (decide cancelled) closed)) ↔
      ¬CloseReplaces streamed cancelled closed := by
  cases streamed with
  | error error =>
      apply iff_of_true
      · refine ⟨?_, nofun, nofun⟩
        rintro _ ⟨⟩
        rcases
          closePreservingError_eq error
            (StreamingState.closeOutcome (decide cancelled) closed) with
          ⟨notes, kept, short, noted⟩
        refine ⟨notes, congrArg Except.error kept, short, ?_⟩
        exact fun failed => noted (closeOutcome_ne_ok failed)
      · rintro ⟨⟨⟩, -⟩
  | ok value =>
      rw [callOutcome, endsAs_ok_iff]
      cases closed with
      | ok value =>
          apply iff_of_true
          · by_cases cancel : cancelled
            · rw [decide_eq_true cancel]
              exact ⟨fun _ => rfl, fun other => (other cancel).elim⟩
            · rw [decide_eq_false cancel]
              exact ⟨fun other => (cancel other).elim, fun _ => rfl⟩
          · rintro ⟨-, failure, ⟨⟩, -⟩
      | error failure =>
          rw [closeReplaces_ok_error_iff]
          by_cases cancel : cancelled
          · rw [decide_eq_true cancel, closeOutcome_cancelled_iff]
            simp [cancel]
          · rw [decide_eq_false cancel, closeOutcome_failed_iff]
            simp [cancel]

/-- In a state of the run, the close task of the call runs the callable. -/
def ManagedStreamingResponse.ClosesDuring
    (response : ManagedStreamingResponse)
    (isCoroutineFunction : Closer → Bool) (call : Nat) :
    StreamingState → List StreamingAction → StreamingState → Prop :=
  Passes (StreamingStep response isCoroutineFunction)
    fun state => state.closeTask call = .closing

section Calls

variable {response : ManagedStreamingResponse}
  {isCoroutineFunction : Closer → Bool} {call : Nat}
  {streamed closed : Outcome} {actions : List StreamingAction}
  {start ended : StreamingState}

/-- A call which has run the close callable has its outcome. -/
theorem finished_of_closesDuring
    (tracked : StreamingState.Tracked call streamed [] start)
    (closes :
      response.ClosesDuring isCoroutineFunction call start actions ended)
    (once : actions.count (.cancel call) ≤ 1)
    (done : ended.closeTask call = .done closed) :
    ended.close = .finished closed := by
  have itself :
      actions.count (.cancel call) ≤ 1 →
        StreamingState.ClosesItself call ended := by
    apply Passes.invariant closes tracked
    · exact fun _ _ _ _ taken follows => follows.step taken
    · exact fun _ _ _ closing _ => .closing closing
    · intro earlier before action after taken follows itself few
      have spared := follows.spared few
      rw [List.count_append] at few
      exact
        (itself (by omega)).step taken follows.locked follows.once
          (StreamingState.closeTaskStep taken follows.locked spared)
  cases itself once with
  | closing closing => cases closing.symm.trans done
  | finished result finished =>
      cases result.symm.trans done
      exact finished

/-- A call which has not run the close callable has nothing to raise. -/
theorem ok_of_not_closesDuring
    (tracked : StreamingState.Tracked call streamed [] start)
    (scheduled : start.closeTask call = .scheduled)
    (run :
      Run (StreamingStep response isCoroutineFunction) start actions ended)
    (avoids :
      ¬response.ClosesDuring isCoroutineFunction call start actions ended)
    (once : actions.count (.cancel call) ≤ 1)
    (done : ended.closeTask call = .done closed) : closed = .ok () := by
  have leaves :
      StreamingState.Tracked call streamed actions ended ∧
        (actions.count (.cancel call) ≤ 1 →
          StreamingState.LeavesClose call ended) := by
    apply Run.invariant_of_not_passes run avoids
    · refine ⟨tracked, fun _ => ?_⟩
      exact ⟨by simp [scheduled], by simp [scheduled]⟩
    · rintro earlier before action after taken notClosing ⟨follows, leaves⟩
      refine ⟨follows.step taken, fun few => ?_⟩
      have spared := follows.spared few
      rw [List.count_append] at few
      exact
        (leaves (by omega)).step
          (StreamingState.closeTaskStep taken follows.locked spared)
          notClosing
  exact (leaves.2 once).succeeds closed done

end Calls

/--
In every run of any number of calls, a call which is cancelled at most once
after its streaming has ended ends as it is to end, unless the close replaces
a cancellation.  Its close task ends as the close callable does, if it has run
it, and else without a failure.
-/
theorem ManagedStreamingResponse.endsAs_iff
    {response : ManagedStreamingResponse}
    {isCoroutineFunction : Closer → Bool} {call : Nat}
    {streamed outcome : Outcome} {earlier actions : List StreamingAction}
    {before ended : StreamingState}
    (reached :
      Run (StreamingStep response isCoroutineFunction) .initial earlier
        before)
    (streaming : before.serving call = .streaming)
    (run :
      Run (StreamingStep response isCoroutineFunction)
        (before.shieldClose call streamed) actions ended)
    (once : actions.count (.cancel call) ≤ 1)
    (returned : ended.serving call = .done outcome) :
    ∃ closed,
      ended.closeTask call = .done closed ∧
        (response.ClosesDuring isCoroutineFunction call
            (before.shieldClose call streamed) actions ended →
          ended.close = .finished closed) ∧
        (¬response.ClosesDuring isCoroutineFunction call
            (before.shieldClose call streamed) actions ended →
          closed = .ok ()) ∧
        (EndsAs streamed (.cancel call ∈ actions) closed outcome ↔
          ¬CloseReplaces streamed (.cancel call ∈ actions) closed) := by
  have shields :
      Run (StreamingStep response isCoroutineFunction) .initial
        (earlier ++ [.streamed call]) (before.shieldClose call streamed) :=
    reached.snoc (.streamed streamed streaming)
  have locked : (before.shieldClose call streamed).Locked :=
    shields.invariant StreamingState.locked_initial
      fun _ _ _ taken => .step taken
  have invokedOnce : (before.shieldClose call streamed).AtMostOnce :=
    shields.invariant ⟨fun _ => rfl, fun _ => rfl, Nat.zero_le 1⟩
      fun _ _ _ taken => .step taken
  have begins :
      StreamingState.Tracked call streamed []
        (before.shieldClose call streamed) :=
    ⟨locked, invokedOnce, fun _ => .shielded (Function.update_self ..)⟩
  have tracked : StreamingState.Tracked call streamed actions ended :=
    run.labelled_invariant begins fun _ _ _ _ taken => .step taken
  have closing := tracked.closing once
  generalize decided :
    decide (.cancel call ∈ actions) = cancelled at closing
  cases closing with
  | shielded serving => exact nomatch returned.symm.trans serving
  | cancelled serving => exact nomatch returned.symm.trans serving
  | @ended _ closed done serving =>
      subst decided
      cases returned.symm.trans serving
      refine ⟨closed, done, ?_, ?_, endsAs_callOutcome_iff⟩
      · exact fun closes =>
          finished_of_closesDuring begins closes once done
      · exact fun avoids =>
          ok_of_not_closesDuring begins (Function.update_self ..) run avoids
            once done

/-! ## A cancellation during a close -/

/-- The response has begun to stream. -/
def streamingBegun : StreamingState :=
  StreamingState.initial.setServing 0 .streaming

/-- The call is cancelled while its close runs, which then ends. -/
def closedCancelled (closed : Outcome) : StreamingState :=
  ((closeBegun.cancelShield 0 (.ok ())).finishClose closed).finish 0
    (.ok ()) (afterCancellation closed)

theorem run_streamingBegun :
    Run (StreamingStep asyncResponse fun _ => true) .initial [.begin 0]
      streamingBegun :=
  Run.nil.snoc (.begin rfl)

theorem run_closeBegun :
    Run (StreamingStep asyncResponse fun _ => true)
      (streamingBegun.shieldClose 0 (.ok ())) [.runCloseTask 0] closeBegun :=
  Run.nil.snoc (.acquireLock (.inl rfl) rfl)

theorem run_cancelled (closed : Outcome) :
    Run (StreamingStep asyncResponse fun _ => true) closeBegun
      [.cancel 0, .finishClose, .resume 0] (closedCancelled closed) :=
  ((Run.nil.snoc (.cancelShield rfl started_closeBegun)).snoc
    (.finishClose closed (.inr rfl))).snoc (.resumeAwait rfl rfl)

theorem run_closedCancelled (closed : Outcome) :
    Run (StreamingStep asyncResponse fun _ => true)
      (streamingBegun.shieldClose 0 (.ok ()))
      [.runCloseTask 0, .cancel 0, .finishClose, .resume 0]
      (closedCancelled closed) :=
  run_closeBegun.append (run_cancelled closed)

theorem asyncResponse_endsAs :
    ∃ closed,
      (closedCancelled (.ok ())).closeTask 0 = .done closed ∧
        (closedCancelled (.ok ())).close = .finished closed ∧
        EndsAs (.ok ()) True closed (.error .cancelledError) := by
  rcases
    ManagedStreamingResponse.endsAs_iff run_streamingBegun rfl
      (run_closedCancelled (.ok ())) (by decide) rfl with
    ⟨closed, done, finished, -, ends⟩
  have closes :
      asyncResponse.ClosesDuring (fun _ => true) 0
        (streamingBegun.shieldClose 0 (.ok ()))
        [.runCloseTask 0, .cancel 0, .finishClose, .resume 0]
        (closedCancelled (.ok ())) :=
    ⟨_, _, closeBegun, rfl, run_closeBegun, rfl, run_cancelled (.ok ())⟩
  refine ⟨closed, done, finished closes, ?_⟩
  cases done
  have cancelled :
      (StreamingAction.cancel 0 ∈
          [.runCloseTask 0, .cancel 0, .finishClose, .resume 0]) =
        True :=
    eq_true (by decide)
  rw [cancelled] at ends
  apply ends.mpr
  rintro ⟨-, failure, ⟨⟩, -⟩

/-- A close which fails replaces the cancellation. -/
theorem not_forall_endsAs :
    ¬∀ (response : ManagedStreamingResponse)
        (isCoroutineFunction : Closer → Bool) (call : Nat)
        (streamed closed outcome : Outcome)
        (earlier actions : List StreamingAction)
        (before ended : StreamingState),
      Run (StreamingStep response isCoroutineFunction) .initial earlier
        before →
      before.serving call = .streaming →
      Run (StreamingStep response isCoroutineFunction)
        (before.shieldClose call streamed) actions ended →
      actions.count (.cancel call) ≤ 1 →
      ended.serving call = .done outcome →
      ended.closeTask call = .done closed →
      EndsAs streamed (.cancel call ∈ actions) closed outcome := by
  intro ends
  have keeps :=
    (ends asyncResponse (fun _ => true) 0 (.ok ())
      (.error (.valueError "close failed")) _ _ _ _ _ run_streamingBegun rfl
      (run_closedCancelled (.error (.valueError "close failed")))
      (by decide) rfl rfl).keepsCancellation rfl (by decide)
  have failed :
      afterCancellation (.error (.valueError "close failed")) =
        .error (.valueError "close failed") := rfl
  cases failed.symm.trans keeps

end FastapiCore
