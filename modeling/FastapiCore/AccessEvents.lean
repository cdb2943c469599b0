import FastapiCore.HttpMiddleware

/-!
# How often the access log writes

The access log notices the end of a request by a final body message or by an
exception.  Around an arbitrary application, which may send anything and
whose messages may be refused, it writes once if it notices one of the two,
and never twice.
-/

namespace FastapiCore

open Library

/-! ## Single steps -/

namespace RequestState

variable (state : RequestState) (message : Message)

/-- The server has refused a message. -/
def refused : RequestState :=
  { state with attempted := state.attempted ++ [message] }

/-- The server has accepted a message. -/
def accepted : RequestState :=
  { state with
    attempted := state.attempted ++ [message]
    delivered := state.delivered ++ [message] }

/-- The access log has seen a message. -/
def noted : RequestState :=
  { state with statusCode := message.statusCode state.statusCode }

/-- The state after `write_log`. -/
def written (request : Request) (logHealth failed : Bool) :
    RequestState :=
  if state.logged then state
  else
    { state with
      logged := true
      accessEvents :=
        if request.isExcluded logHealth then state.accessEvents
        else state.accessEvents ++ [request.accessEvent failed state] }

end RequestState

theorem run_serverSend
    (transmit : List Message → Message → Except PyExc Unit)
    (message : Message) (state : RequestState) :
    (serverSend transmit message).run state =
      match transmit state.attempted message with
      | .ok _ => (.ok (), state.accepted message)
      | .error exception => (.error exception, state.refused message) := by
  simp only [serverSend, Effect.run_read_bind, Effect.run_update_bind]
  rw [Effect.run_bind, Effect.run_ofExcept]
  cases transmit state.attempted message <;> rfl

section AccessLog

variable (request : Request) (logHealth : Bool)

theorem run_writeLog (failed : Bool) (state : RequestState) :
    (writeLog request logHealth failed).run state =
      (.ok (), state.written request logHealth failed) := by
  rw [writeLog, Effect.run_read_bind, RequestState.written]
  split
  · rfl
  · rw [Effect.run_update_bind]
    split <;> rfl

/--
What `send_with_access_log` does with a message, where an outer middleware
changes the message.
-/
theorem run_sendWithAccessLog (change : Message → Message)
    (transmit : List Message → Message → Except PyExc Unit)
    (message : Message) (state : RequestState) :
    (sendWithAccessLog request logHealth
        (fun message => serverSend transmit (change message))
        message).run state =
      match transmit state.attempted (change message) with
      | .ok _ =>
          (.ok (),
            if message.isFinalBody then
              ((state.noted message).accepted (change message)).written
                request logHealth false
            else (state.noted message).accepted (change message))
      | .error exception =>
          (.error exception,
            (state.noted message).refused (change message)) := by
  rw [sendWithAccessLog, Effect.run_update_bind, Effect.run_bind]
  simp only [run_serverSend]
  cases transmit state.attempted (change message) with
  | error exception => rfl
  | ok _ =>
      simp only
      split
      · exact run_writeLog request logHealth false _
      · rfl

/-- What the middleware does after the application has ended. -/
theorem run_accessLogMiddleware (app : AsgiApp) (send : Send)
    (state : RequestState) :
    (accessLogMiddleware request logHealth app send).run state =
      match
        (app (sendWithAccessLog request logHealth send)).run
          { state with statusCode := 500, logged := false } with
      | (.ok _, later) => (.ok (), later)
      | (.error exception, later) =>
          (.error exception, later.written request logHealth true) := by
  rw [accessLogMiddleware, Effect.run_update_bind, Effect.run_tryExcept]
  rcases (app _).run _ with ⟨outcome, later⟩
  cases outcome with
  | ok _ => rfl
  | error exception =>
      simp only [Effect.run_bind, run_writeLog, Effect.run_raise]

/-! ## The invariant of the flag -/

/-- The number of events, which follows from the flag. -/
def EventsOf (state : RequestState) : Prop :=
  state.accessEvents.length =
    if state.logged = true ∧ request.isExcluded logHealth = false then 1
    else 0

/-- The flag says whether a final body has been sent. -/
structure LoggedFinalBody (state : RequestState) : Prop where
  logged : state.logged = state.delivered.any Message.isFinalBody
  events : EventsOf request logHealth state

variable {request} {logHealth} {state : RequestState}

theorem logged_written (failed : Bool) :
    (state.written request logHealth failed).logged = true := by
  rw [RequestState.written]
  split
  · next logged => exact logged
  · rfl

theorem delivered_written (failed : Bool) :
    (state.written request logHealth failed).delivered =
      state.delivered := by
  rw [RequestState.written]
  split <;> rfl

theorem EventsOf.written (events : EventsOf request logHealth state)
    (failed : Bool) :
    EventsOf request logHealth
      (state.written request logHealth failed) := by
  rw [RequestState.written]
  split
  · exact events
  · next fresh =>
      have empty : state.accessEvents = [] := by
        simpa [EventsOf, fresh] using events
      cases excluded : request.isExcluded logHealth <;>
        simp [EventsOf, excluded, empty]

/-- Sending a message keeps the invariant, also when it is refused. -/
theorem LoggedFinalBody.send
    {transmit : List Message → Message → Except PyExc Unit}
    (message : Message) (holds : LoggedFinalBody request logHealth state) :
    LoggedFinalBody request logHealth
      ((sendWithAccessLog request logHealth (serverSend transmit)
        message).run state).2 := by
  have ran :=
    run_sendWithAccessLog request logHealth id transmit message state
  simp only [id] at ran
  rw [ran]
  cases transmit state.attempted message with
  | error exception => exact ⟨holds.logged, holds.events⟩
  | ok _ =>
      have events :
          EventsOf request logHealth
            ((state.noted message).accepted message) :=
        holds.events
      cases final : message.isFinalBody with
      | false =>
          refine ⟨?_, events⟩
          show
            state.logged =
              (state.delivered ++ [message]).any Message.isFinalBody
          simp [final, holds.logged]
      | true =>
          refine ⟨?_, events.written false⟩
          simp only [if_true, logged_written, delivered_written]
          show
            true = (state.delivered ++ [message]).any Message.isFinalBody
          simp [final]

end AccessLog

/-! ## Arbitrary applications -/

section Arbitrary

variable (program : Interaction Message PyExc)
  (transmit : List Message → Message → Except PyExc Unit)

/-- The application ends with an exception or sends a final body. -/
def Completes : Prop :=
  (∃ exception,
      ((program.app (serverSend transmit)).run .initial).1 =
        .error exception) ∨
    ∃ message ∈ ((program.app (serverSend transmit)).run .initial).2.delivered,
      message.isFinalBody = true

/-- The states of a request with and without the access log. -/
def SameMessages (state other : RequestState) : Prop :=
  state.attempted = other.attempted ∧ state.delivered = other.delivered

/-- The access log passes on all messages, and what `send` raises. -/
theorem simulates_sendWithAccessLog (request : Request)
    (logHealth : Bool) (message : Message) :
    Effect.Simulates SameMessages
      (sendWithAccessLog request logHealth (serverSend transmit) message)
      (serverSend transmit message) := by
  rintro state other ⟨attempted, delivered⟩
  have ran :=
    run_sendWithAccessLog request logHealth id transmit message state
  simp only [id, attempted] at ran
  rw [ran, run_serverSend]
  cases transmit other.attempted message with
  | error exception =>
      exact ⟨rfl, congrArg (· ++ [message]) attempted, delivered⟩
  | ok _ =>
      refine ⟨rfl, ?_⟩
      have same :
          SameMessages ((state.noted message).accepted message)
            (other.accepted message) :=
        ⟨congrArg (· ++ [message]) attempted,
          congrArg (· ++ [message]) delivered⟩
      simp only
      split
      · simp only [RequestState.written]
        split <;> exact same
      · exact same

variable (request : Request) (logHealth : Bool)

theorem loggedFinalBody_interpret :
    LoggedFinalBody request logHealth
      ((program.interpret
        (sendWithAccessLog request logHealth
          (serverSend transmit))).run .initial).2 := by
  have start : LoggedFinalBody request logHealth .initial := ⟨rfl, rfl⟩
  have sends (message : Message) :=
    Effect.triple_iff_forall_run.mpr fun _ holds =>
      @LoggedFinalBody.send request logHealth _ transmit message holds
  exact
    Effect.triple_iff_forall_run.mp
      (Interaction.triple_interpret sends program)
      RequestState.initial start

/-- What the middleware does with an arbitrary application. -/
theorem run_accessLogMiddleware_program :
    (accessLogMiddleware request logHealth program.app
        (serverSend transmit)).run .initial =
      match
        (program.interpret
          (sendWithAccessLog request logHealth
            (serverSend transmit))).run .initial with
      | (.ok _, later) => (.ok (), later)
      | (.error exception, later) =>
          (.error exception, later.written request logHealth true) :=
  run_accessLogMiddleware request logHealth program.app _ .initial

/-- No request has two events. -/
theorem accessEvents_length_le_one :
    ((accessLogMiddleware request logHealth program.app
        (serverSend transmit)).run
      .initial).2.accessEvents.length ≤ 1 := by
  have atMostOne {state : RequestState}
      (events : EventsOf request logHealth state) :
      state.accessEvents.length ≤ 1 := by
    rw [events]
    split
    · exact Nat.le_refl 1
    · exact Nat.zero_le 1
  have invariant :=
    loggedFinalBody_interpret program transmit request logHealth
  rw [run_accessLogMiddleware_program]
  revert invariant
  rcases (program.interpret (sendWithAccessLog _ _ _)).run .initial with
    ⟨outcome, last⟩
  rintro ⟨-, events⟩
  cases outcome with
  | error exception => exact atMostOne (events.written true)
  | ok _ => exact atMostOne events

variable {request} {logHealth}

/--
The access log of a request which it does not leave out has exactly one event
if the application completes.
-/
theorem accessLog_logsOnce_iff
    (included : request.isExcluded logHealth = false) :
    ((accessLogMiddleware request logHealth program.app
          (serverSend transmit)).run .initial).2.accessEvents.length = 1 ↔
      Completes program transmit := by
  have invariant :=
    loggedFinalBody_interpret program transmit request logHealth
  have sameStart : SameMessages .initial .initial := ⟨rfl, rfl⟩
  have same :=
    Interaction.simulates_interpret
      (simulates_sendWithAccessLog transmit request logHealth) program
      .initial .initial sameStart
  rw [run_accessLogMiddleware_program, Completes, Interaction.app, ← same.1,
    ← same.2.2]
  revert invariant
  rcases (program.interpret (sendWithAccessLog _ _ _)).run .initial with
    ⟨outcome, last⟩
  rintro ⟨logged, events⟩
  cases outcome with
  | error exception =>
      have written := events.written true
      simp only [EventsOf, logged_written, included, and_self,
        if_true] at written
      simp [written]
  | ok _ =>
      have final :
          last.logged = last.delivered.any Message.isFinalBody :=
        logged
      simp only [EventsOf, included, and_true, final] at events
      simp [events]

end Arbitrary

/-! ## A stream and its client -/

/-- A request to a route for items. -/
def itemsGet : Request where
  method := "GET"
  path := "/items"
  headers := []
  route := some "/items"
  fresh := zeroId

/-- A response of one chunk, with or without the final empty body. -/
def streamed (final : Bool) : Interaction Message PyExc :=
  .call (.start 200 []) fun _ =>
    .call (.later (.body (.bytes [1]) true)) fun _ =>
      if final then .call (.later (.body (.bytes []) false)) .done
      else .done (.ok ())

theorem accessLog_logsOnce_streamed :
    ((accessLogMiddleware itemsGet false (streamed true).app
        (serverSend fun _ _ => .ok ())).run
      .initial).2.accessEvents.length = 1 := by
  apply (accessLog_logsOnce_iff (streamed true) _ rfl).mpr
  exact
    Or.inr ⟨_, List.Mem.tail _ (List.Mem.tail _ (List.Mem.head _)), rfl⟩

/-- A stream which is cut off ends without a final body. -/
theorem not_forall_logsOnce :
    ¬∀ (program : Interaction Message PyExc)
        (transmit : List Message → Message → Except PyExc Unit)
        (request : Request) (logHealth : Bool),
      request.isExcluded logHealth = false →
      ((accessLogMiddleware request logHealth program.app
          (serverSend transmit)).run
        .initial).2.accessEvents.length = 1 := by
  intro logsOnce
  have once :=
    logsOnce (streamed false) (fun _ _ => .ok ()) itemsGet false rfl
  revert once
  decide

end FastapiCore
