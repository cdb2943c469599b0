import FastapiCore.AccessEvents

/-!
# Which response leaves the application

A request is answered by the reply of the inner application or, if that ends
with an `Exception` before it has sent a start, by the response of the
handler for unhandled errors, which passes no middleware.
-/

namespace FastapiCore

open Library

/-! ## Start messages -/

/-- The start messages which were attempted, and those which were accepted. -/
def RequestState.starts (state : RequestState) :
    List Message × List Message :=
  (state.attempted.filter Message.isStart,
    state.delivered.filter Message.isStart)

theorem responseStarted_iff {state : RequestState} :
    state.responseStarted = true ↔ state.starts.1 ≠ [] := by
  simp [RequestState.responseStarted, RequestState.starts]

section Starts

variable {transmit : List Message → Message → Except PyExc Unit}

theorem preserves_starts_later (message : BodyMessage) :
    Effect.Preserves RequestState.starts
      (serverSend transmit (.later message)) := by
  intro state
  rw [run_serverSend]
  cases transmit state.attempted (.later message) <;>
    simp [RequestState.starts, RequestState.refused,
      RequestState.accepted, Message.isStart]

theorem preserves_starts_writeLog (request : Request)
    (logHealth failed : Bool) :
    Effect.Preserves RequestState.starts
      (writeLog request logHealth failed) := by
  intro state
  rw [run_writeLog, RequestState.written]
  split <;> rfl

/-- A stream without starts leaves the starts as they are. -/
theorem preserves_starts_stream {send : Send}
    (later :
      ∀ message,
        Effect.Preserves RequestState.starts (send (.later message)))
    (stream : Interaction BodyMessage PyExc) :
    Effect.Preserves RequestState.starts
      (stream.interpret fun message => send (.later message)) :=
  Interaction.preserves_interpret later stream

/-- The accepted part of a list of start messages. -/
def acceptedStarts (transmit : List Message → Message → Except PyExc Unit)
    (starts : List Message) : List Message :=
  starts.filter fun message => (transmit [] message).toBool

/-- The starts of a reply to a server which has received nothing. -/
theorem starts_serverSend (message : Message) (state : RequestState)
    (start : message.isStart = true) (first : state.attempted = [])
    (nothing : state.delivered = []) :
    ((serverSend transmit message).run state).2.starts =
      ([message], acceptedStarts transmit [message]) := by
  rw [run_serverSend, first]
  cases accepted : transmit [] message <;>
    simp [RequestState.starts, RequestState.refused,
      RequestState.accepted, acceptedStarts, start, first, nothing,
      accepted, Except.toBool]

/-- A reply has the start which it sends. -/
theorem starts_replyApp {send : Send}
    (later :
      ∀ message,
        Effect.Preserves RequestState.starts (send (.later message)))
    (reply : Reply) (state : RequestState) :
    ((reply.app send).run state).2.starts =
      match reply with
      | .ends _ => state.starts
      | .responds status headers _ =>
          ((send (.start status headers)).run state).2.starts := by
  cases reply with
  | ends outcome => rfl
  | responds status headers next =>
      exact
        Effect.Preserves.run_bind
          (fun outcome => preserves_starts_stream later (next outcome))
          state

end Starts

/-! ## Inside the middleware -/

section Inside

variable (settings : AccessLogSettings) (request : Request)
  (transmit : List Message → Message → Except PyExc Unit)

/-- The `send` of `send_with_correlation_id`, towards the server. -/
def correlatedSend : Send :=
  fun message =>
    serverSend transmit (message.withCorrelationId request.chosenId)

/-- The `send` inside of the added middleware. -/
def innerSend : Send :=
  if settings.accessLogEnabled then
    sendWithAccessLog request settings.accessLogHealthEnabled
      (correlatedSend request transmit)
  else correlatedSend request transmit

/-- `send_with_access_log` changes what its parts change. -/
theorem preserves_innerSend {τ : Type} {view : RequestState → τ}
    {message : Message}
    (noted : ∀ state, view (state.noted message) = view state)
    (writes :
      Effect.Preserves view
        (writeLog request settings.accessLogHealthEnabled false))
    (sends :
      Effect.Preserves view
        (serverSend transmit (message.withCorrelationId request.chosenId))) :
    Effect.Preserves view (innerSend settings request transmit message) := by
  rw [innerSend]
  split
  · have update :
        Effect.Preserves view
          (Effect.update fun state : RequestState =>
            { state with
              statusCode := message.statusCode state.statusCode } :
            RequestEffect Unit) :=
      Effect.Preserves.update noted
    apply Effect.Preserves.bind update
    intro _
    apply Effect.Preserves.bind sends
    intro _
    split
    · exact writes
    · exact Effect.Preserves.pure ()
  · exact sends

theorem preserves_starts_innerSend (message : BodyMessage) :
    Effect.Preserves RequestState.starts
      (innerSend settings request transmit (.later message)) :=
  preserves_innerSend settings request transmit (fun _ => rfl)
    (preserves_starts_writeLog request _ false)
    (preserves_starts_later message)

/-- The start message with the correlation ID of the request. -/
def Request.correlatedStart (status : Nat) (headers : List Header) :
    Message :=
  .start status
    (setHeader headers correlationIdHeader request.chosenId)

theorem starts_innerSend (status : Nat) (headers : List Header)
    (state : RequestState) (first : state.attempted = [])
    (nothing : state.delivered = []) :
    ((innerSend settings request transmit
        (.start status headers)).run state).2.starts =
      ([request.correlatedStart status headers],
        acceptedStarts transmit
          [request.correlatedStart status headers]) := by
  have sent (before : RequestState) (first : before.attempted = [])
      (nothing : before.delivered = []) :=
    @starts_serverSend transmit (request.correlatedStart status headers)
      before rfl first nothing
  rw [innerSend]
  split
  · rw [← sent (state.noted (.start status headers)) first nothing]
    have rest (_ : Unit) :
        Effect.Preserves RequestState.starts
          (pure () : RequestEffect Unit) :=
      Effect.Preserves.pure ()
    exact
      Effect.Preserves.run_bind rest (state.noted (.start status headers))
  · exact sent state first nothing

/-- The state of a request which has its correlation ID. -/
def Request.correlated (request : Request) : RequestState :=
  { RequestState.initial with correlationId := some request.chosenId }

/-- Apart from the access log, a reply changes what it changes itself. -/
theorem view_addedMiddleware {τ : Type} {view : RequestState → τ}
    (writes :
      Effect.Preserves view
        (writeLog request settings.accessLogHealthEnabled true))
    (reply : Reply) :
    view
        ((addedMiddleware settings request reply.app
          (serverSend transmit)).run .initial).2 =
      view
        ((reply.app (innerSend settings request transmit)).run
          request.correlated).2 := by
  rw [addedMiddleware, correlationIdMiddleware, Effect.run_update_bind,
    innerSend]
  split
  · have handler (exception : PyExc) :
        Effect.Preserves view
          (do
            writeLog request settings.accessLogHealthEnabled true
            Effect.raise exception : RequestEffect Unit) :=
      Effect.Preserves.bind writes fun _ => Effect.Preserves.raise exception
    rw [accessLogMiddleware, Effect.run_update_bind]
    exact Effect.Preserves.run_tryExcept handler request.correlated
  · rfl

theorem starts_addedMiddleware (reply : Reply) :
    ((addedMiddleware settings request reply.app
        (serverSend transmit)).run .initial).2.starts =
      match reply with
      | .ends _ => ([], [])
      | .responds status headers _ =>
          ([request.correlatedStart status headers],
            acceptedStarts transmit
              [request.correlatedStart status headers]) := by
  rw [view_addedMiddleware settings request transmit
      (preserves_starts_writeLog request _ true),
    starts_replyApp (preserves_starts_innerSend settings request transmit)]
  cases reply with
  | ends outcome => rfl
  | responds status headers next =>
      exact
        starts_innerSend settings request transmit status headers
          request.correlated rfl rfl

/-- The state of a request whose application has sent nothing. -/
def Request.ended (outcome : Except PyExc Unit) : RequestState :=
  match outcome with
  | .ok _ => request.correlated
  | .error _ =>
      if settings.accessLogEnabled then
        request.correlated.written request
          settings.accessLogHealthEnabled true
      else request.correlated

/-- The middleware ends as an application does which sends nothing. -/
theorem run_addedMiddleware_ends (outcome : Except PyExc Unit)
    (send : Send) :
    (addedMiddleware settings request (Reply.ends outcome).app send).run
        .initial =
      (outcome, Request.ended settings request outcome) := by
  rw [addedMiddleware, correlationIdMiddleware, Effect.run_update_bind]
  cases outcome with
  | ok _ => cases settings.accessLogEnabled <;> rfl
  | error exception =>
      simp only [Request.ended]
      cases settings.accessLogEnabled with
      | false => rfl
      | true =>
          simp only [if_true, run_accessLogMiddleware]
          rfl

theorem messages_ended (outcome : Except PyExc Unit) :
    (Request.ended settings request outcome).attempted = [] ∧
      (Request.ended settings request outcome).delivered = [] ∧
        (Request.ended settings request outcome).correlationId =
          some request.chosenId := by
  cases outcome with
  | ok _ => exact ⟨rfl, rfl, rfl⟩
  | error exception =>
      simp only [Request.ended]
      split <;> exact ⟨rfl, rfl, rfl⟩

end Inside

/-! ## Outside of the middleware -/

section Outside

variable (app : ErrorApp) (settings : AccessLogSettings)
  (request : Request)
  (transmit : List Message → Message → Except PyExc Unit) (reply : Reply)

/-- The response for an exception which leaves the middleware. -/
def ErrorApp.outerReply : Option Reply :=
  match reply with
  | .ends (.error exception) =>
      if exception.cls.isException then
        (app.exceptionResponse request.withChosenId exception).toOption
      else none
  | _ => none

/-- The response is what the renderer makes of the handler's mapping. -/
theorem ErrorApp.outerReply_eq_some_iff {request : Request}
    {reply response : Reply} :
    app.outerReply request reply = some response ↔
      ∃ exception mapping,
        reply = .ends (.error exception) ∧
          exception.cls.isException = true ∧
          app.exceptionMapping request.withChosenId exception =
            .ok mapping ∧
          app.renderError request.withChosenId mapping = .ok response := by
  constructor
  · intro outer
    rcases reply with ⟨exception | _⟩ | _
    · simp only [outerReply] at outer
      split at outer
      · next isException =>
          cases answered :
            app.exceptionResponse request.withChosenId exception with
          | error raised =>
              rw [answered] at outer
              cases outer
          | ok made =>
              rw [answered] at outer
              cases outer
              rcases bind_eq_ok_iff.mp answered with
                ⟨mapping, mapped, rendered⟩
              exact
                ⟨exception, mapping, rfl, isException, mapped, rendered⟩
      · cases outer
    · cases outer
    · cases outer
  · rintro ⟨exception, mapping, rfl, isException, mapped, rendered⟩
    have answered :
        app.exceptionResponse request.withChosenId exception =
          .ok response :=
      bind_eq_ok_iff.mpr ⟨mapping, mapped, rendered⟩
    simp only [outerReply, isException, if_true, answered]
    rfl

/-- The state when a request has been served. -/
def ErrorApp.served : RequestState :=
  ((app.serve settings request reply.app (serverSend transmit)).run
    .initial).2

/-- The state after a handler and the response which it has returned. -/
def RequestState.afterHandler (send : Send) (later : RequestState) :
    Except PyExc Reply → RequestState
  | .error _ => later
  | .ok response =>
      if later.responseStarted then later
      else ((response.app send).run later).2

/-- What `ServerErrorMiddleware` does with an `Exception`. -/
theorem run_handleError {handler : RequestEffect Reply}
    {state later : RequestState} {response : Except PyExc Reply}
    (handled : handler.run state = (response, later))
    (exception : PyExc) (send : Send) :
    ((do
        let response ← handler
        let state ← Effect.read
        if state.responseStarted then pure () else response.app send
        Effect.raise exception : RequestEffect Unit).run state).2 =
      .afterHandler send later response := by
  rw [Effect.run_bind, handled]
  cases response with
  | error raised => rfl
  | ok response =>
      simp only [Effect.run_read_bind, RequestState.afterHandler]
      split
      · rfl
      · rw [Effect.run_bind]
        rcases (response.app send).run later with ⟨outcome, last⟩
        cases outcome <;> rfl

/-- An exception which leaves the middleware reaches the handler. -/
theorem exists_served_of_error {exception : PyExc} {later : RequestState}
    (ran :
      (addedMiddleware settings request reply.app
          (serverSend transmit)).run .initial =
        (.error exception, later)) :
    ∃ errorEvents,
      app.served settings request transmit reply =
        if exception.cls.isException then
          .afterHandler (serverSend transmit) { later with errorEvents }
            (app.exceptionResponse request.withChosenId exception)
        else { later with errorEvents } := by
  rw [ErrorApp.served, ErrorApp.serve, serverErrorMiddleware,
    Effect.run_tryExcept, ran]
  simp only
  split
  · rcases
      app.run_exceptionHandler request.withChosenId exception
        later with
      ⟨errorEvents, handled⟩
    exact ⟨errorEvents, run_handleError handled exception _⟩
  · exact ⟨later.errorEvents, rfl⟩

/-- The response of the handler is sent if there is one and no other. -/
theorem exists_served :
    ∃ errorEvents,
      app.served settings request transmit reply =
        match app.outerReply request reply with
        | some response =>
            ((response.app (serverSend transmit)).run
              { ((addedMiddleware settings request reply.app
                  (serverSend transmit)).run .initial).2 with
                errorEvents }).2
        | none =>
            { ((addedMiddleware settings request reply.app
                (serverSend transmit)).run .initial).2 with
              errorEvents } := by
  have starts := starts_addedMiddleware settings request transmit reply
  rcases ran :
    (addedMiddleware settings request reply.app
        (serverSend transmit)).run .initial with
    ⟨outcome, later⟩
  rw [ran] at starts
  cases outcome with
  | ok _ =>
      have nothing : app.outerReply request reply = none := by
        cases reply with
        | responds status headers next => rfl
        | ends outcome =>
            rw [run_addedMiddleware_ends] at ran
            cases ran
            rfl
      refine ⟨later.errorEvents, ?_⟩
      rw [ErrorApp.served, ErrorApp.serve, serverErrorMiddleware,
        Effect.run_tryExcept, ran, nothing]
  | error exception =>
      rcases exists_served_of_error app settings request transmit reply
          ran with
        ⟨errorEvents, served⟩
      refine ⟨errorEvents, ?_⟩
      rw [served]
      cases reply with
      | ends outcome =>
          rw [run_addedMiddleware_ends] at ran
          cases ran
          simp only [ErrorApp.outerReply]
          split
          · cases app.exceptionResponse request.withChosenId exception with
            | error raised => rfl
            | ok response =>
                -- nothing has been sent, so the response is
                apply if_neg
                exact fun started =>
                  responseStarted_iff.mp started (congrArg Prod.fst starts)
          · rfl
      | responds status headers next =>
          simp only [ErrorApp.outerReply]
          split
          · cases app.exceptionResponse request.withChosenId exception with
            | error raised => rfl
            | ok response =>
                -- the response has started, so the other one is dropped
                apply if_pos
                apply responseStarted_iff.mpr
                have some := congrArg Prod.fst starts
                exact some ▸ List.cons_ne_nil _ _
          · rfl

/-- The start message which leaves the application. -/
def ErrorApp.leavingStart : Option Message :=
  match reply with
  | .responds status headers _ =>
      some (request.correlatedStart status headers)
  | .ends _ =>
      match app.outerReply request reply with
      | some (.responds status headers _) => some (.start status headers)
      | _ => none

theorem ErrorApp.leavingStart_ends_iff {request : Request}
    {outcome : Except PyExc Unit} {status : Nat} {headers : List Header} :
    app.leavingStart request (.ends outcome) =
        some (.start status headers) ↔
      ∃ next,
        app.outerReply request (.ends outcome) =
          some (.responds status headers next) := by
  rw [ErrorApp.leavingStart]
  rcases app.outerReply request (.ends outcome) with _ | ended | _
  · simp
  · simp
  · simp

/-- Exactly the leaving start is attempted, and the server may refuse it. -/
theorem starts_served :
    (app.served settings request transmit reply).starts =
      ((app.leavingStart request reply).toList,
        acceptedStarts transmit
          (app.leavingStart request reply).toList) := by
  rcases exists_served app settings request transmit reply with
    ⟨errorEvents, served⟩
  rw [served]
  cases reply with
  | responds status headers next =>
      exact
        starts_addedMiddleware settings request transmit
          (.responds status headers next)
  | ends outcome =>
      have messages := messages_ended settings request outcome
      rw [run_addedMiddleware_ends, ErrorApp.leavingStart]
      rcases app.outerReply request (.ends outcome) with _ | response
      · simp [RequestState.starts, messages, acceptedStarts]
      · simp only [starts_replyApp preserves_starts_later]
        cases response with
        | ends outcome =>
            simp [RequestState.starts, messages, acceptedStarts]
        | responds status headers next =>
            exact
              starts_serverSend (.start status headers) _ rfl messages.1
                messages.2.1

end Outside

/-! ## The state besides the messages -/

section Unchanged

variable {τ : Type} {view : RequestState → τ}

/-- A reply leaves unchanged what its messages leave unchanged. -/
theorem preserves_replyApp {send : Send}
    (keeps : ∀ message, Effect.Preserves view (send message))
    (reply : Reply) : Effect.Preserves view (reply.app send) := by
  cases reply with
  | ends outcome => exact Effect.Preserves.ofExcept outcome
  | responds status headers next =>
      apply Effect.Preserves.bind (Effect.Preserves.attempt (keeps _))
      intro outcome
      exact
        Interaction.preserves_interpret
          (fun message => keeps (.later message)) (next outcome)

end Unchanged

section Outside

variable (app : ErrorApp) (settings : AccessLogSettings)
  (request : Request)
  (transmit : List Message → Message → Except PyExc Unit) (reply : Reply)

theorem preserves_serverSend (message : Message) :
    Effect.Preserves
      (fun state : RequestState =>
        (state.correlationId, state.accessEvents))
      (serverSend transmit message) := by
  intro state
  rw [run_serverSend]
  cases transmit state.attempted message <;> rfl

theorem preserves_correlationId_writeLog (logHealth failed : Bool) :
    Effect.Preserves RequestState.correlationId
      (writeLog request logHealth failed) := by
  intro state
  rw [run_writeLog, RequestState.written]
  split <;> rfl

/-- The state of the request has the ID which the middleware has chosen. -/
theorem correlationId_addedMiddleware :
    ((addedMiddleware settings request reply.app
        (serverSend transmit)).run .initial).2.correlationId =
      some request.chosenId := by
  rw [view_addedMiddleware settings request transmit
    (preserves_correlationId_writeLog request _ true)]
  have sends (message : Message) :
      Effect.Preserves RequestState.correlationId
        (innerSend settings request transmit message) :=
    preserves_innerSend settings request transmit (fun _ => rfl)
      (preserves_correlationId_writeLog request _ false)
      (fun state =>
        congrArg Prod.fst (preserves_serverSend transmit _ state))
  exact preserves_replyApp sends reply request.correlated

/-- The handler for unhandled errors adds no event and keeps the ID. -/
theorem unchanged_served :
    (app.served settings request transmit reply).correlationId =
        some request.chosenId ∧
      (app.served settings request transmit reply).accessEvents =
        ((addedMiddleware settings request reply.app
          (serverSend transmit)).run .initial).2.accessEvents := by
  rcases exists_served app settings request transmit reply with
    ⟨errorEvents, served⟩
  rw [served]
  have inside :=
    correlationId_addedMiddleware settings request transmit reply
  cases app.outerReply request reply with
  | none => exact ⟨inside, rfl⟩
  | some response =>
      have kept :=
        preserves_replyApp (preserves_serverSend transmit) response
          { ((addedMiddleware settings request reply.app
              (serverSend transmit)).run .initial).2 with
            errorEvents }
      exact
        ⟨(congrArg Prod.fst kept).trans inside, congrArg Prod.snd kept⟩

end Outside

end FastapiCore
