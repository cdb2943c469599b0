import FastapiCore.CorrelationHeaders

/-!
# The status in the access log

The access log reports the status of the start message which has passed it,
and 500 if an exception passes it before.  The handler for unhandled errors
runs later and further outside, and may answer with another status.
-/

namespace FastapiCore

open Library

/-! ## Inside the middleware -/

/-- All events report a status, and so will a later one. -/
structure Reports (status : Nat) (state : RequestState) : Prop where
  statusCode : state.statusCode = status
  events : ∀ event ∈ state.accessEvents, event.statusCode = status

namespace Reports

variable {status : Nat} {state : RequestState} {request : Request}
  {logHealth : Bool}

theorem written (reports : Reports status state) (failed : Bool) :
    Reports status (state.written request logHealth failed) := by
  rw [RequestState.written]
  split
  · exact reports
  · refine ⟨reports.statusCode, ?_⟩
    intro event member
    simp only at member
    split at member
    · exact reports.events event member
    · rcases List.mem_append.mp member with old | new
      · exact reports.events event old
      · cases List.mem_singleton.mp new
        exact reports.statusCode

/-- Messages after the start do not change what is reported. -/
theorem send {transmit : List Message → Message → Except PyExc Unit}
    {message : BodyMessage} (reports : Reports status state) :
    Reports status
      ((sendWithAccessLog request logHealth
        (correlatedSend request transmit) (.later message)).run
          state).2 := by
  have ran :
      (sendWithAccessLog request logHealth
          (correlatedSend request transmit) (.later message)).run state =
        _ :=
    run_sendWithAccessLog request logHealth
      (Message.withCorrelationId request.chosenId) transmit
      (.later message) state
  rw [ran]
  cases transmit state.attempted _ with
  | error exception => exact ⟨reports.statusCode, reports.events⟩
  | ok _ =>
      have accepted :
          Reports status
            ((state.noted (.later message)).accepted
              (.later message)) :=
        ⟨reports.statusCode, reports.events⟩
      simp only
      split
      · exact accepted.written false
      · exact accepted

end Reports

section Reply

variable (logHealth : Bool) (request : Request)
  (transmit : List Message → Message → Except PyExc Unit) (reply : Reply)

/-- The settings of an application with an access log. -/
def loggingSettings : AccessLogSettings where
  accessLogEnabled := true
  accessLogHealthEnabled := logHealth

/-- The status which the access log sees. -/
def Reply.status : Reply → Nat
  | .ends _ => 500
  | .responds status _ _ => status

theorem reports_start (status : Nat) (headers : List Header) :
    Reports status
      ((sendWithAccessLog request logHealth
        (correlatedSend request transmit) (.start status headers)).run
          request.correlated).2 := by
  have ran :
      (sendWithAccessLog request logHealth
          (correlatedSend request transmit) (.start status headers)).run
          request.correlated =
        _ :=
    run_sendWithAccessLog request logHealth
      (Message.withCorrelationId request.chosenId) transmit
      (.start status headers) request.correlated
  have nothing : request.correlated.accessEvents = [] := rfl
  rw [ran]
  cases transmit request.correlated.attempted _ with
  | error exception =>
      exact ⟨rfl, by simp [RequestState.refused, RequestState.noted, nothing]⟩
  | ok _ =>
      refine ⟨rfl, ?_⟩
      simp [RequestState.accepted, RequestState.noted, nothing,
        Message.isFinalBody]

theorem reports_replyApp :
    Reports reply.status
      ((reply.app (sendWithAccessLog request logHealth
        (correlatedSend request transmit))).run
          request.correlated).2 := by
  cases reply with
  | ends outcome =>
      have nothing : request.correlated.accessEvents = [] := rfl
      exact ⟨rfl, by simp [Reply.app, nothing]⟩
  | responds status headers next =>
      have later (message : BodyMessage) :=
        Effect.triple_iff_forall_run.mpr fun _ reports =>
          @Reports.send status _ request logHealth transmit message reports
      have stream (outcome : Except PyExc Unit) :=
        Effect.triple_iff_forall_run.mp
          (Interaction.triple_interpret later (next outcome))
      exact
        stream _ _
          (reports_start logHealth request transmit status headers)

/-- What the middleware leaves in the access log. -/
theorem reports_addedMiddleware :
    Reports reply.status
      ((addedMiddleware (loggingSettings logHealth) request reply.app
        (serverSend transmit)).run .initial).2 := by
  have inside := reports_replyApp logHealth request transmit reply
  show
    Reports reply.status
      ((accessLogMiddleware request logHealth reply.app
        (correlatedSend request transmit)).run request.correlated).2
  have reset :
      { request.correlated with statusCode := 500, logged := false } =
        request.correlated :=
    rfl
  rw [run_accessLogMiddleware, reset]
  revert inside
  rcases (reply.app (sendWithAccessLog _ _ _)).run request.correlated with
    ⟨outcome, last⟩
  intro inside
  cases outcome with
  | ok _ => exact inside
  | error exception => exact Reports.written inside true

/-- An exception without a start is reported with status 500. -/
theorem accessEvents_ended (exception : PyExc) :
    (Request.ended (loggingSettings logHealth) request
        (.error exception)).accessEvents.map AccessEvent.statusCode =
      if request.isExcluded logHealth then [] else [500] := by
  show
    (if request.isExcluded logHealth then []
      else [request.accessEvent true request.correlated]).map
        AccessEvent.statusCode =
      _
  split <;> rfl

end Reply

/-! ## The status which the client receives -/

/-- Every event has the status of every start which the client receives. -/
def ReportsReceivedStatus (state : RequestState) : Prop :=
  ∀ event ∈ state.accessEvents, ∀ status headers,
    .start status headers ∈ state.delivered → event.statusCode = status

section Received

variable (app : ErrorApp) (logHealth : Bool) (request : Request)
  (transmit : List Message → Message → Except PyExc Unit) (reply : Reply)

/--
The access log reports the received status exactly if it leaves the request
out, or the response which the renderer makes for an unhandled error has
status 500 or is not received.
-/
theorem reportsReceivedStatus_iff :
    ReportsReceivedStatus
        (app.served (loggingSettings logHealth) request transmit reply) ↔
      request.isExcluded logHealth = true ∨
        ∀ exception mapping status headers next,
          reply = .ends (.error exception) →
          exception.cls.isException = true →
          app.exceptionMapping request.withChosenId exception =
            .ok mapping →
          app.renderError request.withChosenId mapping =
            .ok (.responds status headers next) →
          (transmit [] (.start status headers)).toBool = true →
          status = 500 := by
  have events :=
    (unchanged_served app (loggingSettings logHealth) request transmit
      reply).2
  have delivered {status : Nat} {headers : List Header} :=
    @mem_delivered_served_iff app (loggingSettings logHealth) request
      transmit reply status headers
  have reports :=
    (reports_addedMiddleware logHealth request transmit reply).events
  rw [← events] at reports
  cases reply with
  | responds status headers next =>
      refine iff_of_true ?_ (Or.inr (by simp))
      intro event member other otherHeaders received
      cases (delivered.mp received).1
      exact reports event member
  | ends outcome =>
      rw [run_addedMiddleware_ends] at events
      cases outcome with
      | ok _ =>
          refine iff_of_true ?_ (Or.inr (by simp))
          intro event member status headers received
          cases (delivered.mp received).1
      | error exception =>
          have statuses := accessEvents_ended logHealth request exception
          rw [← events] at statuses
          constructor
          · intro received
            rw [or_iff_not_imp_left]
            intro reported raised mapping status headers next ended
              isException mapped rendered accepted
            cases ended
            rw [if_neg reported] at statuses
            rcases List.map_eq_singleton_iff.mp statuses with
              ⟨event, only, status500⟩
            have outer :=
              app.outerReply_eq_some_iff.mpr
                ⟨exception, mapping, rfl, isException, mapped, rendered⟩
            have leaves := app.leavingStart_ends_iff.mpr ⟨next, outer⟩
            have same :=
              received event (only ▸ List.mem_singleton_self event)
                status headers (delivered.mpr ⟨leaves, accepted⟩)
            exact same.symm.trans status500
          · rintro (excluded | answers) event member status headers received
            · rw [if_pos excluded, List.map_eq_nil_iff] at statuses
              rw [statuses] at member
              cases member
            · rcases delivered.mp received with ⟨leaves, accepted⟩
              rcases app.leavingStart_ends_iff.mp leaves with ⟨next, outer⟩
              rcases app.outerReply_eq_some_iff.mp outer with
                ⟨raised, mapping, ended, isException, mapped, rendered⟩
              rw [answers raised mapping status headers next ended isException
                mapped rendered accepted]
              exact reports event member

end Received

/-! ## A table which maps an exception to 404 -/

/-- An application whose table maps `KeyError`. -/
def tableApp : ErrorApp where
  routes := { transportPolicy := .default }
  errorRenderer := problemRenderer plainSdk
  errorMappingTable :=
    some
      { mappings :=
          OrderedDict.empty.insert .keyError
            (.mapping { statusCode := 404, detail := "No such item" })
        fallback := none
        reachable := by simp }
  policyRenderer := fun _ => problemRenderer plainSdk
  mro := fun cls => [cls, exceptionClass]
  sdk := plainSdk

/-- The access log reports 500 where the client receives 404. -/
theorem not_forall_reportsReceivedStatus :
    ¬∀ (app : ErrorApp) (logHealth : Bool) (request : Request)
        (transmit : List Message → Message → Except PyExc Unit)
        (reply : Reply),
      ReportsReceivedStatus
        (app.served (loggingSettings logHealth) request transmit reply) := by
  intro reports
  have same :=
    reports tableApp false itemsGet (fun _ _ => .ok ())
      (.ends (.error (.keyError "item"))) _ (List.Mem.head _)
      404 _ (List.Mem.head _)
  revert same
  decide

end FastapiCore
