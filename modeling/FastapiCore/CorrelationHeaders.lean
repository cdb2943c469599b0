import FastapiCore.ServedResponses

/-!
# The correlation ID of a response

`CorrelationIdMiddleware` sets the header of every response which passes it.
The response for an unhandled error does not, so its header is what the
renderer has made of it.
-/

namespace FastapiCore

open Library

/-! ## The chosen ID -/

/-- A new ID has the form which is accepted of an incoming one. -/
theorem isCorrelationChar_of_isHexDigit {char : Char}
    (digit : isHexDigit char = true) : isCorrelationChar char = true := by
  have accepted :
      "0123456789abcdef".toList.all isCorrelationChar = true := by
    decide
  exact List.all_eq_true.mp accepted char (List.contains_iff_mem.mp digit)

theorem isCorrelationId_fresh (id : HexId) :
    isCorrelationId id.text = true := by
  have chars : id.text.toList.all isCorrelationChar = true :=
    List.all_eq_true.mpr fun char member =>
      isCorrelationChar_of_isHexDigit
        (List.all_eq_true.mp id.digits char member)
  simp [isCorrelationId, id.length, chars]

theorem chosenId_eq_incoming_iff {request : Request} {incoming : String}
    (received : request.incoming = some incoming) :
    request.chosenId = incoming ↔ isCorrelationId incoming = true := by
  simp only [Request.chosenId, received]
  split
  · next accepted => exact ⟨fun _ => accepted, fun _ => rfl⟩
  · next rejected =>
      constructor
      · rintro rfl
        exact absurd (isCorrelationId_fresh request.fresh) rejected
      · exact fun accepted => absurd accepted rejected

theorem chosenId_eq_fresh {request : Request}
    (rejected : request.incoming.any isCorrelationId = false) :
    request.chosenId = request.fresh.text := by
  rw [Request.chosenId]
  split
  · rfl
  · next incoming received =>
      rw [received, Option.any_some] at rejected
      simp only [rejected, Bool.false_eq_true, if_false]

/-! ## The header -/

/--
Every start message has the ID of the request, once.  The ID is the incoming
one if that is well formed, and a new one otherwise.
-/
structure CarriesCorrelationId (request : Request) (state : RequestState) :
    Prop where
  header :
    ∀ status headers, .start status headers ∈ state.attempted →
      headerValues headers correlationIdHeader =
        state.correlationId.toList
  incoming :
    ∀ incoming, request.incoming = some incoming →
      (state.correlationId = some incoming ↔
        isCorrelationId incoming = true)
  fresh :
    request.incoming.any isCorrelationId = false →
      state.correlationId = some request.fresh.text

section Header

variable (app : ErrorApp) (settings : AccessLogSettings)
  (request : Request)
  (transmit : List Message → Message → Except PyExc Unit) (reply : Reply)

theorem mem_attempted_served_iff {status : Nat} {headers : List Header} :
    .start status headers ∈
        (app.served settings request transmit reply).attempted ↔
      app.leavingStart request reply = some (.start status headers) := by
  have starts :
      (app.served settings request transmit reply).attempted.filter
          Message.isStart =
        (app.leavingStart request reply).toList :=
    congrArg Prod.fst (starts_served app settings request transmit reply)
  rw [← Option.mem_toList, ← starts, List.mem_filter]
  exact (and_iff_left rfl).symm

theorem mem_delivered_served_iff {status : Nat} {headers : List Header} :
    .start status headers ∈
        (app.served settings request transmit reply).delivered ↔
      app.leavingStart request reply = some (.start status headers) ∧
        (transmit [] (.start status headers)).toBool = true := by
  have starts :
      (app.served settings request transmit reply).delivered.filter
          Message.isStart =
        acceptedStarts transmit (app.leavingStart request reply).toList :=
    congrArg Prod.snd (starts_served app settings request transmit reply)
  rw [← Option.mem_toList]
  calc
    _ ↔
        .start status headers ∈
          (app.served settings request transmit reply).delivered.filter
            Message.isStart := by
      rw [List.mem_filter]
      exact (and_iff_left rfl).symm
    _ ↔ _ := by rw [starts, acceptedStarts, List.mem_filter]

/--
A response carries the ID of its request exactly if the response which the
renderer makes for an unhandled error, should there be one, has that header
itself.
-/
theorem carriesCorrelationId_iff :
    CarriesCorrelationId request
        (app.served settings request transmit reply) ↔
      ∀ exception mapping status headers next,
        reply = .ends (.error exception) →
        exception.cls.isException = true →
        app.exceptionMapping request.withChosenId exception =
          .ok mapping →
        app.renderError request.withChosenId mapping =
          .ok (.responds status headers next) →
        headerValues headers correlationIdHeader = [request.chosenId] := by
  have id := (unchanged_served app settings request transmit reply).1
  constructor
  · rintro carries exception mapping status headers next rfl isException
      mapped rendered
    have outer :=
      app.outerReply_eq_some_iff.mpr
        ⟨exception, mapping, rfl, isException, mapped, rendered⟩
    have leaves := app.leavingStart_ends_iff.mpr ⟨next, outer⟩
    have header :=
      carries.header status headers
        ((mem_attempted_served_iff app settings request transmit _).mpr
          leaves)
    rw [header, id]
    rfl
  · intro renders
    refine ⟨?_, ?_, ?_⟩
    · intro status headers attempted
      have leaves :=
        (mem_attempted_served_iff app settings request transmit reply).mp
          attempted
      rw [id]
      cases reply with
      | responds other before next =>
          cases leaves
          exact headerValues_setHeader _ _ _
      | ends outcome =>
          rcases app.leavingStart_ends_iff.mp leaves with ⟨next, outer⟩
          rcases app.outerReply_eq_some_iff.mp outer with
            ⟨exception, mapping, ended, isException, mapped, rendered⟩
          exact
            renders exception mapping status headers next ended isException
              mapped rendered
    · intro incoming received
      rw [id, Option.some_inj]
      exact chosenId_eq_incoming_iff received
    · intro rejected
      rw [id, chosenId_eq_fresh rejected]

end Header

/-! ## A renderer without the header -/

/-- Other packages which mask nothing and render every document. -/
def plainSdk : ErrorSdk where
  httpStatusPhrase := fun _ => none
  maskSensitiveValue := some
  dumps := fun _ => .ok 0

/-- An application whose renderer sets no header. -/
def plainTextApp : ErrorApp where
  routes := { transportPolicy := .default }
  errorRenderer := fun _ mapping =>
    .ok (.single mapping.statusCode [] (.bytes []))
  errorMappingTable := none
  policyRenderer := fun _ => fun _ mapping =>
    .ok (.single mapping.statusCode [] (.bytes []))
  mro := fun cls => [cls]
  sdk := plainSdk

/-- The response for an unhandled error is not given the header. -/
theorem not_forall_carriesCorrelationId :
    ¬∀ (app : ErrorApp) (settings : AccessLogSettings)
        (request : Request)
        (transmit : List Message → Message → Except PyExc Unit)
        (reply : Reply),
      CarriesCorrelationId request
        (app.served settings request transmit reply) := by
  intro carries
  have header :=
    (carries plainTextApp {} itemsGet (fun _ _ => .ok ())
      (.ends (.error (.runtimeError "lost connection")))).header
      500 [] (List.Mem.head _)
  cases header

end FastapiCore
