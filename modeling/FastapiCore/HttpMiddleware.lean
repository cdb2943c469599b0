import FastapiCore.ErrorHandlers

/-!
# The middleware of an application

`create_app` puts `CorrelationIdMiddleware` around `AccessLogMiddleware`,
which is there if access logging is enabled.  Further inside are the CORS
middleware, the exception handlers and the router, of which the code assumes
no more than the `Reply` they give.  Starlette runs the handler for
`Exception` in a `ServerErrorMiddleware` outside of all of them.
-/

namespace FastapiCore

open Library

/-! ## Correlation IDs -/

/-- A character of `[A-Za-z0-9._:-]`. -/
def isCorrelationChar (char : Char) : Bool :=
  ('A' ≤ char ∧ char ≤ 'Z') ∨ ('a' ≤ char ∧ char ≤ 'z') ∨
    ('0' ≤ char ∧ char ≤ '9') ∨ char ∈ ['.', '_', ':', '-']

/-- `_CORRELATION_ID_PATTERN.fullmatch(text)`. -/
def isCorrelationId (text : String) : Bool :=
  1 ≤ text.length ∧ text.length ≤ 128 ∧
    text.toList.all isCorrelationChar = true

/-- The raw name of `X-Correlation-ID`. -/
def correlationIdHeader : String := "x-correlation-id"

/-- `incoming`. -/
def Request.incoming (request : Request) : Option String :=
  getHeader request.headers correlationIdHeader

/-- The `correlation_id` of `CorrelationIdMiddleware`. -/
def Request.chosenId (request : Request) : String :=
  match request.incoming with
  | none => request.fresh.text
  | some incoming =>
      if isCorrelationId incoming then incoming else request.fresh.text

/-- The request with the ID in its state. -/
def Request.withChosenId (request : Request) : Request :=
  { request with correlationId := some request.chosenId }

/-- The message which `send_with_correlation_id` passes on. -/
def Message.withCorrelationId (correlationId : String) : Message → Message
  | .start status headers =>
      .start status (setHeader headers correlationIdHeader correlationId)
  | .later message => .later message

/-- `CorrelationIdMiddleware.__call__`. -/
def correlationIdMiddleware (request : Request) (app : AsgiApp) : AsgiApp :=
  fun send => do
    Effect.update fun state =>
      { state with correlationId := some request.chosenId }
    app fun message => send (message.withCorrelationId request.chosenId)

/-! ## The access log -/

/-- `text.startswith("/health/")`. -/
def isHealthRoute (route : String) : Bool :=
  "/health/".toList.isPrefixOf route.toList

/-- The `route` of an access event. -/
def Request.routeLabel (request : Request) : String :=
  textOr request.route request.path

/-- The access log leaves the request out. -/
def Request.isExcluded (request : Request) (logHealth : Bool) : Bool :=
  !logHealth && isHealthRoute request.routeLabel

/-- The event of `write_log`, from the local variables at that time. -/
def Request.accessEvent (request : Request) (failed : Bool)
    (state : RequestState) : AccessEvent where
  method := request.method
  route := request.routeLabel
  statusCode := state.statusCode
  outcome :=
    if failed || 400 ≤ state.statusCode then "error" else "success"
  correlationId := state.correlationId

section AccessLog

variable (request : Request) (logHealth : Bool)

/-- `write_log`. -/
def writeLog (failed : Bool) : RequestEffect Unit := do
  let state ← Effect.read
  if state.logged then pure ()
  else do
    Effect.update fun state => { state with logged := true }
    if request.isExcluded logHealth then pure ()
    else
      Effect.update fun state =>
        { state with
          accessEvents :=
            state.accessEvents ++ [request.accessEvent failed state] }

/-- `status_code`, after `send_with_access_log` has seen a message. -/
def Message.statusCode (statusCode : Nat) : Message → Nat
  | .start status _ => status
  | .later _ => statusCode

/-- `send_with_access_log`. -/
def sendWithAccessLog (send : Send) : Send :=
  fun message => do
    Effect.update fun state =>
      { state with statusCode := message.statusCode state.statusCode }
    send message
    if message.isFinalBody then writeLog request logHealth false
    else pure ()

/-- `AccessLogMiddleware.__call__`. -/
def accessLogMiddleware (app : AsgiApp) : AsgiApp :=
  fun send => do
    Effect.update fun state =>
      { state with statusCode := 500, logged := false }
    Effect.tryExcept (app (sendWithAccessLog request logHealth send))
      fun exception => do
        writeLog request logHealth true
        Effect.raise exception

end AccessLog

/-! ## The application -/

/-- `response_started`. -/
def RequestState.responseStarted (state : RequestState) : Bool :=
  state.attempted.any Message.isStart

/--
`ServerErrorMiddleware`, as Starlette documents it: the handler makes a
response of an `Exception`, which is sent unless a response has been started,
and the exception is raised again.
-/
def serverErrorMiddleware (handler : PyExc → RequestEffect Reply)
    (app : AsgiApp) : AsgiApp :=
  fun send =>
    Effect.tryExcept (app send) fun exception =>
      if exception.cls.isException then do
        let response ← handler exception
        let state ← Effect.read
        if state.responseStarted then pure () else response.app send
        Effect.raise exception
      else Effect.raise exception

/-- The middleware settings of an application. -/
structure AccessLogSettings where
  accessLogEnabled : Bool := true
  accessLogHealthEnabled : Bool := false

/-- The middleware which `create_app` adds. -/
def addedMiddleware (settings : AccessLogSettings) (request : Request)
    (app : AsgiApp) : AsgiApp :=
  correlationIdMiddleware request
    (if settings.accessLogEnabled then
      accessLogMiddleware request settings.accessLogHealthEnabled app
    else app)

/-- A request to an application, for what happens inside the middleware. -/
def ErrorApp.serve (app : ErrorApp) (settings : AccessLogSettings)
    (request : Request) (inner : AsgiApp) : AsgiApp :=
  serverErrorMiddleware
    (app.exceptionHandler request.withChosenId)
    (addedMiddleware settings request inner)

end FastapiCore
