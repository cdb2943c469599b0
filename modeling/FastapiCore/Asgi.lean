import FastapiCore.Library.Interaction
import FastapiCore.Library.OrderedDict
import FastapiCore.PythonObjects

/-!
# Requests and messages of ASGI

An ASGI application answers a request by calling `send` with messages, each
of which the server may refuse by raising.  `RequestState` has what the code
keeps for one request: its `scope["state"]`, the messages, the local
variables of the access log, and the records which were logged.

Names of headers are in lower case, as ASGI requires.
-/

namespace FastapiCore

open Library

/-! ## Headers -/

/-- A header, with its name in lower case. -/
abbrev Header := String × String

/-- `Headers(raw=headers).get(name)`. -/
def getHeader (headers : List Header) (name : String) : Option String :=
  (headers.find? fun header => header.1 = name).map Prod.snd

/--
`MutableHeaders(raw=headers)[name] = value`, which replaces the first header
of the name and deletes the others.
-/
def setHeader (headers : List Header) (name value : String) :
    List Header :=
  match headers with
  | [] => [(name, value)]
  | header :: rest =>
      if header.1 = name then
        (name, value) :: rest.filter fun other => other.1 ≠ name
      else header :: setHeader rest name value

/-- The values of all headers of a name. -/
def headerValues (headers : List Header) (name : String) : List String :=
  (headers.filter fun header => header.1 = name).map Prod.snd

/-- A header which has been set occurs once. -/
@[simp]
theorem headerValues_setHeader (headers : List Header)
    (name value : String) :
    headerValues (setHeader headers name value) name = [value] := by
  induction headers with
  | nil => simp [headerValues, setHeader]
  | cons header rest induction =>
      rw [setHeader]
      split
      · simp [headerValues, List.filter_filter]
      · next different =>
          simpa [headerValues, different] using induction

/-! ## Messages -/

/-- A value inside a JSON document. -/
inductive JsonValue where
  | null
  | number (value : Nat)
  | text (text : String)
  | object (object : PyObject)
  | mapping (entries : List (String × JsonValue))

/-- The content of a body message. -/
inductive Payload where
  | json (content : OrderedDict String JsonValue)
  | bytes (bytes : List UInt8)

/-- A message which may follow the start of a response. -/
inductive BodyMessage where
  | body (payload : Payload) (moreBody : Bool)
  | other (type : String)

/-- A message of an application to the server. -/
inductive Message where
  | start (status : Nat) (headers : List Header)
  | later (message : BodyMessage)

/-- `message["type"] == "http.response.start"`. -/
def Message.isStart : Message → Bool
  | .start _ _ => true
  | .later _ => false

/-- A body message without `more_body`. -/
def Message.isFinalBody : Message → Bool
  | .later (.body _ moreBody) => !moreBody
  | _ => false

/-! ## Requests -/

/-- A hexadecimal digit in lower case. -/
def isHexDigit (char : Char) : Bool :=
  "0123456789abcdef".toList.contains char

/-- The 32 digits of `uuid4().hex`. -/
structure HexId where
  text : String
  length : text.length = 32
  digits : text.toList.all isHexDigit = true

/-- The ID of 32 zeros. -/
def zeroId : HexId where
  text := "00000000000000000000000000000000"
  length := by decide
  digits := by decide

/--
What the code reads of a request: its method and path, the path of
`scope["route"]`, its state, and what `uuid4().hex` will return for it.
-/
structure Request where
  method : String
  path : String
  headers : List Header
  route : Option String := none
  correlationId : Option String := none
  fresh : HexId

/-- An `http_access` event, without its duration. -/
structure AccessEvent where
  method : String
  route : String
  statusCode : Nat
  outcome : String
  correlationId : Option String
deriving DecidableEq

/-- An `unhandled_request_error` event. -/
structure ErrorEvent where
  operation : String
  outcome : String
  correlationId : Option String
deriving DecidableEq

/-- The state of one request. -/
structure RequestState where
  correlationId : Option String := none
  attempted : List Message := []
  delivered : List Message := []
  statusCode : Nat := 500
  logged : Bool := false
  accessEvents : List AccessEvent := []
  errorEvents : List ErrorEvent := []

/-- The state before anything has been done for the request. -/
def RequestState.initial : RequestState := {}

/-- A block of the code which serves one request. -/
abbrev RequestEffect (α : Type) := Effect RequestState PyExc α

/-- `send`. -/
abbrev Send := Message → RequestEffect Unit

/-- An application, as it serves one request. -/
abbrev AsgiApp := Send → RequestEffect Unit

/-- The server's `send`, where `transmit` says which messages it refuses. -/
def serverSend (transmit : List Message → Message → Except PyExc Unit) :
    Send :=
  fun message => do
    let state ← Effect.read
    Effect.update fun state =>
      { state with attempted := state.attempted ++ [message] }
    Effect.ofExcept (transmit state.attempted message)
    Effect.update fun state =>
      { state with delivered := state.delivered ++ [message] }

/-- An application which sends an arbitrary sequence of messages. -/
def Library.Interaction.app (program : Interaction Message PyExc) :
    AsgiApp :=
  fun send => program.interpret send

/-! ## Replies -/

/--
What an application or a response does which sends one start at most: it ends
without one, or it sends a start and goes on with other messages.
-/
inductive Reply where
  | ends (outcome : Except PyExc Unit)
  | responds (status : Nat) (headers : List Header)
      (next : Except PyExc Unit → Interaction BodyMessage PyExc)

namespace Reply

/-- The application which gives a reply. -/
def app : Reply → AsgiApp
  | ends outcome => fun _ => Effect.ofExcept outcome
  | responds status headers next => fun send => do
      let outcome ← Effect.attempt (send (.start status headers))
      (next outcome).interpret fun message => send (.later message)

/-- The status of a response which has been started. -/
def status? : Reply → Option Nat
  | ends _ => none
  | responds status _ _ => some status

/-- `Response.__call__` for a response with one body message. -/
def single (status : Nat) (headers : List Header) (payload : Payload) :
    Reply :=
  .responds status headers fun outcome =>
    match outcome with
    | .error exception => .done (.error exception)
    | .ok _ => .call (.body payload false) .done

end Reply

end FastapiCore
