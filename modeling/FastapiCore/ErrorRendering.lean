import FastapiCore.Asgi
import FastapiCore.Library.FallibleLoop

/-!
# Error responses

An `ErrorMapping` says what a client is told about an error, and a renderer
makes a response of it.  `problemRenderer` is the default renderer, and
`createErrorRenderer` builds one from the hooks of a product.

`ErrorSdk` has what is outside of this package: the phrases of `HTTPStatus`,
the masking of sensitive values, and the length of a rendered JSON document,
whose rendering may raise.
-/

namespace FastapiCore

open Library

/-- What error rendering takes from other packages. -/
structure ErrorSdk where
  httpStatusPhrase : Nat → Option String
  maskSensitiveValue : String → Option String
  dumps : OrderedDict String JsonValue → Except PyExc Nat

/-- `ErrorMapping`. -/
structure ErrorMapping where
  statusCode : Nat
  detail : String
  title : Option String := none
  typeUri : String := "about:blank"
  headers : Option (OrderedDict String String) := none
  code : Option String := none
  extensions : Option (OrderedDict String JsonValue) := none

/-- An `ErrorRenderer`, with the awaitable it may return. -/
abbrev ErrorRenderer := Request → ErrorMapping → Except PyExc Reply

/-! ## JSON responses -/

/-- `text.encode("latin-1")` does not raise. -/
def isLatin1 (text : String) : Bool :=
  text.toList.all fun char => char.toNat < 256

/-- The headers of `Response(headers=...)` in their raw form. -/
def rawHeaders (headers : OrderedDict String String) :
    Except PyExc (List Header) :=
  if headers.entries.all fun header => isLatin1 header.1 && isLatin1 header.2
  then
    .ok (headers.entries.map fun header => (lower header.1, header.2))
  else
    .error
      { cls := .other "UnicodeEncodeError"
        message := "'latin-1' codec can't encode characters" }

/-- The headers which a response adds for its content. -/
def contentHeaders (status length : Nat) (mediaType : String)
    (headers : List Header) : List Header :=
  let names := headers.map Prod.fst
  (if "content-length" ∉ names ∧ 200 ≤ status ∧ status ≠ 204 ∧
      status ≠ 304 then
    [("content-length", toString length)]
  else []) ++
    if "content-type" ∉ names then [("content-type", mediaType)] else []

/-- `JSONResponse(...)`. -/
def jsonResponse (sdk : ErrorSdk) (status : Nat)
    (content : OrderedDict String JsonValue)
    (headers : OrderedDict String String) (mediaType : String) :
    Except PyExc Reply := do
  let length ← sdk.dumps content
  let raw ← rawHeaders headers
  pure
    (.single status (raw ++ contentHeaders status length mediaType raw)
      (.json content))

/-! ## Problem details -/

/-- `_SAFE_ERROR_DETAILS`. -/
def safeErrorDetails : List String := ["Invalid token"]

/-- `_status_title`. -/
def statusTitle (sdk : ErrorSdk) (status : Nat) : String :=
  (sdk.httpStatusPhrase status).getD "HTTP Error"

/-- `first or second`, for texts. -/
def textOr (first : Option String) (second : String) : String :=
  match first with
  | none => second
  | some text => if text = "" then second else text

/-- `_mask_problem_detail`. -/
def maskProblemDetail (sdk : ErrorSdk) (detail : String) : String :=
  if detail ∈ safeErrorDetails then detail
  else textOr (sdk.maskSensitiveValue detail) detail

/-- `ProblemDetail`. -/
structure ProblemDetail where
  type : String := "about:blank"
  title : String
  status : Nat
  detail : String
  instancePath : String
  correlationId : String

/-- `problem.model_dump()`. -/
def ProblemDetail.modelDump (problem : ProblemDetail) :
    OrderedDict String JsonValue where
  entries :=
    [("type", .text problem.type), ("title", .text problem.title),
      ("status", .number problem.status), ("detail", .text problem.detail),
      ("instance", .text problem.instancePath),
      ("correlation_id", .text problem.correlationId)]
  nodup := by
    show
      ["type", "title", "status", "detail", "instance",
        "correlation_id"].Nodup
    decide

/-- `request.state.correlation_id`, or a new ID without one. -/
def defaultCorrelationId (request : Request) : String :=
  request.correlationId.getD request.fresh.text

/-- `mapping.headers`, with the correlation ID unless it is there. -/
def correlatedHeaders (mapping : ErrorMapping) (correlationId : String) :
    OrderedDict String String :=
  (mapping.headers.getD .empty).setDefault "X-Correlation-ID" correlationId

/-- The `problem` of `_problem_response`. -/
def problemDetail (sdk : ErrorSdk) (request : Request)
    (mapping : ErrorMapping) (correlationId : String) : ProblemDetail where
  type := mapping.typeUri
  title := textOr mapping.title (statusTitle sdk mapping.statusCode)
  status := mapping.statusCode
  detail := mapping.detail
  instancePath := request.path
  correlationId := correlationId

/-- A problem with the code of its mapping, if that is included. -/
def codedContent (problem : ProblemDetail) (code : Option String) :
    OrderedDict String JsonValue :=
  match code with
  | none => problem.modelDump
  | some code => problem.modelDump.insert "code" (.text code)

/-- The content of `_problem_response`. -/
def problemContent (sdk : ErrorSdk) (request : Request)
    (mapping : ErrorMapping) (correlationId : String)
    (includeCode includeExtensions : Bool) :
    OrderedDict String JsonValue :=
  let content :=
    codedContent (problemDetail sdk request mapping correlationId)
      (if includeCode then mapping.code else none)
  if includeExtensions then
    content.update (mapping.extensions.getD .empty)
  else content

/-- The code is the only member which it changes. -/
theorem get?_codedContent {problem : ProblemDetail} {name : String}
    (other : name ≠ "code") (code : Option String) :
    (codedContent problem code).get? name =
      problem.modelDump.get? name := by
  cases code with
  | none => rfl
  | some code => exact OrderedDict.get?_insert_of_ne other _

/-- Every member but the code is the problem's or that of an extension. -/
theorem get?_problemContent {sdk : ErrorSdk} {request : Request}
    {mapping : ErrorMapping} {name : String} (other : name ≠ "code")
    (correlationId : String) (includeCode includeExtensions : Bool) :
    (problemContent sdk request mapping correlationId includeCode
        includeExtensions).get? name =
      (if includeExtensions then
          (mapping.extensions.getD .empty).get? name
        else none).or
        ((problemDetail sdk request mapping correlationId).modelDump.get?
          name) := by
  rw [problemContent]
  split
  · rw [OrderedDict.get?_update, get?_codedContent other]
  · rw [get?_codedContent other, Option.none_or]

/-- `_problem_response`. -/
def problemResponse (sdk : ErrorSdk) (request : Request)
    (mapping : ErrorMapping) (correlationId : Option String)
    (includeCode includeExtensions : Bool) : Except PyExc Reply :=
  let correlationId :=
    correlationId.getD (defaultCorrelationId request)
  jsonResponse sdk mapping.statusCode
    (problemContent sdk request mapping correlationId includeCode
      includeExtensions)
    (correlatedHeaders mapping correlationId) "application/problem+json"

/-- `_problem_renderer`. -/
def problemRenderer (sdk : ErrorSdk) : ErrorRenderer :=
  fun request mapping => problemResponse sdk request mapping none true true

/-! ## Renderers of a product -/

/-- The arguments of `create_error_renderer`. -/
structure RendererOptions where
  correlationIdExtractor : Option (Request → Except PyExc String) := none
  envelopeBuilder :
    Option
      (Request → ErrorMapping → String →
        Except PyExc (OrderedDict String JsonValue)) := none
  fallbackCodes : OrderedDict Nat String := .empty
  safeFields : Option (List String) := none
  problemDetails : Bool := true

namespace RendererOptions

variable (options : RendererOptions)

/-- `explicit_safe_fields`. -/
def explicitSafeFields : Bool :=
  options.safeFields.isSome

/-- `fields`: an empty set counts as none. -/
def fields : List String :=
  match options.safeFields with
  | none | some [] => ["code", "message", "correlation_id", "metadata"]
  | some fields => fields

/-- `extract_correlation_id(request)`. -/
def extractCorrelationId (request : Request) : Except PyExc String :=
  match options.correlationIdExtractor with
  | none => .ok (defaultCorrelationId request)
  | some extractor => extractor request

/-- One of the names is a safe field. -/
def anyField (names : List String) : Bool :=
  names.any fun name => name ∈ options.fields

/-- The dictionary `error` of `default_envelope`. -/
def defaultError (mapping : ErrorMapping) (correlationId : String) :
    OrderedDict String JsonValue :=
  let add (name : String) (value : JsonValue)
      (error : OrderedDict String JsonValue) :=
    if name ∈ options.fields then error.insert name value else error
  let code :=
    textOr mapping.code
      ((options.fallbackCodes.get? mapping.statusCode).getD
        ("http_" ++ toString mapping.statusCode))
  let error :=
    add "correlation_id" (.text correlationId)
      (add "message" (.text mapping.detail)
        (add "code" (.text code) .empty))
  match mapping.extensions with
  | none => error
  | some extensions =>
      if extensions.entries = [] then error
      else add "metadata" (.mapping extensions.entries) error

/-- `default_envelope`. -/
def defaultEnvelope (mapping : ErrorMapping) (correlationId : String) :
    OrderedDict String JsonValue :=
  OrderedDict.empty.insert "error"
    (.mapping (options.defaultError mapping correlationId).entries)

/-- `build_envelope(...)`. -/
def buildEnvelope (request : Request) (mapping : ErrorMapping)
    (correlationId : String) :
    Except PyExc (OrderedDict String JsonValue) :=
  match options.envelopeBuilder with
  | none => .ok (options.defaultEnvelope mapping correlationId)
  | some builder => builder request mapping correlationId

/-- `safe_mapping`. -/
def safeMapping (mapping : ErrorMapping) : ErrorMapping :=
  if options.explicitSafeFields then
    { mapping with
      detail :=
        if options.anyField ["detail", "message"] then mapping.detail
        else "Request failed"
      title := if "title" ∈ options.fields then mapping.title else none
      typeUri :=
        if "type" ∈ options.fields then mapping.typeUri else "about:blank"
      code := if "code" ∈ options.fields then mapping.code else none
      extensions :=
        if options.anyField ["extensions", "metadata"] then
          mapping.extensions
        else none }
  else mapping

/-- `selected_mapping`: a safe mapping with a fallback code. -/
def selectedMapping (mapping : ErrorMapping) : ErrorMapping :=
  let selected := options.safeMapping mapping
  { selected with
    code :=
      selected.code.or (options.fallbackCodes.get? mapping.statusCode) }

/-- `include_code`. -/
def includeCode : Bool :=
  !options.explicitSafeFields || decide ("code" ∈ options.fields)

/-- `include_extensions`. -/
def includeExtensions : Bool :=
  !options.explicitSafeFields || options.anyField ["extensions", "metadata"]

end RendererOptions

/-- `create_error_renderer`. -/
def createErrorRenderer (sdk : ErrorSdk) (options : RendererOptions) :
    ErrorRenderer :=
  fun request mapping => do
    let correlationId ← options.extractCorrelationId request
    let selected := options.selectedMapping mapping
    if options.problemDetails then
      problemResponse sdk request selected (some correlationId)
        options.includeCode options.includeExtensions
    else do
      let content ← options.buildEnvelope request selected correlationId
      jsonResponse sdk selected.statusCode content
        (correlatedHeaders selected correlationId) "application/json"

/-! ## The status of an error response -/

/-- A renderer answers with one body and the status of the mapping. -/
def KeepsStatus (renderer : ErrorRenderer) : Prop :=
  ∀ request mapping response, renderer request mapping = .ok response →
    ∃ headers payload,
      response = .single mapping.statusCode headers payload

theorem exists_single_of_jsonResponse {sdk : ErrorSdk} {status : Nat}
    {content : OrderedDict String JsonValue}
    {headers : OrderedDict String String} {mediaType : String}
    {response : Reply}
    (made :
      jsonResponse sdk status content headers mediaType = .ok response) :
    ∃ raw length,
      rawHeaders headers = .ok raw ∧
        response =
          .single status
            (raw ++ contentHeaders status length mediaType raw)
            (.json content) := by
  rcases bind_eq_ok_iff.mp made with ⟨length, -, rest⟩
  rcases bind_eq_ok_iff.mp rest with ⟨raw, encoded, ⟨⟩⟩
  exact ⟨raw, length, encoded, rfl⟩

theorem keepsStatus_problemRenderer (sdk : ErrorSdk) :
    KeepsStatus (problemRenderer sdk) := by
  intro request mapping response rendered
  rcases exists_single_of_jsonResponse rendered with ⟨raw, _, -, rfl⟩
  exact ⟨_, _, rfl⟩

theorem statusCode_selectedMapping (options : RendererOptions)
    (mapping : ErrorMapping) :
    (options.selectedMapping mapping).statusCode = mapping.statusCode := by
  simp only [RendererOptions.selectedMapping, RendererOptions.safeMapping]
  split <;> rfl

/-- No hook of a product changes the status. -/
theorem keepsStatus_createErrorRenderer (sdk : ErrorSdk)
    (options : RendererOptions) :
    KeepsStatus (createErrorRenderer sdk options) := by
  intro request mapping response rendered
  rcases bind_eq_ok_iff.mp rendered with ⟨_, -, rest⟩
  rw [← statusCode_selectedMapping options mapping]
  simp only at rest
  split at rest
  · rcases exists_single_of_jsonResponse rest with ⟨raw, _, -, rfl⟩
    exact ⟨_, _, rfl⟩
  · rcases bind_eq_ok_iff.mp rest with ⟨content, -, made⟩
    rcases exists_single_of_jsonResponse made with ⟨raw, _, -, rfl⟩
    exact ⟨_, _, rfl⟩

end FastapiCore
