import FastapiCore.CorrelationHeaders

/-!
# Correlation IDs in bodies and headers

A renderer of `createErrorRenderer` writes the extracted ID into the body and,
unless the mapping has a header for it, into the headers.  The extensions of
the mapping may replace it in the body.  A response inside the middleware
gets the header of the request afterwards, the one for an unhandled error
keeps what the renderer has written.
-/

namespace FastapiCore

open Library

/-! ## What a renderer writes -/

namespace RendererOptions

variable (options : RendererOptions)

/-- The correlation ID in the content of a response. -/
def bodyId (content : OrderedDict String JsonValue) : Option JsonValue :=
  if options.problemDetails then content.get? "correlation_id"
  else
    match content.get? "error" with
    | some (.mapping entries) =>
        (entries.find? fun entry => entry.1 = "correlation_id").map Prod.snd
    | _ => none

/-- The body has the correlation ID: in a problem or in the envelope. -/
def ExposesId : Prop :=
  options.problemDetails = true ∨
    options.envelopeBuilder = none ∧ "correlation_id" ∈ options.fields

/-- The ID in the body, which an extension may replace in a problem. -/
def writtenId (mapping : ErrorMapping) (extracted : String) : JsonValue :=
  if options.problemDetails && options.includeExtensions then
    ((mapping.extensions.getD .empty).get? "correlation_id").getD
      (.text extracted)
  else .text extracted

end RendererOptions

section Content

variable {sdk : ErrorSdk} {request : Request} {mapping : ErrorMapping}

theorem get?_problemContent_correlationId (extracted : String)
    (includeCode includeExtensions : Bool) :
    (problemContent sdk request mapping extracted includeCode
        includeExtensions).get? "correlation_id" =
      some
        (if includeExtensions then
          ((mapping.extensions.getD .empty).get? "correlation_id").getD
            (.text extracted)
        else .text extracted) := by
  have problem :
      (problemDetail sdk request mapping extracted).modelDump.get?
          "correlation_id" =
        some (.text extracted) :=
    rfl
  rw [get?_problemContent (by decide), problem]
  split
  · cases (mapping.extensions.getD .empty).get? "correlation_id" <;> rfl
  · rfl

theorem get?_defaultError {options : RendererOptions}
    (exposed : "correlation_id" ∈ options.fields)
    (mapping : ErrorMapping) (extracted : String) :
    (options.defaultError mapping extracted).get? "correlation_id" =
      some (.text extracted) := by
  have added (error : OrderedDict String JsonValue) :
      (error.insert "correlation_id" (.text extracted)).get?
          "correlation_id" =
        some (.text extracted) :=
    OrderedDict.get?_insert_self ..
  simp only [RendererOptions.defaultError, if_pos exposed]
  split
  · exact added _
  · split
    · exact added _
    · split
      · rw [OrderedDict.get?_insert_of_ne (by decide)]
        exact added _
      · exact added _

end Content

/-! ## The headers of a rendered response -/

/-- The name is one of the correlation ID header, in any case. -/
def isCorrelationName (name : String) : Bool :=
  lower name = correlationIdHeader

theorem headerValues_rawHeaders {headers : OrderedDict String String}
    {raw : List Header} (encoded : rawHeaders headers = .ok raw)
    (status length : Nat) (mediaType : String) :
    headerValues (raw ++ contentHeaders status length mediaType raw)
        correlationIdHeader =
      (headers.entries.filter fun header =>
        isCorrelationName header.1).map Prod.snd := by
  have content :
      headerValues (contentHeaders status length mediaType raw)
          correlationIdHeader =
        [] := by
    have length : ¬"content-length" = correlationIdHeader := by decide
    have type : ¬"content-type" = correlationIdHeader := by decide
    rw [contentHeaders]
    split <;> split <;> simp [headerValues, length, type]
  rw [rawHeaders] at encoded
  split at encoded
  · cases encoded
    rw [headerValues, List.filter_append, List.map_append]
    show _ ++ headerValues _ _ = _
    rw [content, List.append_nil, List.filter_map, List.map_map]
    rfl
  · cases encoded

/-- The only spelling of the header name among the mapping's headers. -/
def ErrorMapping.SpelledOnce (mapping : ErrorMapping) : Prop :=
  ∀ name ∈ (mapping.headers.getD .empty).keys,
    isCorrelationName name = true → name = "X-Correlation-ID"

/-- The mapping's header, or the extracted ID. -/
def ErrorMapping.headerId (mapping : ErrorMapping) (extracted : String) :
    String :=
  ((mapping.headers.getD .empty).get? "X-Correlation-ID").getD extracted

theorem correlatedHeaders_eq_singleton_iff {mapping : ErrorMapping}
    {extracted value : String} :
    ((correlatedHeaders mapping extracted).entries.filter fun header =>
          isCorrelationName header.1).map Prod.snd =
        [value] ↔
      value = mapping.headerId extracted ∧ mapping.SpelledOnce := by
  have name : isCorrelationName "X-Correlation-ID" = true := by decide
  refine
    (OrderedDict.map_filter_keys_eq_singleton_iff
      (OrderedDict.get?_setDefault_self ..) name).trans ?_
  apply and_congr_right
  intro _
  constructor
  · intro unique name member
    exact unique name (OrderedDict.mem_keys_setDefault.mpr (Or.inr member))
  · intro unique name member
    rcases OrderedDict.mem_keys_setDefault.mp member with same | declared
    · exact fun _ => same
    · exact unique name declared

/--
The default renderer gives a response the ID of its request unless the
mapping has another header for it.
-/
theorem headerValues_problemRenderer {sdk : ErrorSdk} {request : Request}
    {mapping : ErrorMapping} {status : Nat} {headers : List Header}
    {next : Except PyExc Unit → Interaction BodyMessage PyExc}
    (rendered :
      problemRenderer sdk request.withChosenId mapping =
        .ok (.responds status headers next)) :
    headerValues headers correlationIdHeader = [request.chosenId] ↔
      request.chosenId = mapping.headerId request.chosenId ∧
        mapping.SpelledOnce := by
  rcases exists_single_of_jsonResponse rendered with
    ⟨raw, length, encoded, same⟩
  cases same
  rw [headerValues_rawHeaders encoded]
  exact correlatedHeaders_eq_singleton_iff

/-! ## Rendered responses -/

section Rendered

variable {sdk : ErrorSdk} {options : RendererOptions}

theorem headers_selectedMapping (mapping : ErrorMapping) :
    (options.selectedMapping mapping).headers = mapping.headers := by
  simp only [RendererOptions.selectedMapping, RendererOptions.safeMapping]
  split <;> rfl

theorem extensions_selectedMapping (mapping : ErrorMapping)
    (included : options.includeExtensions = true) :
    (options.selectedMapping mapping).extensions = mapping.extensions := by
  simp only [RendererOptions.selectedMapping, RendererOptions.safeMapping]
  split
  · next explicit =>
      simp only [RendererOptions.includeExtensions, explicit, Bool.not_true,
        Bool.false_or] at included
      exact if_pos included
  · rfl

/-- A response with the extracted ID in its headers and in its content. -/
structure WritesId (options : RendererOptions) (mapping : ErrorMapping)
    (extracted : String) (headers : List Header)
    (content : OrderedDict String JsonValue) : Prop where
  headers (value : String) :
    headerValues headers correlationIdHeader = [value] ↔
      value = mapping.headerId extracted ∧ mapping.SpelledOnce
  body : options.bodyId content = some (options.writtenId mapping extracted)

/-- A renderer which exposes the ID writes it into both places. -/
theorem exists_writesId {request : Request} {mapping : ErrorMapping}
    {response : Reply} (exposed : options.ExposesId)
    (rendered :
      createErrorRenderer sdk options request mapping = .ok response) :
    ∃ extracted status headers content,
      options.extractCorrelationId request = .ok extracted ∧
        response = .single status headers (.json content) ∧
          WritesId options mapping extracted headers content := by
  rcases bind_eq_ok_iff.mp rendered with ⟨extracted, found, rest⟩
  have headers :
      correlatedHeaders (options.selectedMapping mapping) extracted =
        correlatedHeaders mapping extracted := by
    rw [correlatedHeaders, headers_selectedMapping]
    rfl
  simp only at rest
  split at rest
  · next problem =>
      rcases exists_single_of_jsonResponse rest with
        ⟨raw, length, encoded, rfl⟩
      refine ⟨extracted, _, _, _, found, rfl, ?_, ?_⟩
      · intro value
        rw [headerValues_rawHeaders encoded, Option.getD_some, headers]
        exact correlatedHeaders_eq_singleton_iff
      · rw [RendererOptions.bodyId, if_pos problem,
          get?_problemContent_correlationId,
          RendererOptions.writtenId, problem, Bool.true_and,
          Option.getD_some]
        split
        · next included =>
            rw [extensions_selectedMapping mapping included]
        · rfl
  · next envelope =>
      rcases exposed with problem | ⟨builder, exposed⟩
      · exact absurd problem envelope
      · rcases bind_eq_ok_iff.mp rest with ⟨content, built, made⟩
        rcases exists_single_of_jsonResponse made with
          ⟨raw, length, encoded, rfl⟩
        refine ⟨extracted, _, _, content, found, rfl, ?_, ?_⟩
        · intro value
          rw [headerValues_rawHeaders encoded, headers]
          exact correlatedHeaders_eq_singleton_iff
        · simp only [RendererOptions.buildEnvelope, builder] at built
          cases built
          have inner := get?_defaultError exposed
            (options.selectedMapping mapping) extracted
          simp only [RendererOptions.bodyId, envelope,
            RendererOptions.defaultEnvelope,
            OrderedDict.get?_insert_self, RendererOptions.writtenId]
          exact inner

end Rendered

/-! ## What leaves the application -/

/-- A server which refuses no message. -/
def accepting : List Message → Message → Except PyExc Unit :=
  fun _ _ => .ok ()

section Leaving

variable (app : ErrorApp) (settings : AccessLogSettings)
  (request : Request) (status : Nat) (headers : List Header)
  (payload : Payload)

theorem run_innerSend_accepting (message : Message)
    (state : RequestState) :
    ∃ later,
      (innerSend settings request accepting message).run state =
          (.ok (), later) ∧
        later.attempted =
          state.attempted ++ [message.withCorrelationId request.chosenId] := by
  rw [innerSend]
  split
  · have ran :
        (sendWithAccessLog request settings.accessLogHealthEnabled
            (correlatedSend request accepting) message).run state =
          _ :=
      run_sendWithAccessLog request settings.accessLogHealthEnabled
        (Message.withCorrelationId request.chosenId) accepting message state
    refine ⟨_, ran, ?_⟩
    split
    · rw [RequestState.written]
      split <;> rfl
    · rfl
  · exact ⟨_, rfl, rfl⟩

/-- A response inside the middleware leaves with the ID of the request. -/
theorem attempted_handled :
    (app.served settings request accepting
        (.single status headers payload)).attempted =
      [request.correlatedStart status headers,
        .later (.body payload false)] := by
  rcases exists_served app settings request accepting
      (.single status headers payload) with
    ⟨errorEvents, served⟩
  have writes :
      Effect.Preserves RequestState.attempted
        (writeLog request settings.accessLogHealthEnabled true) := by
    intro state
    rw [run_writeLog, RequestState.written]
    split <;> rfl
  have inside :=
    view_addedMiddleware settings request accepting writes
      (.single status headers payload)
  rcases run_innerSend_accepting settings request (.start status headers)
      request.correlated with
    ⟨started, startRan, startAttempted⟩
  rcases run_innerSend_accepting settings request
      (.later (.body payload false)) started with
    ⟨ended, bodyRan, bodyAttempted⟩
  have ran :
      ((Reply.single status headers payload).app
          (innerSend settings request accepting)).run request.correlated =
        (.ok (), ended) := by
    simp only [Reply.single, Reply.app, Effect.run_attempt_bind, startRan,
      Interaction.run_interpret_call, bodyRan]
    rfl
  rw [ran] at inside
  rw [served]
  exact
    inside.trans
      (bodyAttempted.trans
        (congrArg (· ++ [Message.later (.body payload false)])
          startAttempted))

/-- The response for an unhandled error leaves as it is. -/
theorem attempted_unhandled {exception : PyExc}
    (outer :
      app.outerReply request (.ends (.error exception)) =
        some (.single status headers payload)) :
    (app.served settings request accepting
        (.ends (.error exception))).attempted =
      [.start status headers, .later (.body payload false)] := by
  rcases exists_served app settings request accepting
      (.ends (.error exception)) with
    ⟨errorEvents, served⟩
  have nothing :=
    (messages_ended settings request (.error exception)).1
  rw [served, outer, run_addedMiddleware_ends]
  show
    ((Request.ended settings request (.error exception)).attempted ++
        [Message.start status headers]) ++
        [Message.later (.body payload false)] =
      _
  rw [nothing]
  rfl

end Leaving

/-! ## Agreement -/

/--
Where an error is handled: inside the middleware, where CORS may change the
headers of the response, or by the handler for unhandled errors.
-/
inductive ErrorPath where
  | handled (mapping : ErrorMapping) (cors : List Header → List Header)
  | unhandled (exception : PyExc)
      (isException : exception.cls.isException = true)

namespace ErrorPath

variable (app : ErrorApp) (request : Request)

/-- The mapping which is rendered. -/
def mapping : ErrorPath → Except PyExc ErrorMapping
  | handled mapping _ => .ok mapping
  | unhandled exception _ => app.exceptionMapping request exception

/-- The reply of the inner application. -/
def reply : ErrorPath → Reply
  | handled mapping cors =>
      match app.renderError request mapping with
      | .ok (.responds status headers next) =>
          .responds status (cors headers) next
      | .ok (.ends outcome) => .ends outcome
      | .error exception => .ends (.error exception)
  | unhandled exception _ => .ends (.error exception)

/-- The ID in the body is the one which the header will have. -/
def Consistent (options : RendererOptions) (request : Request)
    (mapping : ErrorMapping) (extracted : String) : ErrorPath → Prop
  | handled _ _ =>
      options.writtenId mapping extracted = .text request.chosenId
  | unhandled _ _ =>
      mapping.SpelledOnce ∧
        options.writtenId mapping extracted =
          .text (mapping.headerId extracted)

end ErrorPath

/-- One JSON response has left, with one ID in its header and its body. -/
def AgreesOnId (options : RendererOptions) (state : RequestState) : Prop :=
  ∃ status headers content id,
    state.attempted =
        [.start status headers, .later (.body (.json content) false)] ∧
      headerValues headers correlationIdHeader = [id] ∧
        options.bodyId content = some (.text id)

section Agreement

variable {app : ErrorApp} {settings : AccessLogSettings}
  {request : Request} {options : RendererOptions}

/-- Agreement of a response is agreement of its header and its body. -/
theorem agreesOnId_iff {state : RequestState} {status : Nat}
    {headers : List Header} {content : OrderedDict String JsonValue}
    (attempted :
      state.attempted =
        [.start status headers, .later (.body (.json content) false)]) :
    AgreesOnId options state ↔
      ∃ id, headerValues headers correlationIdHeader = [id] ∧
        options.bodyId content = some (.text id) := by
  constructor
  · rintro ⟨otherStatus, otherHeaders, otherContent, id, same, agreement⟩
    rw [attempted] at same
    cases same
    exact ⟨id, agreement⟩
  · rintro ⟨id, agreement⟩
    exact ⟨status, headers, content, id, attempted, agreement⟩

/--
Header and body agree exactly if the renderer has written the ID of the
request into the body of a response inside the middleware, and its own header
into the body of one outside.
-/
theorem agreesOnId_served_iff (exposed : options.ExposesId)
    (renders :
      app.renderer request.withChosenId =
        createErrorRenderer app.sdk options)
    (path : ErrorPath) {mapping : ErrorMapping} {response : Reply}
    (mapped : path.mapping app request.withChosenId = .ok mapping)
    (rendered :
      app.renderError request.withChosenId mapping = .ok response) :
    AgreesOnId options
        (app.served settings request accepting
          (path.reply app request.withChosenId)) ↔
      ∃ extracted,
        options.extractCorrelationId request.withChosenId =
            .ok extracted ∧
          path.Consistent options request mapping extracted := by
  have made := rendered
  rw [ErrorApp.renderError, renders] at made
  rcases exists_writesId exposed made with
    ⟨extracted, status, headers, content, found, rfl, writes⟩
  have onlyExtracted (holds : String → Prop) :
      (∃ extracted,
          options.extractCorrelationId request.withChosenId =
              .ok extracted ∧
            holds extracted) ↔
        holds extracted := by
    rw [found]
    constructor
    · rintro ⟨_, ⟨⟩, holds⟩
      exact holds
    · exact fun holds => ⟨extracted, rfl, holds⟩
  rw [onlyExtracted]
  cases path with
  | handled other cors =>
      cases mapped
      have reply :
          (ErrorPath.handled mapping cors).reply app
              request.withChosenId =
            .single status (cors headers) (.json content) := by
        simp only [ErrorPath.reply, rendered]
        rfl
      rw [reply,
        agreesOnId_iff
          (attempted_handled app settings request status (cors headers)
            (.json content)),
        headerValues_setHeader, writes.body]
      constructor
      · rintro ⟨_, ⟨⟩, body⟩
        exact Option.some_inj.mp body
      · intro body
        exact ⟨_, rfl, congrArg some body⟩
  | unhandled exception isException =>
      have outer :
          app.outerReply request (.ends (.error exception)) =
            some (.single status headers (.json content)) :=
        app.outerReply_eq_some_iff.mpr
          ⟨exception, mapping, rfl, isException, mapped, rendered⟩
      rw [ErrorPath.reply,
        agreesOnId_iff
          (attempted_unhandled app settings request status headers
            (.json content) outer),
        writes.body]
      simp only [writes.headers]
      constructor
      · rintro ⟨_, ⟨rfl, once⟩, body⟩
        exact ⟨once, Option.some_inj.mp body⟩
      · rintro ⟨once, body⟩
        exact ⟨_, ⟨rfl, once⟩, congrArg some body⟩

end Agreement

/-! ## A mapping with its own header -/

/-- The default hooks, with problem details. -/
def defaultOptions : RendererOptions := {}

/-- An application with a renderer of the default hooks. -/
def problemApp : ErrorApp :=
  { plainTextApp with
    errorRenderer := createErrorRenderer plainSdk defaultOptions }

/-- A mapping whose headers have another ID. -/
def otherIdMapping : ErrorMapping where
  statusCode := 409
  detail := "Conflict"
  headers := some (OrderedDict.empty.insert "x-correlation-id" "upstream")

theorem agreesOnId_problemApp :
    AgreesOnId defaultOptions
      (problemApp.served {} itemsGet accepting
        ((ErrorPath.handled otherIdMapping id).reply problemApp
          itemsGet.withChosenId)) := by
  apply
    (agreesOnId_served_iff (Or.inl rfl) rfl
      (ErrorPath.handled otherIdMapping id) rfl rfl).mpr
  exact ⟨_, rfl, rfl⟩

/-- An extension replaces the ID in the body, not the one in the header. -/
theorem not_forall_agreesOnId :
    ¬∀ (app : ErrorApp) (settings : AccessLogSettings)
        (request : Request) (options : RendererOptions)
        (path : ErrorPath) (mapping : ErrorMapping) (response : Reply),
      options.ExposesId →
      app.renderer request.withChosenId =
        createErrorRenderer app.sdk options →
      path.mapping app request.withChosenId = .ok mapping →
      app.renderError request.withChosenId mapping = .ok response →
      AgreesOnId options
        (app.served settings request accepting
          (path.reply app request.withChosenId)) := by
  intro agrees
  let mapping : ErrorMapping :=
    { statusCode := 409
      detail := "Conflict"
      extensions :=
        some
          (OrderedDict.empty.insert "correlation_id" (.text "upstream")) }
  rcases
    agrees problemApp {} itemsGet defaultOptions (.handled mapping id)
      mapping _ (Or.inl rfl) rfl rfl rfl with
    ⟨status, headers, content, correlationId, attempted, header, body⟩
  cases attempted
  cases header
  have same : some (JsonValue.text "upstream") = some (.text zeroId.text) :=
    body
  have text := JsonValue.text.inj (Option.some_inj.mp same)
  revert text
  decide

end FastapiCore
