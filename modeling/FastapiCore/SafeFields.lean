import FastapiCore.CorrelationHeaders

/-!
# The safe fields of a renderer

`create_error_renderer(safe_fields=...)` names the fields of an `ErrorMapping`
which a client may see.  Two mappings which agree on the named fields are told
apart by no response body, unless the set is empty: an empty set is given, so
the mapping is filtered, but it is filtered by the set of defaults.
-/

namespace FastapiCore

open Library

/-! ## Mappings which agree on the selected fields -/

/--
Two mappings agree on their status, their headers and the fields which are
selected, under any of the names which a field goes by.
-/
structure ErrorMapping.AgreeOn (fields : List String)
    (first second : ErrorMapping) : Prop where
  statusCode : first.statusCode = second.statusCode
  headers : first.headers = second.headers
  detail :
    "detail" ∈ fields ∨ "message" ∈ fields → first.detail = second.detail
  title : "title" ∈ fields → first.title = second.title
  typeUri : "type" ∈ fields → first.typeUri = second.typeUri
  code : "code" ∈ fields → first.code = second.code
  extensions :
    "extensions" ∈ fields ∨ "metadata" ∈ fields →
      first.extensions = second.extensions

namespace RendererOptions

variable (options : RendererOptions)

theorem anyField_pair_iff {first second : String} :
    options.anyField [first, second] = true ↔
      first ∈ options.fields ∨ second ∈ options.fields := by
  simp [anyField]

/-- A set which is not empty is the set of safe fields. -/
theorem fields_of_ne_nil {fields : List String}
    (explicit : options.safeFields = some fields) (nonempty : fields ≠ []) :
    options.fields = fields := by
  cases fields with
  | nil => exact (nonempty rfl).elim
  | cons field rest => rw [RendererOptions.fields, explicit]

variable {options} {first second : ErrorMapping}

/-- A filtered mapping has nothing of the fields which are not selected. -/
theorem safeMapping_eq_of_agreeOn
    (explicit : options.explicitSafeFields = true)
    (agree : first.AgreeOn options.fields second) :
    options.safeMapping first = options.safeMapping second := by
  rw [safeMapping, safeMapping, if_pos explicit, if_pos explicit,
    agree.statusCode, agree.headers]
  congr 1
  · refine ite_congr rfl ?_ fun _ => rfl
    intro selected
    exact agree.detail (options.anyField_pair_iff.mp selected)
  · exact ite_congr rfl agree.title fun _ => rfl
  · exact ite_congr rfl agree.typeUri fun _ => rfl
  · exact ite_congr rfl agree.code fun _ => rfl
  · refine ite_congr rfl ?_ fun _ => rfl
    intro selected
    exact agree.extensions (options.anyField_pair_iff.mp selected)

/-- The fallback code is one of the status, on which the mappings agree. -/
theorem selectedMapping_eq_of_agreeOn
    (explicit : options.explicitSafeFields = true)
    (agree : first.AgreeOn options.fields second) :
    options.selectedMapping first = options.selectedMapping second := by
  rw [selectedMapping, selectedMapping,
    safeMapping_eq_of_agreeOn explicit agree, agree.statusCode]

end RendererOptions

/-- A renderer reads no more of a mapping than what was selected of it. -/
theorem createErrorRenderer_congr {sdk : ErrorSdk}
    {options : RendererOptions} {request : Request}
    {first second : ErrorMapping}
    (same : options.selectedMapping first = options.selectedMapping second) :
    createErrorRenderer sdk options request first =
      createErrorRenderer sdk options request second := by
  simp only [createErrorRenderer, same]

/-! ## Bodies of rendered responses -/

/-- The body of a response with one body message. -/
def Reply.body? : Reply → Option Payload
  | .ends _ => none
  | .responds _ _ next =>
      match next (.ok ()) with
      | .call (.body payload _) _ => some payload
      | _ => none

/-- The body of the response which a renderer makes. -/
def renderedBody (sdk : ErrorSdk) (options : RendererOptions)
    (request : Request) (mapping : ErrorMapping) :
    Except PyExc (Option Payload) :=
  (createErrorRenderer sdk options request mapping).map Reply.body?

/-- Options with the default envelope and a set of safe fields. -/
def limitedTo (safeFields : List String) (problemDetails : Bool)
    (fallbackCodes : OrderedDict Nat String)
    (extractor : Option (Request → Except PyExc String)) :
    RendererOptions where
  correlationIdExtractor := extractor
  fallbackCodes := fallbackCodes
  safeFields := some safeFields
  problemDetails := problemDetails

/-- Fields which are not selected have no influence on the body. -/
def LimitsBody (safeFields : List String) (problemDetails : Bool)
    (fallbackCodes : OrderedDict Nat String) : Prop :=
  ∀ (sdk : ErrorSdk) (extractor : Option (Request → Except PyExc String))
    (request : Request) (first second : ErrorMapping),
    first.AgreeOn safeFields second →
      renderedBody sdk
          (limitedTo safeFields problemDetails fallbackCodes extractor)
          request first =
        renderedBody sdk
          (limitedTo safeFields problemDetails fallbackCodes extractor)
          request second

/-! ## The empty set -/

/-- A conflict with a detail which may be confidential. -/
def conflict (detail : String) : ErrorMapping where
  statusCode := 409
  detail := detail

theorem agreeOn_nil_conflict (first second : String) :
    (conflict first).AgreeOn [] (conflict second) where
  statusCode := rfl
  headers := rfl
  detail := by simp
  title := by simp
  typeUri := by simp
  code := by simp
  extensions := by simp

/-- The detail in the content of a response, by the format of the body. -/
def shownDetail (problemDetails : Bool)
    (content : OrderedDict String JsonValue) : Option JsonValue :=
  if problemDetails then content.get? "detail"
  else
    match content.get? "error" with
    | some (.mapping entries) =>
        (entries.find? fun entry => entry.1 = "message").map Prod.snd
    | _ => none

/-- The default envelope has the detail, which later members keep. -/
theorem get?_defaultError_message {options : RendererOptions}
    {mapping : ErrorMapping} (shown : "message" ∈ options.fields)
    (plain : mapping.extensions = none) (correlationId : String) :
    (options.defaultError mapping correlationId).get? "message" =
      some (.text mapping.detail) := by
  simp only [RendererOptions.defaultError, if_pos shown, plain]
  split
  · rw [OrderedDict.get?_insert_of_ne (by decide)]
    exact OrderedDict.get?_insert_self ..
  · exact OrderedDict.get?_insert_self ..

/-- Without a safe field the detail is shown all the same. -/
theorem exists_renderedBody_conflict (problemDetails : Bool)
    (fallbackCodes : OrderedDict Nat String) (detail : String) :
    ∃ content,
      renderedBody plainSdk
          (limitedTo [] problemDetails fallbackCodes none) itemsGet
          (conflict detail) =
        .ok (some (.json content)) ∧
      shownDetail problemDetails content = some (.text detail) := by
  cases problemDetails with
  | true =>
      refine ⟨_, rfl, ?_⟩
      exact get?_codedContent (by decide) _
  | false =>
      let options := limitedTo [] false fallbackCodes none
      let selected := options.selectedMapping (conflict detail)
      refine ⟨options.defaultEnvelope selected zeroId.text, rfl, ?_⟩
      show
        (options.defaultError selected zeroId.text).get? "message" =
          some (.text detail)
      have shown : "message" ∈ options.fields :=
        List.Mem.tail _ (List.Mem.head _)
      exact get?_defaultError_message shown rfl _

/-- An empty set of safe fields does not limit what the body shows. -/
theorem not_limitsBody_nil (problemDetails : Bool)
    (fallbackCodes : OrderedDict Nat String) :
    ¬LimitsBody [] problemDetails fallbackCodes := by
  intro limits
  have same :=
    limits plainSdk none itemsGet _ _ (agreeOn_nil_conflict "first" "second")
  rcases exists_renderedBody_conflict problemDetails fallbackCodes "first"
    with ⟨first, renderedFirst, showsFirst⟩
  rcases exists_renderedBody_conflict problemDetails fallbackCodes "second"
    with ⟨second, renderedSecond, showsSecond⟩
  rw [renderedFirst, renderedSecond] at same
  cases same
  rw [showsFirst] at showsSecond
  simp at showsSecond

/--
The set of safe fields limits what the body shows exactly if it is not
empty, in both formats and with any fallback codes.
-/
theorem limitsBody_iff (safeFields : List String) (problemDetails : Bool)
    (fallbackCodes : OrderedDict Nat String) :
    LimitsBody safeFields problemDetails fallbackCodes ↔
      safeFields ≠ [] := by
  constructor
  · rintro limits rfl
    exact not_limitsBody_nil problemDetails fallbackCodes limits
  · intro nonempty sdk extractor request first second agree
    show Except.map _ _ = Except.map _ _
    rw [createErrorRenderer_congr]
    apply RendererOptions.selectedMapping_eq_of_agreeOn rfl
    rwa [RendererOptions.fields_of_ne_nil _ rfl nonempty]

/-- Details which are not selected are shown for the empty set. -/
theorem not_forall_limitsBody :
    ¬∀ (safeFields : List String) (problemDetails : Bool)
        (fallbackCodes : OrderedDict Nat String),
      LimitsBody safeFields problemDetails fallbackCodes := by
  intro limits
  exact not_limitsBody_nil true .empty (limits [] true .empty)

end FastapiCore
