import FastapiCore.SafeFields

/-!
# The members of a problem

The default renderer writes the standard members of a problem first and
merges the extensions of the mapping into them.  An extension under any other
name appears beside the standard members, an extension under the name of one
takes its place: the masked detail and the status are not protected from it.
-/

namespace FastapiCore

open Library

/-- The members which every problem has. -/
def standardMembers : List String :=
  ["type", "title", "status", "detail", "instance", "correlation_id"]

/-! ## A problem and its extensions -/

/-- An extension has no name which is not its own. -/
theorem get?_problemContent_of_extension {sdk : ErrorSdk}
    {request : Request} {mapping : ErrorMapping} {name : String}
    {value : JsonValue} (correlationId : String) (includeCode : Bool)
    (extension :
      (mapping.extensions.getD .empty).get? name = some value) :
    (problemContent sdk request mapping correlationId includeCode
        true).get? name =
      some value := by
  rw [problemContent, if_pos rfl, OrderedDict.get?_update, extension]
  rfl

/--
What a problem is to have for a client: its own standard members, the status
of the response, and the extensions under other names.
-/
structure ProblemDetail.Kept (problem : ProblemDetail)
    (extensions : OrderedDict String JsonValue) (status : Nat)
    (content : OrderedDict String JsonValue) : Prop where
  httpStatus : problem.status = status
  members :
    ∀ name ∈ standardMembers,
      content.get? name = problem.modelDump.get? name
  extensions :
    ∀ name value, name ∉ standardMembers →
      extensions.get? name = some value → content.get? name = some value

namespace ErrorApp

variable (app : ErrorApp) (request : Request) (mapping : ErrorMapping)

/-- The problem which a client is to see for a mapping. -/
def expectedProblem : ProblemDetail where
  type := mapping.typeUri
  title := textOr mapping.title (statusTitle app.sdk mapping.statusCode)
  status := mapping.statusCode
  detail := maskProblemDetail app.sdk mapping.detail
  instancePath := request.path
  correlationId := defaultCorrelationId request

/-- A response whose body keeps the problem and shows the extensions. -/
def KeepsMembers (response : Reply) : Prop :=
  ∃ status content,
    response.status? = some status ∧
      response.body? = some (.json content) ∧
      (app.expectedProblem request mapping).Kept
        (mapping.extensions.getD .empty) status content

/-- An extension under a standard name says what the member says anyway. -/
def ExtensionsAgree : Prop :=
  ∀ name ∈ standardMembers, ∀ value,
    (mapping.extensions.getD .empty).get? name = some value →
      (app.expectedProblem request mapping).modelDump.get? name = some value

variable {app request mapping}

/-- The problem is rendered with the detail masked. -/
theorem get?_content_of_standard {name : String}
    (standard : name ∈ standardMembers) :
    (problemContent app.sdk request (app.sanitized mapping)
        (defaultCorrelationId request) true true).get? name =
      ((mapping.extensions.getD .empty).get? name).or
        ((app.expectedProblem request mapping).modelDump.get? name) := by
  have other : name ≠ "code" := by
    rintro rfl
    revert standard
    decide
  rw [get?_problemContent other]
  rfl

/-- The default renderer answers with the status and the content. -/
theorem exists_body_of_renderError {response : Reply}
    (default : app.renderer request = problemRenderer app.sdk)
    (rendered : app.renderError request mapping = .ok response) :
    response.status? = some mapping.statusCode ∧
      response.body? =
        some
          (.json
            (problemContent app.sdk request (app.sanitized mapping)
              (defaultCorrelationId request) true true)) := by
  rw [renderError, default] at rendered
  rcases exists_single_of_jsonResponse rendered with ⟨raw, length, -, rfl⟩
  exact ⟨rfl, rfl⟩

/--
The default renderer keeps the standard members exactly if each extension
under one of their names has the value of the member.
-/
theorem keepsMembers_iff {response : Reply}
    (default : app.renderer request = problemRenderer app.sdk)
    (rendered : app.renderError request mapping = .ok response) :
    app.KeepsMembers request mapping response ↔
      app.ExtensionsAgree request mapping := by
  rcases exists_body_of_renderError default rendered with ⟨status, body⟩
  constructor
  · rintro ⟨_, content, -, sameBody, kept⟩ name standard value extension
    rw [body] at sameBody
    cases sameBody
    rw [← kept.members name standard]
    exact get?_problemContent_of_extension _ _ extension
  · intro agree
    refine ⟨_, _, status, body, rfl, ?_, ?_⟩
    · intro name standard
      rw [get?_content_of_standard standard]
      cases extension : (mapping.extensions.getD .empty).get? name with
      | none => rfl
      | some value => exact (agree name standard value extension).symm
    · intro name value _ extension
      exact get?_problemContent_of_extension _ _ extension

end ErrorApp

/-! ## An extension named status -/

/-- An application with the default renderer. -/
def defaultApp : ErrorApp where
  routes := { transportPolicy := .default }
  errorRenderer := problemRenderer plainSdk
  errorMappingTable := none
  policyRenderer := fun _ => problemRenderer plainSdk
  mro := fun cls => [cls]
  sdk := plainSdk

/-- A conflict with one extension. -/
def extendedConflict (name : String) (value : JsonValue) : ErrorMapping where
  statusCode := 409
  detail := "Conflict"
  extensions := some (OrderedDict.empty.insert name value)

theorem get?_extendedConflict {name other : String} {value found : JsonValue}
    (extension :
      ((extendedConflict name value).extensions.getD .empty).get? other =
        some found) :
    other = name ∧ found = value := by
  have member := OrderedDict.get?_eq_some_iff.mp extension
  cases List.mem_singleton.mp member
  exact ⟨rfl, rfl⟩

theorem keepsMembers_retryAfter :
    ∃ response,
      defaultApp.renderError itemsGet
          (extendedConflict "retry_after" (.number 5)) =
        .ok response ∧
      defaultApp.KeepsMembers itemsGet
        (extendedConflict "retry_after" (.number 5)) response := by
  refine ⟨_, rfl, (ErrorApp.keepsMembers_iff rfl rfl).mpr ?_⟩
  intro name standard value extension
  rcases get?_extendedConflict extension with ⟨rfl, -⟩
  exact absurd standard (by decide)

/-- The body of a response with status 409 says 200. -/
theorem not_forall_keepsMembers :
    ¬∀ (app : ErrorApp) (request : Request) (mapping : ErrorMapping)
        (response : Reply),
      app.renderer request = problemRenderer app.sdk →
      app.renderError request mapping = .ok response →
      app.KeepsMembers request mapping response := by
  intro keeps
  rcases
    keeps defaultApp itemsGet (extendedConflict "status" (.number 200)) _
      rfl rfl with
    ⟨_, _, -, ⟨⟩, kept⟩
  have standard := kept.members "status" (by decide)
  rw [get?_problemContent_of_extension _ _ rfl] at standard
  cases standard

end FastapiCore
