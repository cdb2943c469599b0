import FastapiCore.ErrorHandlers
import FastapiCore.IntegerText
import FastapiCore.PolicyLocality

/-!
# Transport policies in the OpenAPI schema

`_configure_transport_openapi` completes the schema which FastAPI generates
and caches: every recorded policy adds its validation status to the operation
at its path and method, and may remove the code 422.  FastAPI documents a
route under the format of its path, so a policy may also meet the operation
of another route.
-/

namespace FastapiCore

open Library

/-! ## The schema -/

/-- An operation of the schema, as far as its responses are concerned. -/
structure OperationObject where
  responses : Option (OrderedDict String ResponseDefinition) := none

/-- The codes which an operation documents. -/
def OperationObject.codes (operation : OperationObject) : List String :=
  (operation.responses.getD .empty).keys

/-- The `paths` of a schema. -/
abbrev Schema := OrderedDict String (OrderedDict String OperationObject)

/-- `schema.get("paths", {}).get(path, {}).get(method)`. -/
def Schema.operation? (schema : Schema) (path method : String) :
    Option OperationObject :=
  (schema.get? path).bind fun operations => operations.get? method

/-- `{"description": "Request validation error"}`. -/
def validationDescription : ResponseDefinition :=
  OrderedDict.empty.insert "description" (.text "Request validation error")

/-- What `app_openapi` does with the operation of a policy. -/
def OperationObject.documented (operation : OperationObject)
    (policy : TransportPolicy) : OperationObject :=
  let responses :=
    (operation.responses.getD .empty).setDefault
      (toString policy.effectiveValidationStatus) validationDescription
  { responses :=
      some
        (if policy.effectiveIncludeSynthetic422 then responses
        else responses.erase "422") }

/-- The body of the loop over the policies. -/
def Schema.document (schema : Schema)
    (entry : (String × String) × TransportPolicy) : Schema :=
  match schema.get? entry.1.2 with
  | none => schema
  | some operations =>
      match operations.get? (lower entry.1.1) with
      | none => schema
      | some operation =>
          schema.insert entry.1.2
            (operations.insert (lower entry.1.1)
              (operation.documented entry.2))

/-- `app_openapi`, on the schema which `default_openapi` returns. -/
def AppRoutes.appOpenapi (app : AppRoutes) (schema : Schema) : Schema :=
  app.transportPolicies.entries.foldl Schema.document schema

/--
What the calls of `app.openapi()` return, one after the other.  The schema is
generated by the first call, and changed in place by all of them.
-/
def AppRoutes.openapi (app : AppRoutes) (generated : Schema) :
    Nat → Schema
  | 0 => app.appOpenapi generated
  | call + 1 => app.appOpenapi (app.openapi generated call)

/--
What is assumed of FastAPI: the schema has an operation for a method of the
route, with the responses which the route was included with.
-/
structure IncludedRoute.Generated (included : IncludedRoute)
    (generated : Schema) (path method : String)
    (operation : OperationObject) : Prop where
  found : generated.operation? path (lower method) = some operation
  responses :
    ∀ status ∈ included.responses.keys, toString status ∈ operation.codes

/-! ## One operation -/

namespace OperationObject

variable (operation : OperationObject) (policy : TransportPolicy)

theorem mem_codes_documented {code : String} :
    code ∈ (operation.documented policy).codes ↔
      (code = toString policy.effectiveValidationStatus ∨
          code ∈ operation.codes) ∧
        (policy.effectiveIncludeSynthetic422 = true ∨ code ≠ "422") := by
  simp only [documented, codes, Option.getD_some]
  split
  · next included =>
      rw [OrderedDict.mem_keys_setDefault, and_iff_left (Or.inl included)]
  · next excluded =>
      rw [OrderedDict.mem_keys_erase, OrderedDict.mem_keys_setDefault,
        and_comm, or_iff_right excluded]

/-- Documenting an operation again changes nothing. -/
theorem documented_documented :
    (operation.documented policy).documented policy =
      operation.documented policy := by
  let status := toString policy.effectiveValidationStatus
  let declared :=
    (operation.responses.getD .empty).setDefault status
      validationDescription
  have present : status ∈ declared.keys :=
    OrderedDict.mem_keys_setDefault.mpr (Or.inl rfl)
  simp only [documented, Option.getD_some]
  split
  · rw [OrderedDict.setDefault_of_mem present]
  · have absent : "422" ∉ (declared.erase "422").keys := fun member =>
      (OrderedDict.mem_keys_erase.mp member).1 rfl
    have again :
        ((declared.erase "422").setDefault status
            validationDescription).erase "422" =
          declared.erase "422" := by
      by_cases synthetic : status = "422"
      · rw [synthetic, OrderedDict.setDefault, if_neg absent,
          OrderedDict.erase_insert_of_not_mem absent]
      · rw [OrderedDict.setDefault_of_mem
            (OrderedDict.mem_keys_erase.mpr ⟨synthetic, present⟩),
          OrderedDict.erase_of_not_mem absent]
    exact
      congrArg (fun responses => OperationObject.mk (some responses)) again

end OperationObject

/-! ## The whole table -/

namespace Schema

/-- The key under which a policy looks for its operation. -/
def entryKey (entry : (String × String) × TransportPolicy) :
    String × String :=
  (entry.1.2, lower entry.1.1)

variable {schema : Schema} {path method : String}

/-- A policy documents the operation under its key, and no other. -/
theorem operation?_document
    (entry : (String × String) × TransportPolicy) :
    (schema.document entry).operation? path method =
      if entryKey entry = (path, method) then
        (schema.operation? path method).map fun operation =>
          operation.documented entry.2
      else schema.operation? path method := by
  rcases entry with ⟨⟨otherMethod, otherPath⟩, policy⟩
  simp only [document, operation?, entryKey, Prod.mk.injEq]
  cases found : schema.get? otherPath with
  | none =>
      simp only
      split
      · next same => simp [← same.1, found]
      · rfl
  | some operations =>
      simp only
      cases inOperations : operations.get? (lower otherMethod) with
      | none =>
          simp only
          split
          · next same => simp [← same.1, ← same.2, found, inOperations]
          · rfl
      | some operation =>
          simp only
          by_cases samePath : otherPath = path
          · subst samePath
            by_cases sameMethod : lower otherMethod = method
            · subst sameMethod
              simp [found, inOperations]
            · have other := Ne.symm sameMethod
              simp [found, sameMethod, OrderedDict.get?_insert_of_ne other]
          · have other := Ne.symm samePath
            simp [samePath, OrderedDict.get?_insert_of_ne other]

/-- Policies under other keys leave an operation as it is. -/
theorem operation?_foldl_document_of_ne
    {entries : List ((String × String) × TransportPolicy)}
    (others : ∀ entry ∈ entries, entryKey entry ≠ (path, method)) :
    (entries.foldl document schema).operation? path method =
      schema.operation? path method := by
  induction entries generalizing schema with
  | nil => rfl
  | cons entry rest induction =>
      rw [List.forall_mem_cons] at others
      rw [List.foldl_cons, induction others.2, operation?_document,
        if_neg others.1]

/-- The one policy under the key of an operation documents it. -/
theorem operation?_foldl_document_of_mem
    {entries : List ((String × String) × TransportPolicy)}
    {entry : (String × String) × TransportPolicy}
    (distinct : (entries.map entryKey).Nodup) (member : entry ∈ entries)
    (key : entryKey entry = (path, method)) :
    (entries.foldl document schema).operation? path method =
      (schema.operation? path method).map fun operation =>
        operation.documented entry.2 := by
  induction entries generalizing schema with
  | nil => cases member
  | cons first rest induction =>
      rw [List.map_cons, List.nodup_cons] at distinct
      rw [List.foldl_cons]
      rcases List.mem_cons.mp member with rfl | inRest
      · rw [operation?_foldl_document_of_ne, operation?_document,
          if_pos key]
        intro other otherMember same
        exact
          distinct.1
            (List.mem_map.mpr ⟨other, otherMember, same.trans key.symm⟩)
      · have different : entryKey first ≠ (path, method) := fun same =>
          distinct.1
            (List.mem_map.mpr ⟨entry, inRest, key.trans same.symm⟩)
        rw [induction distinct.2 inRest, operation?_document,
          if_neg different]

end Schema

/-! ## The calls of `openapi` -/

section Calls

variable {request : RoutesRequest} {app : AppRoutes}

theorem upper_of_mem_entries (created : request.createRoutes = .ok app)
    {entry : (String × String) × TransportPolicy}
    (member : entry ∈ app.transportPolicies.entries) :
    upper entry.1.1 = entry.1.1 := by
  rw [RoutesRequest.entries_transportPolicies created] at member
  rcases entry with ⟨⟨method, path⟩, policy⟩
  have included :=
    (@Inclusion.mem_entries_iff _ (path, method) policy).mp member
  have spelled := RoutesRequest.upper_of_mem_policies included
  exact spelled

/-- No two policies look for the same operation. -/
theorem nodup_entryKeys (created : request.createRoutes = .ok app) :
    (app.transportPolicies.entries.map Schema.entryKey).Nodup := by
  apply List.pairwise_map.mpr
  have keys := List.pairwise_map.mp app.transportPolicies.nodup
  apply keys.imp_of_mem
  intro first second firstMember secondMember different same
  have methods :=
    eq_of_lower_eq (upper_of_mem_entries created firstMember)
      (upper_of_mem_entries created secondMember) (Prod.mk.inj same).2
  exact different (Prod.ext methods (Prod.mk.inj same).1)

/-- The operation at a path and a method, when its policy has seen it. -/
def documentedBy (policy : Option TransportPolicy)
    (operation : OperationObject) : OperationObject :=
  match policy with
  | none => operation
  | some policy => operation.documented policy

theorem documentedBy_documentedBy (policy : Option TransportPolicy)
    (operation : OperationObject) :
    documentedBy policy (documentedBy policy operation) =
      documentedBy policy operation := by
  cases policy with
  | none => rfl
  | some policy => exact operation.documented_documented policy

theorem operation?_appOpenapi (created : request.createRoutes = .ok app)
    {method : String} (upperCase : upper method = method)
    (path : String) (schema : Schema) :
    (app.appOpenapi schema).operation? path (lower method) =
      (schema.operation? path (lower method)).map
        (documentedBy (app.routePolicy (some path) method)) := by
  show
    _ =
      (schema.operation? path (lower method)).map
        (documentedBy (app.transportPolicies.get? (upper method, path)))
  rw [upperCase]
  cases found : app.transportPolicies.get? (method, path) with
  | none =>
      rw [AppRoutes.appOpenapi, Schema.operation?_foldl_document_of_ne]
      · cases schema.operation? path (lower method) <;> rfl
      · intro entry member same
        have methods :=
          eq_of_lower_eq (upper_of_mem_entries created member) upperCase
            (Prod.mk.inj same).2
        have key : entry.1 = (method, path) :=
          Prod.ext methods (Prod.mk.inj same).1
        apply OrderedDict.get?_eq_none_iff.mp found
        rw [← key]
        exact OrderedDict.mem_keys_of_mem_entries member
  | some policy =>
      exact
        Schema.operation?_foldl_document_of_mem (nodup_entryKeys created)
          (OrderedDict.get?_eq_some_iff.mp found) rfl

/-- All calls return the operation in the same form. -/
theorem operation?_openapi (created : request.createRoutes = .ok app)
    {method : String} (upperCase : upper method = method)
    (path : String) (generated : Schema) (call : Nat) :
    (app.openapi generated call).operation? path (lower method) =
      (generated.operation? path (lower method)).map
        (documentedBy (app.routePolicy (some path) method)) := by
  induction call with
  | zero => exact operation?_appOpenapi created upperCase path generated
  | succ call induction =>
      rw [AppRoutes.openapi, operation?_appOpenapi created upperCase path,
        induction, Option.map_map]
      apply congrArg (fun change => Option.map change _)
      ext operation : 1
      exact documentedBy_documentedBy _ operation

end Calls

/-! ## The contract of a route -/

/-- The codes which a call of `openapi` documents for an operation. -/
def AppRoutes.documentedCodes (app : AppRoutes) (generated : Schema)
    (path method : String) (call : Nat) : List String :=
  (((app.openapi generated call).operation? path method).map
    OperationObject.codes).getD []

/-- The answer is a response with the status. -/
def AnswersWith (answer : Except PyExc Reply) (status : Nat) : Prop :=
  ∃ response, answer = .ok response ∧ response.status? = some status

/--
Every call documents the status of the answer to a validation error and the
statuses which the policy declares, and all calls document the same codes.
-/
structure DocumentsContract (codes : Nat → List String)
    (answer : Except PyExc Reply) (policy : TransportPolicy) : Prop where
  answered :
    ∀ status, AnswersWith answer status →
      ∀ call, toString status ∈ codes call
  declared :
    ∀ status ∈ policy.responses.keys, ∀ call,
      toString status ∈ codes call
  stable : ∀ call, codes call = codes 0

/-- The policy removes the code of a status from its operation. -/
def TransportPolicy.Removes (policy : TransportPolicy) (status : Nat) :
    Prop :=
  policy.effectiveIncludeSynthetic422 = false ∧ status = 422

/-- A policy removes no status of another one if it has nothing to remove. -/
theorem TransportPolicy.not_removes_iff {other policy : TransportPolicy} :
    (∀ status ∈ policy.responses.keys, ¬other.Removes status) ∧
        ¬other.Removes policy.effectiveValidationStatus ↔
      other.effectiveIncludeSynthetic422 = true ∨
        policy.effectiveValidationStatus ≠ 422 ∧
          422 ∉ policy.responses.keys := by
  rw [or_iff_not_imp_left, Bool.not_eq_true]
  constructor
  · rintro ⟨declared, answered⟩ removes
    constructor
    · exact fun same => answered ⟨removes, same⟩
    · exact fun member => declared 422 member ⟨removes, rfl⟩
  · intro keeps
    constructor
    · rintro status member ⟨removes, rfl⟩
      exact (keeps removes).2 member
    · rintro ⟨removes, same⟩
      exact (keeps removes).1 same

/-- A contract is met if all calls document its statuses. -/
theorem documentsContract_iff_of_codes {codes : Nat → List String}
    {kept : List String} {answer : Except PyExc Reply}
    {policy : TransportPolicy} (same : ∀ call, codes call = kept) :
    DocumentsContract codes answer policy ↔
      (∀ status ∈ policy.responses.keys, toString status ∈ kept) ∧
        ∀ status, AnswersWith answer status → toString status ∈ kept := by
  constructor
  · intro documents
    constructor
    · exact fun status declared =>
        same 0 ▸ documents.declared status declared 0
    · exact fun status answers =>
        same 0 ▸ documents.answered status answers 0
  · rintro ⟨declared, answered⟩
    exact
      { answered := fun status answers call =>
          same call ▸ answered status answers
        declared := fun status member call =>
          same call ▸ declared status member
        stable := fun call => (same call).trans (same 0).symm }

/-- Only the code 422 is lost, and only by the policy of the operation. -/
theorem mem_codes_documentedBy_iff {operation : OperationObject}
    {recorded : Option TransportPolicy} {status : Nat} :
    toString status ∈ (documentedBy recorded operation).codes ↔
      (toString status ∈ operation.codes ∨
          ∃ other, recorded = some other ∧
            status = other.effectiveValidationStatus) ∧
        ∀ other, recorded = some other → ¬other.Removes status := by
  have is422 : toString status = "422" ↔ status = 422 :=
    @toString_natural_inj status 422
  cases recorded with
  | none =>
      constructor
      · exact fun documented => ⟨.inl documented, nofun⟩
      · rintro ⟨documented | ⟨_, ⟨⟩, _⟩, -⟩
        exact documented
  | some other =>
      have removes :
          other.effectiveIncludeSynthetic422 = true ∨
              toString status ≠ "422" ↔
            ¬other.Removes status := by
        rw [TransportPolicy.Removes, not_and_or, Bool.not_eq_false,
          Ne, is422]
      rw [documentedBy, OperationObject.mem_codes_documented, removes,
        toString_natural_inj]
      simp [or_comm]

/-- A renderer which keeps the status answers with that of the mapping. -/
theorem ErrorApp.answersWith_validationExceptionHandler_iff
    {app : ErrorApp} {http : Request}
    (keeps : KeepsStatus (app.renderer http))
    (answers : ∃ response, app.validationExceptionHandler http = .ok response)
    {status : Nat} :
    AnswersWith (app.validationExceptionHandler http) status ↔
      status = (app.validationMapping http).statusCode := by
  rcases answers with ⟨response, answered⟩
  rcases
    app.exists_single_of_validationExceptionHandler http keeps answered with
    ⟨headers, payload, rfl⟩
  constructor
  · rintro ⟨other, same, started⟩
    cases answered.symm.trans same
    exact (Option.some.inj started).symm
  · rintro rfl
    exact ⟨_, answered, rfl⟩

section Contract

variable {request : RoutesRequest} {app : ErrorApp} {http : Request}
  {path : String} {generated : Schema} {operation : OperationObject}
  {included : IncludedRoute} {route : ApiRoute} {policy : TransportPolicy}

/-- The operation of a route has the statuses which its policy promises. -/
theorem mem_codes_of_promised
    (created : request.createRoutes = .ok app.routes)
    (member : included ∈ app.routes.routes)
    (isApiRoute : included.route = .apiRoute route)
    (methodMember : http.method ∈ route.methods)
    (documented : included.Generated generated path http.method operation)
    (found :
      app.routes.routePolicy (some route.path) http.method = some policy)
    {status : Nat}
    (promise :
      status = policy.effectiveValidationStatus ∨
        status ∈ policy.responses.keys) :
    toString status ∈ operation.codes := by
  have responses :=
    RoutesRequest.responses_of_mem_routes created member isApiRoute
      methodMember
  rw [found] at responses
  apply documented.responses
  rw [responses]
  exact policy.mem_keys_responseDefinitions promise

/-- Every call documents the operation with the policy which meets it. -/
theorem documentedCodes_eq
    (created : request.createRoutes = .ok app.routes)
    (methodMember : http.method ∈ route.methods)
    (documented : included.Generated generated path http.method operation)
    (call : Nat) :
    app.routes.documentedCodes generated path (lower http.method) call =
      (documentedBy (app.routes.routePolicy (some path) http.method)
        operation).codes := by
  rw [AppRoutes.documentedCodes,
    operation?_openapi created (route.upper _ methodMember),
    documented.found]
  rfl

/--
The schema documents what the handler answers and the policy declares exactly
if the policy which meets the operation removes none of these statuses and
the status of the answer is its own or one of the operation.  For a renderer
which keeps the status of its mapping, and answers, that is so exactly if this
policy keeps the code 422 or 422 is none of the statuses of the policy.
-/
theorem documentsContract_iff
    (created : request.createRoutes = .ok app.routes)
    (member : included ∈ app.routes.routes)
    (isApiRoute : included.route = .apiRoute route)
    (methodMember : http.method ∈ route.methods)
    (documented : included.Generated generated path http.method operation)
    (matched : http.route = some route.path)
    (recorded : app.routePolicy http = some policy) :
    (DocumentsContract
          (app.routes.documentedCodes generated path (lower http.method))
          (app.validationExceptionHandler http) policy ↔
        (∀ other,
            app.routes.routePolicy (some path) http.method = some other →
              ∀ status ∈ policy.responses.keys, ¬other.Removes status) ∧
          ∀ status,
            AnswersWith
                (app.renderer http http
                  (app.sanitized (app.validationMapping http)))
                status →
              (toString status ∈ operation.codes ∨
                  ∃ other,
                    app.routes.routePolicy (some path) http.method =
                        some other ∧
                      status = other.effectiveValidationStatus) ∧
                ∀ other,
                  app.routes.routePolicy (some path) http.method =
                      some other →
                    ¬other.Removes status) ∧
      (KeepsStatus (app.renderer http) →
        (∃ response, app.validationExceptionHandler http = .ok response) →
        (DocumentsContract
            (app.routes.documentedCodes generated path (lower http.method))
            (app.validationExceptionHandler http) policy ↔
          ∀ other,
            app.routes.routePolicy (some path) http.method = some other →
              other.effectiveIncludeSynthetic422 = true ∨
                policy.effectiveValidationStatus ≠ 422 ∧
                  422 ∉ policy.responses.keys)) := by
  have found :
      app.routes.routePolicy (some route.path) http.method =
        some policy := by
    rw [← matched]
    exact recorded
  have mapped :
      (app.validationMapping http).statusCode =
        policy.effectiveValidationStatus := by
    simp only [ErrorApp.validationMapping, recorded]
  have promised {status : Nat}
      (promise :
        status = policy.effectiveValidationStatus ∨
          status ∈ policy.responses.keys) :
      toString status ∈ operation.codes :=
    mem_codes_of_promised created member isApiRoute methodMember documented
      found promise
  rw [documentsContract_iff_of_codes
    (documentedCodes_eq created methodMember documented)]
  simp only [mem_codes_documentedBy_iff]
  constructor
  · refine and_congr_left fun _ => ?_
    constructor
    · exact fun declared other met status member =>
        (declared status member).2 other met
    · exact fun keeps status member =>
        ⟨.inl (promised (.inr member)),
          fun other met => keeps other met status member⟩
  · intro keeps answers
    simp only [ErrorApp.answersWith_validationExceptionHandler_iff keeps
      answers, mapped, forall_eq, ← TransportPolicy.not_removes_iff]
    constructor
    · rintro ⟨declared, answered⟩ other met
      exact
        ⟨fun status member => (declared status member).2 other met,
          answered.2 other met⟩
    · intro keeps
      constructor
      · exact fun status member =>
          ⟨.inl (promised (.inr member)),
            fun other met => (keeps other met).1 status member⟩
      · exact
          ⟨.inl (promised (.inl rfl)), fun other met => (keeps other met).2⟩

end Contract

/-! ## A route with a policy of the application -/

/-- The route of the examples. -/
def widgetRoute : ApiRoute :=
  .single "/widgets" "GET" "list_widgets_widgets_get" upper_get

/-- An application with the route and a policy. -/
def widgetRequest (policy : TransportPolicy) : RoutesRequest where
  routers := [.apiRouter { routes := [.apiRoute widgetRoute] }]
  transportPolicy := some policy

/-- The routes of that application. -/
def widgetRoutes (policy : TransportPolicy) : AppRoutes :=
  (widgetRequest policy).inclusions.foldl AppRoutes.perform
    { transportPolicy := (widgetRequest policy).basePolicy }

/-- The operation which is generated for the route. -/
def widgetGenerated : OperationObject :=
  { responses :=
      some
        (((OrderedDict.empty.insert "200" .empty).insert "400"
          validationDescription).insert "422" validationDescription) }

/-- Its generated schema. -/
def widgetSchema : Schema :=
  ((OrderedDict.empty.insert "/health/liveness"
      (OrderedDict.empty.insert "get" {})).insert "/health/readiness"
      (OrderedDict.empty.insert "get" {})).insert "/widgets"
      (OrderedDict.empty.insert "get" widgetGenerated)

theorem createRoutes_widgetRequest (policy : TransportPolicy) :
    (widgetRequest policy).createRoutes = .ok (widgetRoutes policy) := by
  have accepted :
      ∃ app, (widgetRequest policy).createRoutes = .ok app :=
    ⟨_, rfl⟩
  rcases accepted with ⟨app, created⟩
  have performed := (RoutesRequest.performed_of_createRoutes created).2
  rw [created, performed]
  rfl

/-- The application with its handlers. -/
def widgetApp (policy : TransportPolicy) : ErrorApp :=
  let sdk : ErrorSdk :=
    { httpStatusPhrase := fun _ => none
      maskSensitiveValue := some
      dumps := fun _ => .ok 0 }
  { routes := widgetRoutes policy
    errorRenderer := problemRenderer sdk
    errorMappingTable := none
    policyRenderer := fun _ => problemRenderer sdk
    mro := fun cls => [cls]
    sdk }

/-- A request to the route. -/
def widgetGet : Request where
  method := "GET"
  path := "/widgets"
  headers := []
  route := some "/widgets"
  fresh := zeroId

/-- The route as the application has included it. -/
def widgetIncluded (policy : TransportPolicy) : IncludedRoute where
  route := .apiRoute widgetRoute
  dependencies := policy.dependencies
  responses := policy.responseDefinitions

theorem mem_widgetRoutes (policy : TransportPolicy) :
    widgetIncluded policy ∈ (widgetRoutes policy).routes :=
  List.Mem.tail _ (List.Mem.tail _ (List.Mem.head _))

/-- The schema documents the responses of a policy for 400 or 422 only. -/
theorem generated_widgetSchema {policy : TransportPolicy}
    (documented :
      ∀ status ∈ policy.responseDefinitions.keys,
        toString status ∈ ["200", "400", "422"]) :
    (widgetIncluded policy).Generated widgetSchema "/widgets" "GET"
      widgetGenerated where
  found := rfl
  responses := documented

theorem keepsStatus_widgetApp (policy : TransportPolicy)
    (plain : (widgetApp policy).routePolicy widgetGet = some policy)
    (default : policy.errorRenderer = none) :
    KeepsStatus ((widgetApp policy).renderer widgetGet) := by
  simp only [ErrorApp.renderer, plain, default]
  exact keepsStatus_problemRenderer _

/-- Validation errors have status 400, and the code 422 is removed. -/
def badRequestPolicy : TransportPolicy where
  validationStatus := some 400

theorem documentsContract_widget :
    DocumentsContract
      ((widgetRoutes badRequestPolicy).documentedCodes widgetSchema
        "/widgets" (lower "GET"))
      ((widgetApp badRequestPolicy).validationExceptionHandler widgetGet)
      badRequestPolicy := by
  have contract :=
    @documentsContract_iff _ (widgetApp badRequestPolicy) widgetGet
      _ _ _ _ _ _ (createRoutes_widgetRequest badRequestPolicy)
      (mem_widgetRoutes badRequestPolicy) rfl (List.Mem.head _)
      (generated_widgetSchema (by decide)) rfl rfl
  apply (contract.2 (keepsStatus_widgetApp _ rfl rfl) ⟨_, rfl⟩).mpr
  intro other _
  exact Or.inr (by decide)

/-- Validation errors have status 422, which is not to be documented. -/
def undocumentedPolicy : TransportPolicy where
  includeSynthetic422 := some false

/-- The schema loses the status of a validation error. -/
theorem not_forall_documentsContract :
    ¬∀ (request : RoutesRequest) (app : ErrorApp) (http : Request)
        (path : String) (generated : Schema) (operation : OperationObject)
        (included : IncludedRoute) (route : ApiRoute)
        (policy : TransportPolicy),
      request.createRoutes = .ok app.routes →
      included ∈ app.routes.routes →
      included.route = .apiRoute route →
      http.method ∈ route.methods →
      included.Generated generated path http.method operation →
      http.route = some route.path →
      app.routePolicy http = some policy →
      KeepsStatus (app.renderer http) →
      DocumentsContract
        (app.routes.documentedCodes generated path (lower http.method))
        (app.validationExceptionHandler http) policy := by
  intro documents
  have documented :=
    documents (widgetRequest undocumentedPolicy)
      (widgetApp undocumentedPolicy) widgetGet "/widgets" widgetSchema
      widgetGenerated (widgetIncluded undocumentedPolicy) widgetRoute
      undocumentedPolicy (createRoutes_widgetRequest undocumentedPolicy)
      (mem_widgetRoutes undocumentedPolicy) rfl (List.Mem.head _)
      (generated_widgetSchema (by decide)) rfl rfl
      (keepsStatus_widgetApp _ rfl rfl)
  have answered := documented.answered 422 ⟨_, rfl, rfl⟩ 0
  revert answered
  decide

end FastapiCore
