import FastapiCore.OpenApiPasses
import FastapiCore.OpenApiSchemaPaths

/-!
# The schema which is served

All calls of `app.openapi()` return the generated schema with the token URL
set and the codes of the policies documented.  They refine the table of
operations and codes which the contract of a route is about, and touch
nothing but these members.
-/

namespace FastapiCore

open Library
open Library.JsonTree

/-! ## The operations and their codes -/

/-- A document has the operations of a table, with the same codes. -/
def Represents (tree : JsonTree) (schema : Schema) : Prop :=
  ∀ path name,
    codesAt tree path name =
      (schema.operation? path name).map OperationObject.codes

/-- The codes of an operation after a policy has been documented. -/
def TransportPolicy.documentedCodes (policy : TransportPolicy)
    (codes : List String) : List String :=
  let status := toString policy.effectiveValidationStatus
  let declared := if status ∈ codes then codes else codes ++ [status]
  if policy.effectiveIncludeSynthetic422 then declared
  else declared.filter fun code => code ≠ "422"

section Codes

variable {policy : TransportPolicy}

theorem mem_documentedCodes_iff {codes : List String} {code : String} :
    code ∈ policy.documentedCodes codes ↔
      (code = toString policy.effectiveValidationStatus ∨ code ∈ codes) ∧
        (policy.effectiveIncludeSynthetic422 = true ∨ code ≠ "422") := by
  have declared :
      (code ∈
          if toString policy.effectiveValidationStatus ∈ codes then codes
          else codes ++ [toString policy.effectiveValidationStatus]) ↔
        code = toString policy.effectiveValidationStatus ∨
          code ∈ codes := by
    split
    · next present =>
        exact ⟨.inr, fun either => either.elim (· ▸ present) id⟩
    · simp [or_comm]
  simp only [TransportPolicy.documentedCodes]
  split
  · next included => simp only [declared, included, true_or, and_true]
  · next excluded =>
      simp only [List.mem_filter, declared, or_iff_right excluded,
        decide_eq_true_eq]

theorem codes_documented (operation : OperationObject) :
    (operation.documented policy).codes =
      policy.documentedCodes operation.codes := by
  have declared (responses : OrderedDict String ResponseDefinition) :
      (responses.setDefault (toString policy.effectiveValidationStatus)
          validationDescription).keys =
        if toString policy.effectiveValidationStatus ∈ responses.keys then
          responses.keys
        else
          responses.keys ++ [toString policy.effectiveValidationStatus] := by
    simp only [OrderedDict.setDefault]
    split
    · exact Eq.refl _
    · next absent => exact OrderedDict.keys_insert_of_not_mem absent _
  simp only [OperationObject.documented, OperationObject.codes,
    Option.getD_some, TransportPolicy.documentedCodes]
  split
  · exact declared _
  · exact (OrderedDict.keys_erase _ _).trans (congrArg _ (declared _))

theorem memberNames_documentResponses (responses : Members) :
    memberNames (documentResponses policy responses) =
      policy.documentedCodes (memberNames responses) := by
  have declared (status : String) :
      memberNames (setDefaultMember status validationObject responses) =
        if status ∈ memberNames responses then memberNames responses
        else memberNames responses ++ [status] := by
    simp only [setDefaultMember]
    split
    · exact Eq.refl _
    · exact List.map_append
  simp only [documentResponses, TransportPolicy.documentedCodes,
    ← declared]
  split
  · exact Eq.refl _
  · simp only [memberNames, popMember, List.filter_map, Function.comp_def]

theorem responseKeys_documentMembers {operation : Members}
    (holds : HoldsObject operation "responses") :
    responseKeys (documentMembers policy operation) =
      policy.documentedCodes (responseKeys operation) := by
  rcases exists_responses holds with ⟨responses, declared⟩
  have before : memberNames responses = responseKeys operation := by
    simp only [responseKeys, objectMember]
    by_cases present : "responses" ∈ memberNames operation
    · simp only [setDefaultMember_of_mem present] at declared
      simp only [declared]
    · have absent := lookup_eq_none_of_not_mem present
      simp only [setDefaultMember, present, if_false, List.lookup_append,
        absent, Option.none_or, List.lookup_cons_self, Option.some.injEq,
        JsonTree.object.injEq] at declared
      simp only [absent, ← declared]
  have after :
      (documentMembers policy operation).lookup "responses" =
        some (.object (documentResponses policy responses)) := by
    simp only [documentMembers, lookup_alterMember_self, declared,
      Option.map_some, onObject]
  simp only [responseKeys, objectMember, after,
    memberNames_documentResponses, before]

end Codes

/-! ## The refinement -/

section Refinement

variable {policies : OrderedDict (String × String) TransportPolicy}
  {tree : JsonTree} {schema : Schema}

/-- The codes of an operation whose members have changed. -/
theorem codesAt_alterAt {path name : String} {change : Members → Members} :
    codesAt (tree.alterAt ["paths", path, name] (onObject change)) path
        name =
      match tree.at? ["paths", path, name] with
      | some (.object operation) => some (responseKeys (change operation))
      | _ => none := by
  simp only [codesAt, at?_alterAt_self]
  cases tree.at? ["paths", path, name] with
  | none => exact Eq.refl _
  | some value => cases value <;> exact Eq.refl _

/-- A policy does to a document what it does to the table. -/
theorem Represents.document (represents : Represents tree schema)
    (shape : Documentable policies tree)
    {entry : (String × String) × TransportPolicy}
    (member : entry ∈ policies.entries) :
    Represents
      (tree.alterAt (operationPath entry)
        (onObject (documentMembers entry.2)))
      (schema.document entry) := by
  intro path name
  have before := represents path name
  simp only [Schema.operation?_document]
  split
  · next same =>
      have here : operationPath entry = ["paths", path, name] := by
        simp only [operationPath, ← (Prod.mk.inj same).1,
          ← (Prod.mk.inj same).2]
      have holds := shape.responses entry member
      simp only [here] at holds ⊢
      simp only [codesAt_alterAt, Option.map_map]
      simp only [codesAt] at before
      cases found : tree.at? ["paths", path, name] with
      | none =>
          simp only [found] at before
          simp only [Option.map_eq_none_iff.mp before.symm, Option.map_none]
      | some value =>
          simp only [found] at before
          cases value with
          | scalar scalar =>
              simp only [Option.map_eq_none_iff.mp before.symm,
                Option.map_none]
          | array items =>
              simp only [Option.map_eq_none_iff.mp before.symm,
                Option.map_none]
          | object operation =>
              rcases Option.map_eq_some_iff.mp before.symm with
                ⟨abstract, present, codes⟩
              simp only [present, Option.map_some, Function.comp_apply,
                responseKeys_documentMembers (holds operation found),
                codes_documented, codes]
  · next different =>
      have apart : Apart (operationPath entry) ["paths", path, name] := by
        by_cases same : entry.1.2 = path
        · have methods : lower entry.1.1 ≠ name := fun equal =>
            different (Prod.ext same equal)
          exact Or.inr (.inr (.inl methods))
        · exact Or.inr (.inl same)
      simpa only [codesAt, at?_alterAt_of_apart apart] using before

theorem Represents.alterAll (represents : Represents tree schema)
    (shape : Documentable policies tree)
    {entries : List ((String × String) × TransportPolicy)}
    (among : ∀ entry ∈ entries, entry ∈ policies.entries) :
    Represents (JsonTree.alterAll (entries.map documentStep) tree)
      (entries.foldl Schema.document schema) := by
  induction entries generalizing tree schema with
  | nil => exact represents
  | cons entry rest induction =>
      rcases List.forall_mem_cons.mp among with ⟨first, others⟩
      exact induction (represents.document shape first)
        (shape.document entry first) others

/-- The token URL is nothing to the table. -/
theorem Represents.assignTokenUrl (represents : Represents tree schema)
    (change : JsonTree → JsonTree) :
    Represents (tree.alterAt passwordFlowPath change) schema := by
  intro path name
  have apart : Apart passwordFlowPath ["paths", path, name] :=
    .of_ne (by decide)
  simpa only [codesAt, at?_alterAt_of_apart apart] using
    represents path name

theorem Represents.openapiSteps (represents : Represents tree schema)
    (shape : Documentable policies tree) (tokenUrl : String) :
    Represents (JsonTree.alterAll (openapiSteps tokenUrl policies) tree)
      (policies.entries.foldl Schema.document schema) :=
  (represents.assignTokenUrl _).alterAll (shape.assignTokenUrl _)
    fun _ member => member

end Refinement

/-! ## What is left as it is -/

/-- A path to no member which the passes set or remove. -/
structure Untouched
    (policies : OrderedDict (String × String) TransportPolicy)
    (path : List String) : Prop where
  tokenUrl : Apart (passwordFlowPath ++ ["tokenUrl"]) path
  status :
    ∀ entry ∈ policies.entries,
      Apart
        (operationPath entry ++
          ["responses", toString entry.2.effectiveValidationStatus])
        path
  synthetic :
    ∀ entry ∈ policies.entries,
      Apart (operationPath entry ++ ["responses", "422"]) path

section Spares

variable {policy : TransportPolicy} {path : List String}

theorem spares_onObject {change : Members → Members} {name : String}
    {rest : List String}
    (same : ∀ members,
      ((change members).lookup name).bind (at? rest) =
        (members.lookup name).bind (at? rest)) :
    Spares (onObject change) (name :: rest) := by
  intro value
  cases value with
  | scalar scalar => exact Eq.refl _
  | array items => exact Eq.refl _
  | object members => exact same members

theorem spares_setMember {value : JsonTree} {name : String}
    (apart : Apart [name] path) :
    Spares (onObject (setMember name value)) path := by
  cases path with
  | nil => cases apart
  | cons other rest =>
      have different : other ≠ name :=
        (apart.resolve_right fun deeper => deeper).symm
      apply spares_onObject
      intro members
      simp only [lookup_setMember_of_ne different]

theorem spares_documentResponses
    (status : Apart [toString policy.effectiveValidationStatus] path)
    (synthetic : Apart ["422"] path) :
    Spares (onObject (documentResponses policy)) path := by
  cases path with
  | nil => cases status
  | cons code rest =>
      have notStatus := (status.resolve_right fun deeper => deeper).symm
      have notSynthetic :=
        (synthetic.resolve_right fun deeper => deeper).symm
      apply spares_onObject
      intro responses
      simp only [documentResponses]
      split
      · simp only [lookup_setDefaultMember_of_ne notStatus]
      · simp only [lookup_popMember_of_ne notSynthetic,
          lookup_setDefaultMember_of_ne notStatus]

theorem spares_documentMembers
    (status :
      Apart ["responses", toString policy.effectiveValidationStatus] path)
    (synthetic : Apart ["responses", "422"] path) :
    Spares (onObject (documentMembers policy)) path := by
  cases path with
  | nil => cases status
  | cons name rest =>
      apply spares_onObject
      intro operation
      by_cases same : name = "responses"
      · subst same
        have below : Spares (onObject (documentResponses policy)) rest :=
          spares_documentResponses
            (status.resolve_left fun different => different (Eq.refl _))
            (synthetic.resolve_left fun different => different (Eq.refl _))
        simp only [documentMembers, lookup_alterMember_self]
        by_cases present : "responses" ∈ memberNames operation
        · simp only [setDefaultMember_of_mem present]
          cases operation.lookup "responses" with
          | none => exact Eq.refl _
          | some responses => exact below responses
        · have absent := lookup_eq_none_of_not_mem present
          have empty : at? rest (.object []) = none := by
            cases rest with
            | nil =>
                rcases status with different | deeper
                · exact absurd (Eq.refl _) different
                · cases deeper
            | cons code more => exact Eq.refl _
          simp only [setDefaultMember, present, if_false,
            List.lookup_append, absent, Option.none_or,
            List.lookup_cons_self, Option.map_some, Option.bind_some,
            Option.bind_none]
          exact (below (.object [])).trans empty
      · simp only [documentMembers, lookup_alterMember_of_ne same,
          lookup_setDefaultMember_of_ne same]

/-- The changes of a call leave everything else. -/
theorem spares_openapiSteps
    {policies : OrderedDict (String × String) TransportPolicy}
    (untouched : Untouched policies path) (tokenUrl : String) :
    ∀ step ∈ openapiSteps tokenUrl policies,
      Spares (alterAt step.1 step.2) path := by
  intro step member
  rcases List.mem_cons.mp member with rfl | later
  · rcases untouched.tokenUrl.split with early | ⟨rest, rfl⟩
    · exact fun tree => at?_alterAt_of_apart early
    · apply Spares.alterAt
      apply spares_setMember
      exact apart_append_iff.mp untouched.tokenUrl
  · rcases List.mem_map.mp later with ⟨entry, among, rfl⟩
    rcases (untouched.status entry among).split with early | ⟨rest, rfl⟩
    · exact fun tree => at?_alterAt_of_apart early
    · apply Spares.alterAt
      apply spares_documentMembers
      · exact apart_append_iff.mp (untouched.status entry among)
      · exact apart_append_iff.mp (untouched.synthetic entry among)

end Spares

/-! ## All calls -/

/-- What is served for a generated document. -/
structure ServedFrom (tokenUrl : String) (app : AppRoutes)
    (tree : JsonTree) (generated : Schema) (served : JsonTree) : Prop where
  tokenUrl :
    served.at? (passwordFlowPath ++ ["tokenUrl"]) =
      (tree.at? passwordFlowPath).map fun _ => .text tokenUrl
  operations : ∀ call, Represents served (app.openapi generated call)
  others :
    ∀ path, Untouched app.transportPolicies path →
      served.at? path = tree.at? path

section Served

variable {policies : OrderedDict (String × String) TransportPolicy}
  {tree : JsonTree} {tokenUrl : String}

theorem at?_tokenUrl_openapiSteps (shape : Documentable policies tree) :
    (alterAll (openapiSteps tokenUrl policies) tree).at?
        (passwordFlowPath ++ ["tokenUrl"]) =
      (tree.at? passwordFlowPath).map fun _ => .text tokenUrl := by
  have spared : ApartFrom (policies.entries.map documentStep)
      (passwordFlowPath ++ ["tokenUrl"]) := by
    intro step member
    rcases List.mem_map.mp member with ⟨entry, -, rfl⟩
    exact .of_ne (by decide)
  have first := at?_alterAll_of_apart spared
    (tree.alterAt passwordFlowPath
      (onObject (setMember "tokenUrl" (.text tokenUrl))))
  apply first.trans
  simp only [at?_append, at?_alterAt_self]
  cases found : tree.at? passwordFlowPath with
  | none => exact Eq.refl _
  | some value =>
      have flow : ∃ password, value = .object password := by
        have parts :=
          (at?_append
            ["components", "securitySchemes", "OAuth2PasswordBearer"]
            ["flows", "password"] tree).symm.trans found
        rcases Option.bind_eq_some_iff.mp parts with
          ⟨scheme, present, below⟩
        rcases shape.passwordFlow scheme present with rfl | ⟨password, same⟩
        · cases below
        · exact ⟨password, Option.some.inj (below.symm.trans same)⟩
      rcases flow with ⟨password, rfl⟩
      simp only [Option.map_some, Option.bind_some, onObject, at?,
        lookup_setMember_self]

/--
All calls return one schema, which documents what the table of operations
does after any call, and in which nothing else differs.
-/
theorem run_openapiCalls_of_created {request : RoutesRequest}
    {app : AppRoutes} {generated : Schema}
    (created : request.createRoutes = .ok app) (tokenUrl : String)
    (shape : Documentable app.transportPolicies tree)
    (represents : Represents tree generated) :
    ∃ served,
      (∀ call,
        (openapiCalls tokenUrl app.transportPolicies call).run tree =
          (.ok served, served)) ∧
        ServedFrom tokenUrl app tree generated served := by
  have distinct := nodup_entryKeys created
  refine ⟨_, run_openapiCalls tokenUrl distinct shape,
    at?_tokenUrl_openapiSteps shape, ?_, ?_⟩
  · intro call
    induction call with
    | zero => exact represents.openapiSteps shape tokenUrl
    | succ call induction =>
        have again :=
          induction.openapiSteps (shape.openapiSteps tokenUrl) tokenUrl
        have settled :=
          alterAll_alterAll (pairwise_apart_openapiSteps tokenUrl distinct)
            (fun _ => comp_self_of_mem_openapiSteps tokenUrl) tree
        simp only [settled] at again
        exact again
  · intro path untouched
    exact at?_alterAll_of_spares (spares_openapiSteps untouched tokenUrl)
      tree

end Served

/-! ## The document of an application -/

/-- The operation of the route, as it is generated. -/
def widgetOperation : Members :=
  [("operationId", .text "list_widgets_widgets_get"),
    ("responses",
      .object
        [("200", .object []), ("400", validationObject),
          ("422", .object [])])]

/-- The members of the generated document. -/
def widgetMembers : Members :=
  [("paths",
      .object
        [("/widgets", .object [("get", .object widgetOperation)])]),
    ("components",
      .object
        [("securitySchemes",
          .object
            [("OAuth2PasswordBearer",
              .object
                [("flows",
                  .object
                    [("password",
                      .object [("tokenUrl", .text "token")])])])])])]

/-- The table with the operation. -/
def widgetTable : Schema :=
  OrderedDict.empty.insert "/widgets"
    (OrderedDict.empty.insert "get"
      { responses :=
          some
            (((OrderedDict.empty.insert "200" .empty).insert "400"
              validationDescription).insert "422" .empty) })

theorem entries_widgetRoutes (policy : TransportPolicy) :
    (widgetRoutes policy).transportPolicies.entries =
      [(("GET", "/widgets"), policy)] :=
  Eq.refl _

theorem operationPath_widget (policy : TransportPolicy) :
    operationPath (("GET", "/widgets"), policy) =
      ["paths", "/widgets", "get"] := by
  have spelled : lower "GET" = "get" := by decide
  simp only [operationPath, spelled]

theorem documentable_widget
    {policies : OrderedDict (String × String) TransportPolicy}
    {policy : TransportPolicy}
    (entries : policies.entries = [(("GET", "/widgets"), policy)]) :
    Documentable policies (.object widgetMembers) where
  securitySchemes := by
    refine ⟨_, Eq.refl _, ?_⟩
    rintro _ ⟨⟩
    refine ⟨_, Eq.refl _, ?_⟩
    rintro _ ⟨⟩
    exact ⟨_, Eq.refl _⟩
  passwordFlow := by
    rintro _ ⟨⟩
    exact .inr ⟨_, Eq.refl _⟩
  operations := by
    intro entry member
    rw [entries] at member
    cases List.mem_singleton.mp member
    rw [operationPath_widget]
    refine ⟨_, Eq.refl _, ?_⟩
    rintro _ ⟨⟩
    refine ⟨_, Eq.refl _, ?_⟩
    rintro _ ⟨⟩
    refine ⟨_, Eq.refl _, ?_⟩
    rintro _ ⟨⟩
    exact ⟨_, Eq.refl _⟩
  responses := by
    intro entry member operation found
    rw [entries] at member
    cases List.mem_singleton.mp member
    rw [operationPath_widget] at found
    cases found
    rintro _ ⟨⟩
    exact ⟨_, Eq.refl _⟩

theorem represents_widget :
    Represents (.object widgetMembers) widgetTable := by
  intro path name
  by_cases samePath : path = "/widgets"
  · subst samePath
    by_cases sameName : name = "get"
    · subst sameName
      exact Eq.refl _
    · have unequal : (name == "get") = false := by simpa using sameName
      simp [codesAt, at?, widgetMembers, Schema.operation?, widgetTable,
        List.lookup_cons, unequal, OrderedDict.get?_insert_of_ne sameName]
  · have unequal : (path == "/widgets") = false := by simpa using samePath
    simp [codesAt, at?, widgetMembers, Schema.operation?, widgetTable,
      List.lookup_cons, unequal, OrderedDict.get?_insert_of_ne samePath]

theorem run_openapiCalls_widget :
    ∃ served,
      (∀ call,
        (openapiCalls "/token"
              (widgetRoutes badRequestPolicy).transportPolicies call).run
            (.object widgetMembers) =
          (.ok served, served)) ∧
        ServedFrom "/token" (widgetRoutes badRequestPolicy)
          (.object widgetMembers) widgetTable served :=
  run_openapiCalls_of_created (createRoutes_widgetRequest badRequestPolicy)
    "/token"
    (documentable_widget (entries_widgetRoutes badRequestPolicy))
    represents_widget

end FastapiCore
