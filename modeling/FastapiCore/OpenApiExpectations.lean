import FastapiCore.OpenApiAssertion

/-!
# The contract which the OpenAPI assertion is about

The contract is stated over the schema as OpenAPI reads it: operations found
by their path and method, and references anywhere in the document.  Each loop
of the assertion over the arguments then returns exactly when its part of the
contract holds and it can read the responses which it meets.
-/

namespace FastapiCore

open Library

/-! ## Schemas -/

/-- The members of the object under a name, if there is one. -/
def objectMember (members : List (String × JsonTree)) (name : String) :
    List (String × JsonTree) :=
  match members.lookup name with
  | some (.object inner) => inner
  | _ => []

/-- Whatever is under a name is an object. -/
def HoldsObject (members : List (String × JsonTree)) (name : String) : Prop :=
  ∀ value, members.lookup name = some value → ∃ inner, value = .object inner

/-- An operation ID is a text; `null` counts as none. -/
def HoldsOperationId (operation : List (String × JsonTree)) : Prop :=
  ∀ value, operation.lookup "operationId" = some value →
    value = .scalar .null ∨ ∃ operationId, value = .text operationId

/-- The keys of the responses which an operation documents. -/
def responseKeys (operation : List (String × JsonTree)) : List String :=
  memberNames (objectMember operation "responses")

/-- What OpenAPI prescribes for the members of a path item. -/
structure PathItemShape (pathItem : List (String × JsonTree)) : Prop where
  methods :
    ∀ name value, (name, value) ∈ pathItem → lower name ∈ httpMethods →
      ∃ operation, value = .object operation ∧ HoldsOperationId operation
  responses :
    ∀ name operation, (name, .object operation) ∈ pathItem →
      HoldsObject operation "responses" ∧
        ∀ key ∈ responseKeys operation, ResponseKey key

/--
An OpenAPI schema.  Members of `paths` which are no objects, such as
specification extensions, hold no operations.
-/
structure OpenApiSchema where
  members : List (String × JsonTree)
  unique :
    ∀ inner, JsonTree.Inside (.object inner) (.object members) →
      (memberNames inner).Nodup
  paths : HoldsObject members "paths"
  pathItems :
    ∀ path pathItem, (path, .object pathItem) ∈ objectMember members "paths" →
      PathItemShape pathItem
  components : HoldsObject members "components"
  securitySchemes :
    HoldsObject (objectMember members "components") "securitySchemes"
  schemas : HoldsObject (objectMember members "components") "schemas"

namespace OpenApiSchema

/-- The document as a whole. -/
def root (schema : OpenApiSchema) : JsonTree :=
  .object schema.members

/-- The members of `paths`. -/
def pathMembers (schema : OpenApiSchema) : List (String × JsonTree) :=
  objectMember schema.members "paths"

/-- The names of the security schemes. -/
def securitySchemeNames (schema : OpenApiSchema) : List String :=
  memberNames
    (objectMember (objectMember schema.members "components")
      "securitySchemes")

/-- The names of the component schemas. -/
def schemaNames (schema : OpenApiSchema) : List String :=
  memberNames
    (objectMember (objectMember schema.members "components") "schemas")

/-- The path item of a path has a member under the method. -/
def HasMethod (schema : OpenApiSchema) (path method : String) : Prop :=
  ∃ pathItem, schema.pathMembers.lookup path = some (.object pathItem) ∧
    lower method ∈ memberNames pathItem

/-- The operation at a path and method. -/
def OperationAt (schema : OpenApiSchema) (path method : String)
    (operation : List (String × JsonTree)) : Prop :=
  ∃ pathItem, schema.pathMembers.lookup path = some (.object pathItem) ∧
    pathItem.lookup (lower method) = some (.object operation)

/-- The operation at a path and method documents a status. -/
def Documents (schema : OpenApiSchema) (path method : String)
    (status : Int) : Prop :=
  ∃ operation, schema.OperationAt path method operation ∧
    toString status ∈ responseKeys operation

/-- A member of a path item is an HTTP operation with this ID. -/
def HasOperationId (schema : OpenApiSchema) (path method : String)
    (operationId : String) : Prop :=
  ∃ pathItem operation,
    (path, .object pathItem) ∈ schema.pathMembers ∧
      (method, .object operation) ∈ pathItem ∧ lower method ∈ httpMethods ∧
      operation.lookup "operationId" = some (.text operationId)

/-- A reference to a component schema, by what follows the common start. -/
def RefersTo (schema : OpenApiSchema) (target : String) : Prop :=
  ∃ inner, JsonTree.Inside (.object inner) schema.root ∧
    inner.lookup "$ref" = some (.text (schemaReferenceStart ++ target))

end OpenApiSchema

/-! ## The contract -/

section Contract

variable (schema : OpenApiSchema) (expectations : OpenapiExpectations)

/-- A property holds of every expected path and method. -/
def OpenapiExpectations.EveryMethod (expectations : OpenapiExpectations)
    (holds : String → String → Prop) : Prop :=
  ∀ path methods, (path, methods) ∈ expectations.expectedPaths.entries →
    ∀ method ∈ methods, holds path method

/-- Every expected path and method exists. -/
def PathsExist : Prop :=
  (∀ path ∈ expectations.expectedPaths.keys,
      path ∈ memberNames schema.pathMembers) ∧
    expectations.EveryMethod schema.HasMethod

/-- Every operation with expected responses documents their statuses. -/
def ResponsesDocumented : Prop :=
  ∀ path method statuses,
    ((path, method), statuses) ∈
        (expectations.expectedResponses.getD .empty).entries →
      ∃ operation, schema.OperationAt path method operation ∧
        ∀ status ∈ statuses, toString status ∈ responseKeys operation

/-- Every expected operation documents a given validation status. -/
def ValidationDocumented : Prop :=
  ∀ validationStatus, expectations.validationStatus = some validationStatus →
    expectations.EveryMethod fun path method =>
      schema.Documents path method validationStatus

/-- No expected operation documents the code 422, if it is excluded. -/
def Synthetic422Omitted : Prop :=
  expectations.includeSynthetic422 = some false →
    expectations.EveryMethod fun path method =>
      ¬schema.Documents path method 422

/-- No two HTTP operations have one operation ID. -/
def OperationIdsDistinct : Prop :=
  ∀ path method other otherMethod operationId,
    schema.HasOperationId path method operationId →
      schema.HasOperationId other otherMethod operationId →
        path = other ∧ method = otherMethod

/-- Every expected security scheme exists. -/
def SecuritySchemesExist : Prop :=
  ∀ name ∈ expectations.expectedSecuritySchemes,
    name ∈ schema.securitySchemeNames

/-- Every reference to a component schema by its name has a target. -/
def ReferencesResolve : Prop :=
  ∀ name, schema.RefersTo name → '/' ∉ name.toList →
    name ∈ schema.schemaNames

/-- The contract which the assertion is about. -/
structure MeetsOpenapiContract : Prop where
  pathsExist : PathsExist schema expectations
  responsesDocumented : ResponsesDocumented schema expectations
  validationDocumented : ValidationDocumented schema expectations
  synthetic422Omitted : Synthetic422Omitted schema expectations
  operationIdsDistinct : OperationIdsDistinct schema
  securitySchemesExist : SecuritySchemesExist schema expectations
  referencesResolve : ReferencesResolve schema

/--
The assertion returns for the schemas which meet the contract, and raises
for all others.
-/
structure DecidesContract : Prop where
  returns_iff :
    assertOpenapiContract schema.root expectations = .ok () ↔
      MeetsOpenapiContract schema expectations
  raises_otherwise :
    ¬MeetsOpenapiContract schema expectations →
      ∃ raised,
        assertOpenapiContract schema.root expectations = .error raised

/-! ## Where the assertion departs from the contract -/

/-- Every expectation other than the one about the code 422. -/
structure MeetsOtherExpectations : Prop where
  pathsExist : PathsExist schema expectations
  responsesDocumented : ResponsesDocumented schema expectations
  validationDocumented : ValidationDocumented schema expectations
  operationIdsDistinct : OperationIdsDistinct schema
  securitySchemesExist : SecuritySchemesExist schema expectations
  referencesResolve : ReferencesResolve schema

/--
The schema gives the assertion nothing which it cannot read: where responses
are expected, every response key is a status code; every member of `paths` is
a path item; and the last segment of every longer reference into the
component schemas is the name of one.
-/
structure ReadsThroughout : Prop where
  statusCodes :
    ∀ path method statuses operation,
      ((path, method), statuses) ∈
          (expectations.expectedResponses.getD .empty).entries →
        schema.OperationAt path method operation →
          ∀ key ∈ responseKeys operation, IsStatusCode key
  pathItems :
    ∀ path value, (path, value) ∈ schema.pathMembers →
      ∃ pathItem, value = .object pathItem
  longReferences :
    ∀ target, schema.RefersTo target → '/' ∈ target.toList →
      lastSegment target ∈ schema.schemaNames

end Contract

variable {schema : OpenApiSchema} {expectations : OpenapiExpectations}

/-! ## Reading the schema -/

theorem dictGetOrEmpty_object {members : List (String × JsonTree)}
    {name : String} (holds : HoldsObject members name) :
    dictGetOrEmpty (.object members) name =
      .ok (.object (objectMember members name)) := by
  show
    Except.ok ((members.lookup name).getD (.object [])) =
      .ok (.object (objectMember members name))
  rw [objectMember]
  cases found : members.lookup name with
  | none => rfl
  | some value =>
      rcases holds value found with ⟨inner, rfl⟩
      rfl

/-- A block which reads an object goes on with its members. -/
theorem dictGetOrEmpty_bind {members : List (String × JsonTree)}
    {name : String} (holds : HoldsObject members name)
    (next : JsonTree → Except PyExc Unit) :
    (dictGetOrEmpty (.object members) name >>= next) =
      next (.object (objectMember members name)) := by
  rw [dictGetOrEmpty_object holds]
  rfl

theorem mem_of_lookup {members : List (String × JsonTree)} {name : String}
    {value : JsonTree} (found : members.lookup name = some value) :
    (name, value) ∈ members := by
  rcases List.lookup_eq_some_iff.mp found with ⟨before, after, rfl, -⟩
  simp

namespace OpenApiSchema

theorem inside_paths (schema : OpenApiSchema) (path : String)
    {pathItem : List (String × JsonTree)}
    (member : (path, .object pathItem) ∈ schema.pathMembers) :
    JsonTree.Inside (.object pathItem) schema.root := by
  unfold pathMembers objectMember at member
  split at member
  · next found =>
      exact .member (mem_of_lookup found) (.member member .self)
  · cases member

theorem OperationAt.unique {path method : String}
    {first second : List (String × JsonTree)}
    (firstAt : schema.OperationAt path method first)
    (secondAt : schema.OperationAt path method second) : first = second := by
  rcases firstAt with ⟨firstItem, firstPath, firstMethod⟩
  rcases secondAt with ⟨secondItem, secondPath, secondMethod⟩
  rw [firstPath] at secondPath
  cases secondPath
  rw [firstMethod] at secondMethod
  cases secondMethod
  rfl

theorem OperationAt.shape {path method : String}
    {operation : List (String × JsonTree)}
    (operationAt : schema.OperationAt path method operation) :
    HoldsObject operation "responses" ∧
      ∀ key ∈ responseKeys operation, ResponseKey key := by
  rcases operationAt with ⟨pathItem, atPath, atMethod⟩
  exact
    (schema.pathItems path pathItem (mem_of_lookup atPath)).responses _ _
      (mem_of_lookup atMethod)

end OpenApiSchema

theorem exists_members_of_dictGetOrEmpty {value found : JsonTree}
    {name : String} (returned : dictGetOrEmpty value name = .ok found) :
    ∃ members, value = .object members := by
  cases value with
  | scalar scalar => cases returned
  | array items => cases returned
  | object members => exact ⟨members, rfl⟩

/-- A block which reads the responses of an operation and goes on. -/
theorem readResponses_eq_ok_iff {path method : String}
    {next : JsonTree → JsonTree → Except PyExc Unit} :
    (do
        let pathItem ← subscript (.object schema.pathMembers) path
        let operation ← subscript pathItem (lower method)
        let responses ← dictGetOrEmpty operation "responses"
        next operation responses) = .ok () ↔
      ∃ operation, schema.OperationAt path method operation ∧
        next (.object operation)
            (.object (objectMember operation "responses")) = .ok () := by
  constructor
  · intro returned
    rcases bind_eq_ok_iff.mp returned with ⟨_, atPath, returned⟩
    rcases bind_eq_ok_iff.mp returned with ⟨_, atMethod, returned⟩
    rcases bind_eq_ok_iff.mp returned with ⟨responses, read, returned⟩
    rcases exists_members_of_dictGetOrEmpty read with ⟨operation, rfl⟩
    rcases subscript_eq_ok_iff.mp atMethod with
      ⟨pathItem, rfl, methodFound⟩
    rcases subscript_eq_ok_iff.mp atPath with ⟨_, ⟨⟩, pathFound⟩
    have operationAt : schema.OperationAt path method operation :=
      ⟨pathItem, pathFound, methodFound⟩
    rw [dictGetOrEmpty_object operationAt.shape.1] at read
    cases read
    exact ⟨operation, operationAt, returned⟩
  · rintro ⟨operation, operationAt, returned⟩
    have read := dictGetOrEmpty_object operationAt.shape.1
    rcases operationAt with ⟨pathItem, atPath, atMethod⟩
    rw [bind_eq_ok_iff]
    refine ⟨_, subscript_eq_ok_iff.mpr ⟨_, rfl, atPath⟩, ?_⟩
    rw [bind_eq_ok_iff]
    refine ⟨_, subscript_eq_ok_iff.mpr ⟨_, rfl, atMethod⟩, ?_⟩
    rw [bind_eq_ok_iff]
    exact ⟨_, read, returned⟩

/-! ## The loops over the expectations -/

theorem assertPaths_eq_ok_iff
    (pathItems :
      ∀ path value, (path, value) ∈ schema.pathMembers →
        ∃ pathItem, value = .object pathItem) :
    assertPaths (.object schema.pathMembers) expectations.expectedPaths =
        .ok () ↔
      PathsExist schema expectations := by
  have methodChecked (path method message : String) :
      (do
          let pathItem ← subscript (.object schema.pathMembers) path
          let methodPresent ← contains pathItem (lower method)
          pyAssert methodPresent message) = .ok () ↔
        schema.HasMethod path method := by
    constructor
    · intro returned
      rcases bind_eq_ok_iff.mp returned with ⟨value, atPath, returned⟩
      rcases subscript_eq_ok_iff.mp atPath with ⟨_, ⟨⟩, found⟩
      rcases pathItems path value (mem_of_lookup found) with
        ⟨pathItem, rfl⟩
      have present := pyAssert_eq_ok_iff.mp returned
      exact ⟨pathItem, found, of_decide_eq_true present⟩
    · rintro ⟨pathItem, found, member⟩
      rw [bind_eq_ok_iff]
      refine ⟨_, subscript_eq_ok_iff.mpr ⟨_, rfl, found⟩, ?_⟩
      exact pyAssert_eq_ok_iff.mpr (decide_eq_true member)
  rw [assertPaths, forM_eq_ok_iff]
  constructor
  · intro checked
    have split (path : String) (methods : List String)
        (member : (path, methods) ∈ expectations.expectedPaths.entries) :=
      check_bind_eq_ok_iff.mp (checked (path, methods) member)
    refine ⟨?_, ?_⟩
    · intro path member
      rcases OrderedDict.exists_mem_entries_of_mem_keys member with
        ⟨methods, entryMember⟩
      have present := (split path methods entryMember).1
      exact of_decide_eq_true (pyAssert_eq_ok_iff.mp present)
    · intro path methods member method methodMember
      have others := forM_eq_ok_iff.mp (split path methods member).2
      exact (methodChecked path method _).mp (others method methodMember)
  · rintro ⟨paths, methods⟩ ⟨path, names⟩ member
    refine check_bind_eq_ok_iff.mpr ⟨?_, ?_⟩
    · have present :=
        paths path (OrderedDict.mem_keys_of_mem_entries member)
      exact pyAssert_eq_ok_iff.mpr (decide_eq_true present)
    · rw [forM_eq_ok_iff]
      intro method methodMember
      exact
        (methodChecked path method _).mpr
          (methods path names member method methodMember)

theorem intOf_eq_ok_iff {key : String} {number : Int} :
    intOf (.text key) = .ok number ↔ integerValue key = some number := by
  rw [intOf]
  split
  · next value read => rw [read, Except.ok.injEq, Option.some.injEq]
  · next read =>
      rw [read]
      constructor
      · rintro ⟨⟩
      · rintro ⟨⟩

section ResponseCodes

variable {keys : List String} (forms : ∀ key ∈ keys, ResponseKey key)

include forms

/-- The keys can be read as numbers exactly if all are status codes. -/
theorem exists_responseCodes_iff :
    (∃ codes, (keys.map JsonTree.text).mapM intOf = .ok codes) ↔
      ∀ key ∈ keys, IsStatusCode key := by
  rw [mapM_isOk_iff]
  constructor
  · intro readable key member
    rcases readable _ (List.mem_map_of_mem member) with ⟨number, returned⟩
    rcases
      integerValue_of_responseKey (forms key member)
        (intOf_eq_ok_iff.mp returned)
    with ⟨status, same, -⟩
    exact ⟨status, same⟩
  · intro all value member
    rcases List.mem_map.mp member with ⟨key, keyMember, rfl⟩
    rcases all key keyMember with ⟨status, rfl⟩
    exact ⟨status, intOf_eq_ok_iff.mpr (integerValue_natural status)⟩

/-- A number is among those read exactly if its text is a key. -/
theorem mem_responseCodes_iff {codes : List Int}
    (read : (keys.map JsonTree.text).mapM intOf = .ok codes) (status : Int) :
    status ∈ codes ↔ toString status ∈ keys := by
  rw [mem_of_mapM_eq_ok read]
  constructor
  · rintro ⟨value, member, returned⟩
    rcases List.mem_map.mp member with ⟨key, keyMember, rfl⟩
    rcases
      integerValue_of_responseKey (forms key keyMember)
        (intOf_eq_ok_iff.mp returned)
    with ⟨number, same, rfl⟩
    subst same
    exact keyMember
  · intro member
    refine ⟨_, List.mem_map_of_mem member, ?_⟩
    rw [intOf_eq_ok_iff, integerValue_toString]

theorem assertStatuses_eq_ok_iff {statuses : List Int} {message : String} :
    (do
        let responseCodes ← (keys.map JsonTree.text).mapM intOf
        pyAssert (statuses.all fun status => status ∈ responseCodes)
          message) = .ok () ↔
      (∀ key ∈ keys, IsStatusCode key) ∧
        ∀ status ∈ statuses, toString status ∈ keys := by
  rw [bind_eq_ok_iff, ← exists_responseCodes_iff forms]
  constructor
  · rintro ⟨codes, read, compared⟩
    refine ⟨⟨codes, read⟩, ?_⟩
    intro status member
    have documented := List.all_eq_true.mp (pyAssert_eq_ok_iff.mp compared)
    rw [← mem_responseCodes_iff forms read]
    exact of_decide_eq_true (documented status member)
  · rintro ⟨⟨codes, read⟩, documented⟩
    refine ⟨codes, read, pyAssert_eq_ok_iff.mpr ?_⟩
    rw [List.all_eq_true]
    intro status member
    apply decide_eq_true
    rw [mem_responseCodes_iff forms read]
    exact documented status member

end ResponseCodes

theorem assertResponses_eq_ok_iff :
    assertResponses (.object schema.pathMembers)
        (expectations.expectedResponses.getD .empty) = .ok () ↔
      ResponsesDocumented schema expectations ∧
        ∀ path method statuses operation,
          ((path, method), statuses) ∈
              (expectations.expectedResponses.getD .empty).entries →
            schema.OperationAt path method operation →
              ∀ key ∈ responseKeys operation, IsStatusCode key := by
  have checked (path method message : String) (statuses : List Int) :
      (do
          let pathItem ← subscript (.object schema.pathMembers) path
          let operation ← subscript pathItem (lower method)
          let responses ← dictGetOrEmpty operation "responses"
          let codes ← iterate responses
          let responseCodes ← codes.mapM intOf
          pyAssert (statuses.all fun status => status ∈ responseCodes)
            message) = .ok () ↔
        ∃ operation, schema.OperationAt path method operation ∧
          (∀ key ∈ responseKeys operation, IsStatusCode key) ∧
            ∀ status ∈ statuses,
              toString status ∈ responseKeys operation := by
    rw [readResponses_eq_ok_iff]
    apply exists_congr
    intro operation
    apply and_congr_right
    intro operationAt
    exact assertStatuses_eq_ok_iff operationAt.shape.2
  rw [assertResponses, forM_eq_ok_iff]
  constructor
  · intro passes
    refine ⟨?_, ?_⟩
    · intro path method statuses member
      rcases (checked path method _ statuses).mp (passes _ member) with
        ⟨operation, operationAt, -, documented⟩
      exact ⟨operation, operationAt, documented⟩
    · intro path method statuses operation member operationAt
      rcases (checked path method _ statuses).mp (passes _ member) with
        ⟨found, foundAt, codes, -⟩
      exact operationAt.unique foundAt ▸ codes
  · rintro ⟨documented, codes⟩ ⟨⟨path, method⟩, statuses⟩ member
    rcases documented path method statuses member with
      ⟨operation, operationAt, statusesDocumented⟩
    exact
      (checked path method _ statuses).mpr
        ⟨operation, operationAt,
          codes path method statuses operation member operationAt,
          statusesDocumented⟩

theorem assertValidationOf_eq_ok_iff {path method : String}
    {validationStatus : Int} {includeSynthetic422 : Option Bool} :
    assertValidationOf (.object schema.pathMembers) validationStatus
        includeSynthetic422 path method = .ok () ↔
      schema.Documents path method validationStatus ∧
        (includeSynthetic422 = some false →
          ¬schema.Documents path method 422) := by
  have synthetic : toString (422 : Int) = "422" := rfl
  rw [assertValidationOf, readResponses_eq_ok_iff]
  constructor
  · rintro ⟨operation, operationAt, returned⟩
    rcases check_bind_eq_ok_iff.mp returned with ⟨documented, remaining⟩
    refine
      ⟨⟨operation, operationAt,
        of_decide_eq_true (pyAssert_eq_ok_iff.mp documented)⟩, ?_⟩
    intro excluded
    rw [if_pos excluded, dictGetOrEmpty_object operationAt.shape.1]
      at remaining
    rintro ⟨found, foundAt, present⟩
    rw [← operationAt.unique foundAt, synthetic] at present
    have absent := pyAssert_eq_ok_iff.mp remaining
    rw [Bool.not_eq_true', decide_eq_false_iff_not] at absent
    exact absent present
  · rintro ⟨⟨operation, operationAt, documented⟩, omitted⟩
    refine
      ⟨operation, operationAt, check_bind_eq_ok_iff.mpr ⟨?_, ?_⟩⟩
    · exact pyAssert_eq_ok_iff.mpr (decide_eq_true documented)
    · split
      · next excluded =>
          rw [dictGetOrEmpty_object operationAt.shape.1]
          apply pyAssert_eq_ok_iff.mpr
          rw [Bool.not_eq_true', decide_eq_false_iff_not]
          exact fun present =>
            omitted excluded ⟨operation, operationAt, synthetic ▸ present⟩
      · rfl

theorem assertValidation_eq_ok_iff :
    assertValidation (.object schema.pathMembers) expectations = .ok () ↔
      ValidationDocumented schema expectations ∧
        (expectations.validationStatus ≠ none →
          Synthetic422Omitted schema expectations) := by
  rw [assertValidation, ValidationDocumented, Synthetic422Omitted]
  cases expectations.validationStatus with
  | none => simp
  | some validationStatus =>
      refine forM_eq_ok_iff.trans ?_
      constructor
      · intro passes
        have every (path : String) (methods : List String)
            (member : (path, methods) ∈ expectations.expectedPaths.entries)
            (method : String) (methodMember : method ∈ methods) :=
          assertValidationOf_eq_ok_iff.mp
            (forM_eq_ok_iff.mp (passes (path, methods) member) method
              methodMember)
        refine ⟨?_, ?_⟩
        · rintro _ ⟨⟩ path methods member method methodMember
          exact (every path methods member method methodMember).1
        · intro _ excluded path methods member method methodMember
          exact (every path methods member method methodMember).2 excluded
      · rintro ⟨documented, omitted⟩ ⟨path, methods⟩ member
        refine forM_eq_ok_iff.mpr ?_
        intro method methodMember
        rw [assertValidationOf_eq_ok_iff]
        refine
          ⟨documented _ rfl path methods member method methodMember, ?_⟩
        intro excluded
        exact
          omitted (by simp) excluded path methods member method methodMember

end FastapiCore
