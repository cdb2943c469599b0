import FastapiCore.OpenApiExpectations

/-!
# What the OpenAPI contract assertion decides

The assertion raises for some schemas which meet the contract, and leaves one
expectation unread when another one is not given.  The law says when exactly
it returns for the schemas which meet the contract and raises for all others.
-/

namespace FastapiCore

open Library

variable {schema : OpenApiSchema} {expectations : OpenapiExpectations}

/-! ## The operation IDs -/

/-- The operation ID of a member of a path item. -/
def operationIdOf (entry : String × JsonTree) : Option String :=
  if lower entry.1 ∈ httpMethods then
    match entry.2 with
    | .object operation =>
        match operation.lookup "operationId" with
        | some (.text operationId) => some operationId
        | _ => none
    | _ => none
  else none

/-- The operation IDs of a member of `paths`, with the places they are at. -/
def placedIdsOf (entry : String × JsonTree) :
    List ((String × String) × String) :=
  match entry.2 with
  | .object pathItem =>
      pathItem.flatMap fun member =>
        ((operationIdOf member).map fun operationId =>
          ((entry.1, member.1), operationId)).toList
  | _ => []

/-- The operation IDs of a schema, with the places they are at. -/
def OpenApiSchema.placedIds (schema : OpenApiSchema) :
    List ((String × String) × String) :=
  schema.pathMembers.flatMap placedIdsOf

theorem operationIdOf_eq_some_iff {name operationId : String}
    {value : JsonTree} :
    operationIdOf (name, value) = some operationId ↔
      lower name ∈ httpMethods ∧
        ∃ operation, value = .object operation ∧
          operation.lookup "operationId" = some (.text operationId) := by
  unfold operationIdOf
  split
  · next http =>
      rw [and_iff_right http]
      cases value with
      | scalar scalar => simp
      | array items => simp
      | object operation =>
          show
            (match operation.lookup "operationId" with
              | some (.text operationId) => some operationId
              | _ => none) = some operationId ↔ _
          constructor
          · intro found
            split at found
            · next same =>
                cases found
                exact ⟨operation, rfl, same⟩
            · cases found
          · rintro ⟨_, ⟨⟩, found⟩
            rw [found]
  · next other =>
      constructor
      · rintro ⟨⟩
      · rintro ⟨http, -⟩
        exact (other http).elim

theorem mem_placedIds_iff {path method operationId : String} :
    ((path, method), operationId) ∈ schema.placedIds ↔
      schema.HasOperationId path method operationId := by
  rw [OpenApiSchema.placedIds, List.mem_flatMap]
  constructor
  · rintro ⟨⟨foundPath, value⟩, member, placed⟩
    unfold placedIdsOf at placed
    cases value with
    | scalar scalar => cases placed
    | array items => cases placed
    | object pathItem =>
        rcases List.mem_flatMap.mp placed with
          ⟨⟨name, found⟩, nameMember, placed⟩
        rcases Option.map_eq_some_iff.mp (Option.mem_toList.mp placed) with
          ⟨_, same, equal⟩
        cases equal
        rcases operationIdOf_eq_some_iff.mp same with
          ⟨http, operation, rfl, identified⟩
        exact
          ⟨pathItem, operation, member, nameMember, http, identified⟩
  · rintro ⟨pathItem, operation, member, nameMember, http, identified⟩
    refine ⟨(path, .object pathItem), member, ?_⟩
    refine List.mem_flatMap.mpr ⟨(method, .object operation), nameMember, ?_⟩
    have found :=
      operationIdOf_eq_some_iff.mpr ⟨http, operation, rfl, identified⟩
    simp [found]

/-- Elements made from keyed ones are distinct if they show their keys. -/
theorem nodup_flatMap_of_keys {α β κ : Type} {elements : List α}
    {made : α → List β} (key : α → κ) (shown : β → κ)
    (distinct : (elements.map key).Nodup)
    (each : ∀ element ∈ elements, (made element).Nodup)
    (shows :
      ∀ element ∈ elements, ∀ result ∈ made element,
        shown result = key element) :
    (elements.flatMap made).Nodup := by
  rw [List.nodup_flatMap]
  refine ⟨each, ?_⟩
  have keysApart := List.pairwise_map.mp distinct
  refine keysApart.imp_of_mem ?_
  intro first second firstMember secondMember different result inFirst inSecond
  exact
    different
      ((shows first firstMember result inFirst).symm.trans
        (shows second secondMember result inSecond))

theorem OpenApiSchema.nodup_placedIds (schema : OpenApiSchema) :
    schema.placedIds.Nodup := by
  have pathsDistinct : (memberNames schema.pathMembers).Nodup := by
    unfold pathMembers objectMember
    split
    · next found =>
        exact schema.unique _ (.member (mem_of_lookup found) .self)
    · exact List.nodup_nil
  refine
    nodup_flatMap_of_keys Prod.fst (fun placed => placed.1.1) pathsDistinct
      ?_ ?_
  · rintro ⟨path, value⟩ member
    cases value with
    | scalar scalar => exact List.nodup_nil
    | array items => exact List.nodup_nil
    | object pathItem =>
        have namesDistinct : (memberNames pathItem).Nodup :=
          schema.unique pathItem (schema.inside_paths path member)
        refine
          nodup_flatMap_of_keys Prod.fst (fun placed => placed.1.2)
            namesDistinct ?_ ?_
        · intro entry _
          cases operationIdOf entry <;> simp
        · intro entry _ result placed
          rcases Option.map_eq_some_iff.mp (Option.mem_toList.mp placed) with
            ⟨_, _, rfl⟩
          rfl
  · rintro ⟨path, value⟩ member ⟨⟨foundPath, method⟩, operationId⟩ placed
    cases value with
    | scalar scalar => cases placed
    | array items => cases placed
    | object pathItem =>
        rcases List.mem_flatMap.mp placed with ⟨entry, _, placed⟩
        rcases Option.map_eq_some_iff.mp (Option.mem_toList.mp placed) with
          ⟨_, _, equal⟩
        cases equal
        rfl

theorem operationIdsDistinct_iff :
    OperationIdsDistinct schema ↔ (schema.placedIds.map Prod.snd).Nodup := by
  rw [List.nodup_map_iff_inj_on schema.nodup_placedIds]
  constructor
  · rintro distinct ⟨⟨path, method⟩, first⟩ member
      ⟨⟨other, otherMethod⟩, second⟩ otherMember same
    cases same
    rcases
      distinct path method other otherMethod first
        (mem_placedIds_iff.mp member) (mem_placedIds_iff.mp otherMember)
    with ⟨rfl, rfl⟩
    rfl
  · intro injective path method other otherMethod operationId first second
    have equal :=
      injective _ (mem_placedIds_iff.mpr first) _
        (mem_placedIds_iff.mpr second) rfl
    cases equal
    exact ⟨rfl, rfl⟩

theorem addOperationId_eq_ok {pathItem : List (String × JsonTree)}
    (shape : PathItemShape pathItem) {entry : String × JsonTree}
    (member : entry ∈ pathItem) (operationIds : List JsonTree) :
    addOperationId operationIds entry =
      .ok
        (operationIds ++
          ((operationIdOf entry).map JsonTree.text).toList) := by
  rcases entry with ⟨name, value⟩
  rw [addOperationId]
  split
  · next http =>
      rcases shape.methods name value member http with
        ⟨operation, rfl, identified⟩
      show
        Except.ok
            (appendOperationId operationIds
              (operation.lookup "operationId")) = _
      cases found : operation.lookup "operationId" with
      | none =>
          have unidentified :
              operationIdOf (name, .object operation) = none := by
            simp [operationIdOf, found]
          rw [unidentified]
          simp [appendOperationId]
      | some operationId =>
          rcases identified operationId found with rfl | ⟨text, rfl⟩
          · have unidentified :
                operationIdOf (name, .object operation) = none := by
              simp [operationIdOf, found]
            rw [unidentified]
            simp [appendOperationId]
          · have named :
                operationIdOf (name, .object operation) = some text :=
              operationIdOf_eq_some_iff.mpr ⟨http, operation, rfl, found⟩
            rw [named]
            rfl
  · next other =>
      have unidentified : operationIdOf (name, value) = none := if_neg other
      rw [unidentified]
      simp [pure, Except.pure]

theorem exists_pathItem_of_collectOperationIds {operationIds : List JsonTree}
    (collected :
      collectOperationIds (.object schema.pathMembers) = .ok operationIds)
    (path : String) (value : JsonTree)
    (member : (path, value) ∈ schema.pathMembers) :
    ∃ pathItem, value = .object pathItem := by
  rcases exists_step_of_foldlM_eq_ok collected (path, value) member with
    ⟨before, after, stepped⟩
  rcases bind_eq_ok_iff.mp stepped with ⟨pathItem, items, -⟩
  cases value with
  | scalar scalar => cases items
  | array items => cases items
  | object members => exact ⟨members, rfl⟩

theorem collectOperationIds_eq_ok
    (pathItems :
      ∀ path value, (path, value) ∈ schema.pathMembers →
        ∃ pathItem, value = .object pathItem) :
    collectOperationIds (.object schema.pathMembers) =
      .ok (schema.placedIds.map fun placed => .text placed.2) := by
  have outer :
      ∀ entry ∈ schema.pathMembers, ∀ operationIds,
        (do
            let pathItem ← dictMembers "items" entry.2
            pathItem.foldlM addOperationId operationIds) =
          .ok
            (operationIds ++
              (placedIdsOf entry).map fun placed => .text placed.2) := by
    rintro ⟨path, value⟩ member operationIds
    rcases pathItems path value member with ⟨pathItem, rfl⟩
    have shape := schema.pathItems path pathItem member
    refine
      (foldlM_append_eq_ok
        (fun entry entryMember => addOperationId_eq_ok shape entryMember)
        operationIds).trans ?_
    apply congrArg fun added => Except.ok (operationIds ++ added)
    show
      _ =
        (pathItem.flatMap fun entry =>
          ((operationIdOf entry).map fun operationId =>
            ((path, entry.1), operationId)).toList).map
          fun placed => JsonTree.text placed.2
    rw [List.map_flatMap]
    apply List.flatMap_congr
    intro entry _
    cases operationIdOf entry <;> rfl
  refine (foldlM_append_eq_ok outer []).trans ?_
  rw [List.nil_append, OpenApiSchema.placedIds, List.map_flatMap]

/-- As many distinct texts as texts means that none is repeated. -/
theorem distinctCount_texts (texts : List String) :
    distinctCount (texts.map .text) =
      .ok (texts.map JsonScalar.text).dedup.length := by
  have keys :
      (texts.map JsonTree.text).mapM hashKey =
        .ok (texts.map JsonScalar.text) := by
    induction texts with
    | nil => rfl
    | cons text rest induction =>
        rw [List.map_cons, List.mapM_cons, induction]
        rfl
  rw [distinctCount, keys]
  rfl

theorem length_dedup_texts_iff {texts : List String} :
    texts.length = (texts.map JsonScalar.text).dedup.length ↔
      texts.Nodup := by
  have injective : Function.Injective JsonScalar.text := by
    rintro first second ⟨⟩
    rfl
  rw [← List.nodup_map_iff injective, ← List.dedup_eq_self]
  constructor
  · intro same
    exact
      (List.dedup_sublist _).eq_of_length
        (same.symm.trans (List.length_map _).symm)
  · intro same
    rw [same, List.length_map]

theorem assertOperationIds_eq_ok_iff
    (pathItems :
      ∀ path value, (path, value) ∈ schema.pathMembers →
        ∃ pathItem, value = .object pathItem) :
    assertOperationIds (.object schema.pathMembers) = .ok () ↔
      OperationIdsDistinct schema := by
  have texts :
      (schema.placedIds.map fun placed => JsonTree.text placed.2) =
        (schema.placedIds.map Prod.snd).map .text := by
    rw [List.map_map]
    rfl
  rw [assertOperationIds, operationIdsDistinct_iff,
    ← length_dedup_texts_iff, bind_eq_ok_iff]
  constructor
  · rintro ⟨operationIds, collected, compared⟩
    cases (collectOperationIds_eq_ok pathItems).symm.trans collected
    rw [texts, distinctCount_texts] at compared
    simpa using of_decide_eq_true (pyAssert_eq_ok_iff.mp compared)
  · intro same
    refine ⟨_, collectOperationIds_eq_ok pathItems, ?_⟩
    rw [texts, distinctCount_texts]
    apply pyAssert_eq_ok_iff.mpr
    simpa using same

theorem assertSecuritySchemes_eq_ok_iff :
    assertSecuritySchemes schema.root expectations.expectedSecuritySchemes =
        .ok () ↔
      SecuritySchemesExist schema expectations := by
  rw [assertSecuritySchemes, OpenApiSchema.root,
    dictGetOrEmpty_bind schema.components,
    dictGetOrEmpty_bind schema.securitySchemes]
  refine forM_eq_ok_iff.trans ?_
  constructor
  · intro checked name member
    exact of_decide_eq_true (pyAssert_eq_ok_iff.mp (checked name member))
  · intro exist name member
    exact pyAssert_eq_ok_iff.mpr (decide_eq_true (exist name member))

/-! ## The references -/

theorem lastSegment_reference (target : String) :
    lastSegment (schemaReferenceStart ++ target) = lastSegment target := by
  have start :
      schemaReferenceStart.toList.reverse.takeWhile (· ≠ '/') = [] := by
    decide
  unfold lastSegment
  rw [List.rtakeWhile, List.rtakeWhile, String.toList_append,
    List.reverse_append, List.takeWhile_append, start, List.append_nil]
  split
  · next whole =>
      rw [(List.takeWhile_prefix _).eq_of_length whole]
  · rfl

theorem lastSegment_eq_self {name : String} (segment : '/' ∉ name.toList) :
    lastSegment name = name := by
  have all : ∀ char ∈ name.toList, decide (char ≠ '/') = true := by
    intro char member
    exact decide_eq_true fun same => segment (same ▸ member)
  rw [lastSegment, List.rtakeWhile_eq_self_iff.mpr all, String.ofList_toList]

theorem startsWith_reference_iff {reference : String} :
    reference.startsWith schemaReferenceStart ↔
      ∃ target, reference = schemaReferenceStart ++ target := by
  rw [String.startsWith_string_iff]
  constructor
  · rintro ⟨rest, split⟩
    refine ⟨String.ofList rest, ?_⟩
    rw [← String.toList_inj, String.toList_append, String.toList_ofList,
      split]
  · rintro ⟨target, rfl⟩
    exact ⟨target.toList, String.toList_append.symm⟩

theorem checkReference_eq_ok_iff
    {schemas members : List (String × JsonTree)} :
    checkReference (.object schemas) members = .ok () ↔
      ∀ target,
        members.lookup "$ref" =
            some (.text (schemaReferenceStart ++ target)) →
          lastSegment target ∈ memberNames schemas := by
  unfold checkReference
  split
  · next reference found =>
      split
      · next starts =>
          rcases startsWith_reference_iff.mp starts with ⟨target, rfl⟩
          rw [lastSegment_reference]
          refine pyAssert_eq_ok_iff.trans ?_
          constructor
          · intro present other same
            have equal :
                schemaReferenceStart ++ target =
                  schemaReferenceStart ++ other := by
              simpa using found.symm.trans same
            rw [← (String.append_right_inj _).mp equal]
            exact of_decide_eq_true present
          · intro named
            exact decide_eq_true (named target found)
      · next starts =>
          refine ⟨?_, fun _ => rfl⟩
          intro _ target same
          cases found.symm.trans same
          exact (starts (startsWith_reference_iff.mpr ⟨target, rfl⟩)).elim
  · next other =>
      refine ⟨?_, fun _ => rfl⟩
      intro _ target found
      exact (other _ found).elim

theorem assertReferences_eq_ok_iff :
    assertReferences schema.root = .ok () ↔
      ReferencesResolve schema ∧
        ∀ target, schema.RefersTo target → '/' ∈ target.toList →
          lastSegment target ∈ schema.schemaNames := by
  rw [assertReferences, OpenApiSchema.root,
    dictGetOrEmpty_bind schema.components, dictGetOrEmpty_bind schema.schemas,
    validateReferences, JsonTree.walkObjects_eq_ok_iff]
  constructor
  · intro passes
    have named (target : String) (refers : schema.RefersTo target) :
        lastSegment target ∈ schema.schemaNames := by
      rcases refers with ⟨inner, inside, found⟩
      exact checkReference_eq_ok_iff.mp (passes inner inside) target found
    refine ⟨?_, fun target refers _ => named target refers⟩
    intro name refers segment
    exact lastSegment_eq_self segment ▸ named name refers
  · rintro ⟨resolve, longer⟩ inner inside
    apply checkReference_eq_ok_iff.mpr
    intro target found
    have refers : schema.RefersTo target := ⟨inner, inside, found⟩
    by_cases segments : '/' ∈ target.toList
    · exact longer target refers segments
    · exact (lastSegment_eq_self segments).symm ▸ resolve target refers segments

/-! ## The law -/

theorem assertOpenapiContract_eq_ok_iff :
    assertOpenapiContract schema.root expectations = .ok () ↔
      MeetsOtherExpectations schema expectations ∧
        ReadsThroughout schema expectations ∧
          (expectations.validationStatus ≠ none →
            Synthetic422Omitted schema expectations) := by
  rw [assertOpenapiContract, OpenApiSchema.root,
    dictGetOrEmpty_bind schema.paths]
  show
    (do
        assertPaths (.object schema.pathMembers) expectations.expectedPaths
        assertResponses (.object schema.pathMembers)
          (expectations.expectedResponses.getD .empty)
        assertValidation (.object schema.pathMembers) expectations
        assertOperationIds (.object schema.pathMembers)
        assertSecuritySchemes schema.root expectations.expectedSecuritySchemes
        assertReferences schema.root) = .ok () ↔ _
  rw [check_bind_eq_ok_iff, check_bind_eq_ok_iff, check_bind_eq_ok_iff,
    check_bind_eq_ok_iff, check_bind_eq_ok_iff, assertResponses_eq_ok_iff,
    assertValidation_eq_ok_iff, assertSecuritySchemes_eq_ok_iff,
    assertReferences_eq_ok_iff]
  constructor
  · rintro ⟨paths, ⟨responses, codes⟩, ⟨validation, synthetic⟩, ids, schemes,
      references, longer⟩
    rcases bind_eq_ok_iff.mp ids with ⟨operationIds, collected, -⟩
    have pathItems := exists_pathItem_of_collectOperationIds collected
    exact
      ⟨⟨(assertPaths_eq_ok_iff pathItems).mp paths, responses, validation,
          (assertOperationIds_eq_ok_iff pathItems).mp ids, schemes,
          references⟩,
        ⟨codes, pathItems, longer⟩, synthetic⟩
  · rintro ⟨meets, reads, synthetic⟩
    exact
      ⟨(assertPaths_eq_ok_iff reads.pathItems).mpr meets.pathsExist,
        ⟨meets.responsesDocumented, reads.statusCodes⟩,
        ⟨meets.validationDocumented, synthetic⟩,
        (assertOperationIds_eq_ok_iff reads.pathItems).mpr
          meets.operationIdsDistinct,
        meets.securitySchemesExist, meets.referencesResolve,
        reads.longReferences⟩

theorem meetsOpenapiContract_iff :
    MeetsOpenapiContract schema expectations ↔
      MeetsOtherExpectations schema expectations ∧
        Synthetic422Omitted schema expectations := by
  constructor
  · intro meets
    exact
      ⟨⟨meets.pathsExist, meets.responsesDocumented,
          meets.validationDocumented, meets.operationIdsDistinct,
          meets.securitySchemesExist, meets.referencesResolve⟩,
        meets.synthetic422Omitted⟩
  · rintro ⟨others, omitted⟩
    exact
      ⟨others.pathsExist, others.responsesDocumented,
        others.validationDocumented, omitted, others.operationIdsDistinct,
        others.securitySchemesExist, others.referencesResolve⟩

/-- An assertion which does not return raises. -/
theorem decidesContract_iff_returns :
    DecidesContract schema expectations ↔
      (assertOpenapiContract schema.root expectations = .ok () ↔
        MeetsOpenapiContract schema expectations) := by
  refine ⟨DecidesContract.returns_iff, fun returns => ⟨returns, ?_⟩⟩
  intro broken
  cases outcome : assertOpenapiContract schema.root expectations with
  | ok returned => exact (broken (returns.mp outcome)).elim
  | error raised => exact ⟨raised, rfl⟩

/--
For a schema which meets the other expectations, the assertion decides the
contract exactly if it can read a schema which omits the code 422, and if it
looks for the code, or cannot read the schema, when the code is documented.
-/
theorem decidesContract_iff (schema : OpenApiSchema)
    (expectations : OpenapiExpectations) :
    DecidesContract schema expectations ↔
      (MeetsOtherExpectations schema expectations →
        (Synthetic422Omitted schema expectations →
            ReadsThroughout schema expectations) ∧
          (¬Synthetic422Omitted schema expectations →
            expectations.validationStatus ≠ none ∨
              ¬ReadsThroughout schema expectations)) := by
  rw [decidesContract_iff_returns, assertOpenapiContract_eq_ok_iff,
    meetsOpenapiContract_iff]
  constructor
  · intro decides others
    refine ⟨?_, ?_⟩
    · intro omitted
      exact (decides.mpr ⟨others, omitted⟩).2.1
    · intro documented
      by_cases given : expectations.validationStatus = none
      · refine Or.inr fun reads => documented ?_
        have returns := decides.mp
          ⟨others, reads, fun present => (present given).elim⟩
        exact returns.2
      · exact Or.inl given
  · intro condition
    constructor
    · rintro ⟨others, reads, synthetic⟩
      refine ⟨others, ?_⟩
      by_contra documented
      rcases (condition others).2 documented with given | unread
      · exact documented (synthetic given)
      · exact unread reads
    · rintro ⟨others, omitted⟩
      exact ⟨others, (condition others).1 omitted, fun _ => omitted⟩

/-! ## A documented code 422 which is not looked for -/

theorem unique_of_walk {tree : JsonTree}
    (walked :
      tree.walkObjects
          (fun inner =>
            if (memberNames inner).Nodup then Except.ok ()
            else .error "repeated name") = .ok ())
    (inner : List (String × JsonTree))
    (inside : JsonTree.Inside (.object inner) tree) :
    (memberNames inner).Nodup := by
  have passes := (JsonTree.walkObjects_eq_ok_iff tree).mp walked inner inside
  by_contra repeated
  rw [if_neg repeated] at passes
  cases passes

/-- An operation which documents the codes 200 and 422, and a default. -/
def itemsOperation : List (String × JsonTree) :=
  [("operationId", .text "list_items"),
    ("responses",
      .object
        [("200", .object []), ("422", .object []), ("default", .object [])])]

/-- A schema with one operation. -/
def itemsSchema : OpenApiSchema where
  members :=
    [("paths",
      .object [("/items", .object [("get", .object itemsOperation)])])]
  unique := unique_of_walk rfl
  paths := by
    rintro _ ⟨⟩
    exact ⟨_, rfl⟩
  pathItems := by
    intro path pathItem member
    cases List.mem_singleton.mp member
    refine ⟨?_, ?_⟩
    · intro name value valueMember _
      cases List.mem_singleton.mp valueMember
      refine ⟨itemsOperation, rfl, ?_⟩
      rintro _ ⟨⟩
      exact Or.inr ⟨_, rfl⟩
    · intro name operation operationMember
      cases List.mem_singleton.mp operationMember
      refine ⟨?_, ?_⟩
      · rintro _ ⟨⟩
        exact ⟨_, rfl⟩
      · intro key keyMember
        have keys : responseKeys itemsOperation = ["200", "422", "default"] :=
          rfl
        rw [keys] at keyMember
        simp only [List.mem_cons, List.not_mem_nil, or_false] at keyMember
        rcases keyMember with rfl | rfl | rfl
        · exact Or.inl ⟨200, rfl⟩
        · exact Or.inl ⟨422, rfl⟩
        · exact Or.inr (Or.inl (by simp))
  components := by rintro _ ⟨⟩
  securitySchemes := by rintro _ ⟨⟩
  schemas := by rintro _ ⟨⟩

/-- The operation is expected to exist, and not to document the code 422. -/
def itemsExpectations : OpenapiExpectations where
  expectedPaths := OrderedDict.empty.insert "/items" ["GET"]
  includeSynthetic422 := some false

theorem not_forall_decidesContract :
    ¬∀ schema expectations, DecidesContract schema expectations := by
  intro decides
  have returned :
      assertOpenapiContract itemsSchema.root itemsExpectations = .ok () :=
    rfl
  have meets := (decides _ _).returns_iff.mp returned
  have documents : itemsSchema.Documents "/items" "GET" 422 :=
    ⟨itemsOperation, ⟨[("get", .object itemsOperation)], rfl, rfl⟩,
      by decide⟩
  exact
    meets.synthetic422Omitted rfl "/items" ["GET"]
      (OrderedDict.get?_eq_some_iff.mp rfl) "GET" (by simp) documents

/-- The default response stops the comparison of the expected responses. -/
example :
    assertOpenapiContract itemsSchema.root
        { expectedPaths := .empty
          expectedResponses :=
            some (OrderedDict.empty.insert ("/items", "GET") [200]) } =
      .error
        (.valueError
          "invalid literal for int() with base 10: 'default'") :=
  rfl

end FastapiCore
