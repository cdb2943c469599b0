import FastapiCore.OpenApiAssertionLaw
import FastapiCore.OpenApiServed

/-!
# The contract of the served schema

The passes keep everything which `assert_openapi_contract` reads of a schema
but the response codes, and the references which are lost with a code.  So a
schema which meets the contract apart from its codes still does when it is
served, and its codes are those which the policies ask for.
-/

namespace FastapiCore

open Library
open Library.JsonTree

/-! ## Properties of objects which the passes keep -/

section Stable

variable {holds : Members → Prop} {members : Members} {name : String}
  {value : JsonTree}

theorem toString_ne_reference (status : Nat) : toString status ≠ "$ref" := by
  intro same
  have unread : integerValue "$ref" = none := by decide
  rw [← same, integerValue_natural] at unread
  cases unread

theorem Stable.everywhere_documentResponses (stable : Stable holds)
    (policy : TransportPolicy)
    (everywhere : Everywhere holds (.object members)) :
    Everywhere holds (.object (documentResponses policy members)) := by
  have described : Everywhere holds validationObject :=
    stable.everywhere_append List.not_mem_nil (by decide)
      (everywhere_empty stable) (everywhere_scalar _)
  have declared :=
    stable.everywhere_setDefault
      (toString_ne_reference policy.effectiveValidationStatus) everywhere
      described
  simp only [documentResponses]
  split
  · exact declared
  · exact stable.everywhere_pop (by decide) declared

theorem Stable.everywhere_documentMembers (stable : Stable holds)
    (policy : TransportPolicy)
    (everywhere : Everywhere holds (.object members)) :
    Everywhere holds (.object (documentMembers policy members)) := by
  have declared : Everywhere holds
      (.object (setDefaultMember "responses" (.object []) members)) :=
    stable.everywhere_setDefault (by decide) everywhere
      (everywhere_empty stable)
  have changed :
      Everywhere holds
        ((JsonTree.object
            (setDefaultMember "responses" (.object []) members)).alterAt
          ["responses"] (onObject (documentResponses policy))) :=
    stable.everywhere_alterAt declared fun _ =>
      stable.everywhere_documentResponses policy
  exact changed

theorem Stable.everywhere_openapiSteps (stable : Stable holds)
    {policies : OrderedDict (String × String) TransportPolicy}
    {tree : JsonTree} (tokenUrl : String)
    (everywhere : Everywhere holds tree) :
    Everywhere holds (alterAll (openapiSteps tokenUrl policies) tree) := by
  have first :
      Everywhere holds
        (tree.alterAt passwordFlowPath
          (onObject (setMember "tokenUrl" (.text tokenUrl)))) :=
    stable.everywhere_alterAt everywhere fun _ below =>
      stable.everywhere_set (by decide) below (everywhere_scalar _)
  have others :
      ∀ (entries : List ((String × String) × TransportPolicy)) current,
        Everywhere holds current →
          Everywhere holds (alterAll (entries.map documentStep) current) := by
    intro entries
    induction entries with
    | nil => exact fun _ kept => kept
    | cons entry rest induction =>
        intro current kept
        apply induction
        exact stable.everywhere_alterAt kept fun _ =>
          stable.everywhere_documentMembers entry.2
  exact others policies.entries _ first

end Stable

/-! ## The served schema -/

section Served

variable {policies : OrderedDict (String × String) TransportPolicy}
  {tree : JsonTree} {tokenUrl : String}

theorem besideOrBelow_openapiSteps {path : List String}
    (place :
      path ∈ readPaths ∨ ∃ name, path = ["paths", name]) :
    ∀ step ∈ openapiSteps tokenUrl policies, BesideOrBelow path step := by
  intro step member
  rcases List.mem_cons.mp member with rfl | later
  · rcases place with read | ⟨name, rfl⟩
    · simp only [readPaths, List.mem_cons, List.not_mem_nil, or_false]
        at read
      rcases read with rfl | rfl | rfl | rfl
      · exact .inl (.of_ne (by decide))
      · exact .inr ⟨_, _, Eq.refl _⟩
      · exact .inr ⟨_, _, Eq.refl _⟩
      · exact .inl (Or.inr (.of_ne (by decide)))
    · exact .inl (.of_ne (by decide))
  · rcases List.mem_map.mp later with ⟨entry, -, rfl⟩
    rcases place with read | ⟨name, rfl⟩
    · simp only [readPaths, List.mem_cons, List.not_mem_nil, or_false]
        at read
      rcases read with rfl | rfl | rfl | rfl
      · exact .inr ⟨_, _, Eq.refl _⟩
      · exact .inl (.of_ne (by decide))
      · exact .inl (.of_ne (by decide))
      · exact .inl (.of_ne (by decide))
    · by_cases same : entry.1.2 = name
      · subst same
        exact .inr ⟨_, _, Eq.refl _⟩
      · exact .inl (Or.inr (.of_ne same))

/-- A policy documents the operation under its key. -/
theorem at?_openapiSteps_of_mem {path name : String}
    (distinct : (policies.entries.map Schema.entryKey).Nodup)
    {entry : (String × String) × TransportPolicy}
    (member : entry ∈ policies.entries)
    (key : Schema.entryKey entry = (path, name)) :
    (alterAll (openapiSteps tokenUrl policies) tree).at?
        ["paths", path, name] =
      (tree.at? ["paths", path, name]).map
        (onObject (documentMembers entry.2)) := by
  have here : operationPath entry = ["paths", path, name] := by
    simp only [operationPath, ← (Prod.mk.inj key).1,
      ← (Prod.mk.inj key).2]
  have among : documentStep entry ∈ openapiSteps tokenUrl policies :=
    List.mem_cons_of_mem _ (List.mem_map_of_mem member)
  have changed :=
    at?_alterAll_of_mem (pairwise_apart_openapiSteps tokenUrl distinct)
      among tree
  simpa only [documentStep, here] using changed

theorem at?_openapiSteps_of_ne {path name : String}
    (others :
      ∀ entry ∈ policies.entries, Schema.entryKey entry ≠ (path, name)) :
    (alterAll (openapiSteps tokenUrl policies) tree).at?
        ["paths", path, name] =
      tree.at? ["paths", path, name] := by
  apply at?_alterAll_of_apart
  intro step member
  rcases List.mem_cons.mp member with rfl | later
  · exact .of_ne (by decide)
  · rcases List.mem_map.mp later with ⟨entry, among, rfl⟩
    by_cases samePath : entry.1.2 = path
    · have methods : lower entry.1.1 ≠ name := fun sameName =>
        others entry among (Prod.ext samePath sameName)
      exact Or.inr (.inr (.of_ne methods))
    · exact Or.inr (.of_ne samePath)

theorem OperationShape.documentMembers {name : String} {value : JsonTree}
    (shape : OperationShape name value) (policy : TransportPolicy) :
    OperationShape name (onObject (documentMembers policy) value) := by
  constructor
  · intro http
    rcases shape.method http with ⟨operation, rfl, identified⟩
    refine ⟨_, Eq.refl _, ?_⟩
    intro found looked
    apply identified
    simpa only [FastapiCore.documentMembers,
      lookup_alterMember_of_ne (show "operationId" ≠ "responses" by decide),
      lookup_setDefaultMember_of_ne
        (show "operationId" ≠ "responses" by decide)] using looked
  · intro operation same
    cases value with
    | scalar scalar => cases same
    | array items => cases same
    | object members =>
        cases same
        rcases shape.responses members (Eq.refl _) with ⟨holds, keys⟩
        refine ⟨holdsObject_documentMembers holds, ?_⟩
        intro key member
        rw [responseKeys_documentMembers holds] at member
        rcases mem_documentedCodes_iff.mp member with ⟨rfl | old, -⟩
        · exact .inl ⟨_, Eq.refl _⟩
        · exact keys key old

/-- The passes leave a schema a schema. -/
theorem SchemaShape.openapiSteps
    (distinct : (policies.entries.map Schema.entryKey).Nodup)
    (shape : SchemaShape tree) (tokenUrl : String) :
    SchemaShape (alterAll (openapiSteps tokenUrl policies) tree) where
  unique := stable_unique.everywhere_openapiSteps tokenUrl shape.unique
  objects path member := by
    rw [outline_alterAll (besideOrBelow_openapiSteps (.inl member))]
    exact shape.objects path member
  operations path name value found := by
    by_cases met :
      ∃ entry ∈ policies.entries, Schema.entryKey entry = (path, name)
    · rcases met with ⟨entry, member, key⟩
      rcases Option.map_eq_some_iff.mp
        ((at?_openapiSteps_of_mem distinct member key).symm.trans found) with
        ⟨old, present, rfl⟩
      exact
        (shape.operations path name old present).documentMembers entry.2
    · have others :
          ∀ entry ∈ policies.entries,
            Schema.entryKey entry ≠ (path, name) :=
        fun entry member key => met ⟨entry, member, key⟩
      exact shape.operations path name value
        ((at?_openapiSteps_of_ne others).symm.trans found)

end Served

/-! ## The assertion on the served schema -/

theorem toLower_toUpper_char (char : Char) :
    char.toUpper.toLower = char.toLower := by
  by_cases isLower : 'a'.val ≤ char.val ∧ char.val ≤ 'z'.val
  · have raised : char.toUpper.val = char.val + ('A'.val - 'a'.val) :=
      val_toUpper isLower
    have low : 97 ≤ char.val.toNat := UInt32.le_iff_toNat_le.mp isLower.1
    have high : char.val.toNat ≤ 122 := UInt32.le_iff_toNat_le.mp isLower.2
    have value :
        (char.val + ('A'.val - 'a'.val)).toNat = char.val.toNat - 32 := by
      rw [UInt32.toNat_add]
      show (char.val.toNat + 4294967264) % 2 ^ 32 = char.val.toNat - 32
      omega
    have isUpper :
        char.toUpper.val ≥ 'A'.val ∧ char.toUpper.val ≤ 'Z'.val := by
      rw [raised, ge_iff_le, UInt32.le_iff_toNat_le,
        UInt32.le_iff_toNat_le, value]
      show 65 ≤ char.val.toNat - 32 ∧ char.val.toNat - 32 ≤ 90
      omega
    have notUpper : ¬(char.val ≥ 'A'.val ∧ char.val ≤ 'Z'.val) := by
      rintro ⟨-, bound⟩
      have last : char.val.toNat ≤ 90 := UInt32.le_iff_toNat_le.mp bound
      omega
    have kept : char.toLower = char := dif_neg notUpper
    ext : 1
    rw [val_toLower isUpper, raised, kept, ← UInt32.toNat_inj,
      UInt32.toNat_add, value]
    show (char.val.toNat - 32 + 32) % 2 ^ 32 = char.val.toNat
    omega
  · have kept : char.toUpper = char := by
      delta Char.toUpper
      exact dif_neg isLower
    rw [kept]

theorem lower_upper (text : String) : lower (upper text) = lower text := by
  simp only [lower, upper, String.toList_ofList, List.map_map]
  apply congrArg String.ofList
  apply List.map_congr_left
  intro char _
  exact toLower_toUpper_char char

/-- The codes which are served for the operation at a path and a method. -/
def AppRoutes.servedCodes (app : AppRoutes) (tree : JsonTree)
    (path method : String) : Option (List String) :=
  (codesAt tree path (lower method)).map fun codes =>
    match app.routePolicy (some path) method with
    | none => codes
    | some policy => policy.documentedCodes codes

/-- The expectations about response codes, for codes which are given. -/
structure MeetsCodes (codes : String → String → Option (List String))
    (expectations : OpenapiExpectations) : Prop where
  responses :
    ∀ path method statuses,
      ((path, method), statuses) ∈
          (expectations.expectedResponses.getD .empty).entries →
        ∃ documented, codes path method = some documented ∧
          (∀ code ∈ documented, IsStatusCode code) ∧
            ∀ status ∈ statuses, toString status ∈ documented
  validation :
    ∀ validationStatus,
      expectations.validationStatus = some validationStatus →
        expectations.EveryMethod fun path method =>
          ∃ documented, codes path method = some documented ∧
            toString validationStatus ∈ documented ∧
              (expectations.includeSynthetic422 = some false →
                "422" ∉ documented)

/-- The expectations which are not about response codes. -/
def OpenapiExpectations.apartFromCodes (expectations : OpenapiExpectations) :
    OpenapiExpectations :=
  { expectations with expectedResponses := none, validationStatus := none }

section Contract

variable {schema later : OpenApiSchema} {expectations : OpenapiExpectations}

theorem OpenApiSchema.documents_iff {path method : String} {status : Int} :
    schema.Documents path method status ↔
      ∃ documented,
        codesAt schema.root path (lower method) = some documented ∧
          toString status ∈ documented := by
  simp only [codesAt_eq_some_iff, Documents]
  constructor
  · rintro ⟨operation, operationAt, member⟩
    exact ⟨_, ⟨operation, operationAt, Eq.refl _⟩, member⟩
  · rintro ⟨_, ⟨operation, operationAt, rfl⟩, member⟩
    exact ⟨operation, operationAt, member⟩

/-- The part of the law which is about codes. -/
theorem meetsCodes_iff :
    MeetsCodes (fun path method => codesAt schema.root path (lower method))
        expectations ↔
      (ResponsesDocumented schema expectations ∧
          ∀ path method statuses operation,
            ((path, method), statuses) ∈
                (expectations.expectedResponses.getD .empty).entries →
              schema.OperationAt path method operation →
                ∀ key ∈ responseKeys operation, IsStatusCode key) ∧
        ValidationDocumented schema expectations ∧
          (expectations.validationStatus ≠ none →
            Synthetic422Omitted schema expectations) := by
  constructor
  · rintro ⟨responses, validation⟩
    refine ⟨⟨?_, ?_⟩, ?_, ?_⟩
    · intro path method statuses member
      rcases responses path method statuses member with
        ⟨documented, found, -, statusesFound⟩
      rcases OpenApiSchema.codesAt_eq_some_iff.mp found with
        ⟨operation, operationAt, rfl⟩
      exact ⟨operation, operationAt, statusesFound⟩
    · intro path method statuses operation member operationAt
      rcases responses path method statuses member with
        ⟨documented, found, codes, -⟩
      rcases OpenApiSchema.codesAt_eq_some_iff.mp found with
        ⟨other, otherAt, rfl⟩
      exact operationAt.unique otherAt ▸ codes
    · intro validationStatus given path methods member method among
      rcases validation validationStatus given path methods member method
        among with ⟨documented, found, present, -⟩
      exact OpenApiSchema.documents_iff.mpr ⟨documented, found, present⟩
    · intro given excluded path methods member method among documents
      rcases Option.ne_none_iff_exists'.mp given with
        ⟨validationStatus, isGiven⟩
      rcases validation validationStatus isGiven path methods member method
        among with ⟨documented, found, -, omitted⟩
      rcases OpenApiSchema.documents_iff.mp documents with
        ⟨other, again, present⟩
      cases found.symm.trans again
      exact omitted excluded present
  · rintro ⟨⟨responses, codes⟩, validation, synthetic⟩
    constructor
    · intro path method statuses member
      rcases responses path method statuses member with
        ⟨operation, operationAt, statusesFound⟩
      exact
        ⟨_,
          OpenApiSchema.codesAt_eq_some_iff.mpr
            ⟨operation, operationAt, Eq.refl _⟩,
          codes path method statuses operation member operationAt,
          statusesFound⟩
    · intro validationStatus given path methods member method among
      rcases OpenApiSchema.documents_iff.mp
        (validation validationStatus given path methods member method
          among) with ⟨documented, found, present⟩
      refine ⟨documented, found, present, ?_⟩
      intro excluded synthetic422
      have isGiven : expectations.validationStatus ≠ none := by
        simp only [given, ne_eq, reduceCtorEq, not_false_eq_true]
      exact
        synthetic isGiven excluded path methods member method among
          (OpenApiSchema.documents_iff.mpr
            ⟨documented, found, synthetic422⟩)

/-- The assertion is the one without codes and the one about codes. -/
theorem assertOpenapiContract_eq_ok_iff_codes :
    assertOpenapiContract schema.root expectations = .ok () ↔
      assertOpenapiContract schema.root expectations.apartFromCodes =
          .ok () ∧
        MeetsCodes
          (fun path method => codesAt schema.root path (lower method))
          expectations := by
  simp only [assertOpenapiContract_eq_ok_iff, meetsCodes_iff]
  constructor
  · rintro ⟨others, reads, synthetic⟩
    refine
      ⟨⟨⟨others.pathsExist, ?_, ?_, others.operationIdsDistinct,
            others.securitySchemesExist, others.referencesResolve⟩,
          ⟨?_, reads.pathItems, reads.longReferences⟩, ?_⟩,
        ⟨others.responsesDocumented, reads.statusCodes⟩,
        others.validationDocumented, synthetic⟩
    · intro path method statuses member
      cases member
    · intro validationStatus given
      cases given
    · intro path method statuses operation member
      cases member
    · intro given
      exact absurd (Eq.refl _) given
  · rintro ⟨⟨others, reads, -⟩, ⟨responses, codes⟩, validation, synthetic⟩
    exact
      ⟨⟨others.pathsExist, responses, validation,
          others.operationIdsDistinct, others.securitySchemesExist,
          others.referencesResolve⟩,
        ⟨codes, reads.pathItems, reads.longReferences⟩, synthetic⟩

/-- Two schemas which differ at most in codes, and in lost references. -/
structure SameApartFromCodes (schema later : OpenApiSchema) : Prop where
  outlines :
    ∀ path, path ∈ readPaths ∨ (∃ name, path = ["paths", name]) →
      outline path later.root = outline path schema.root
  operationIds :
    ∀ path name,
      later.root.at? ["paths", path, name, "operationId"] =
        schema.root.at? ["paths", path, name, "operationId"]
  references :
    ∀ target, later.RefersTo target → schema.RefersTo target

/-- Expectations which are not about codes are still met. -/
theorem SameApartFromCodes.asserted (same : SameApartFromCodes schema later)
    (asserted :
      assertOpenapiContract schema.root expectations.apartFromCodes =
        .ok ()) :
    assertOpenapiContract later.root expectations.apartFromCodes =
      .ok () := by
  have names (path : List String)
      (read : path ∈ readPaths ∨ ∃ name, path = ["paths", name]) :
      namesAt later.root path = namesAt schema.root path := by
    simp only [namesAt, same.outlines path read]
  have pathNames :
      memberNames later.pathMembers = memberNames schema.pathMembers :=
    memberNames_objectMember.trans
      ((names _ (.inl (by simp [readPaths]))).trans
        memberNames_objectMember.symm)
  have schemes : later.securitySchemeNames = schema.securitySchemeNames :=
    memberNames_objectMember_objectMember.trans
      ((names _ (.inl (by simp [readPaths]))).trans
        memberNames_objectMember_objectMember.symm)
  have schemas : later.schemaNames = schema.schemaNames :=
    memberNames_objectMember_objectMember.trans
      ((names _ (.inl (by simp [readPaths]))).trans
        memberNames_objectMember_objectMember.symm)
  have methods (path method : String) :
      later.HasMethod path method ↔ schema.HasMethod path method := by
    simp only [OpenApiSchema.hasMethod_iff,
      names _ (.inr ⟨path, Eq.refl _⟩)]
  have identified (path method operationId : String) :
      later.HasOperationId path method operationId ↔
        schema.HasOperationId path method operationId := by
    simp only [OpenApiSchema.hasOperationId_iff, same.operationIds]
  rcases assertOpenapiContract_eq_ok_iff.mp asserted with
    ⟨others, reads, -⟩
  apply assertOpenapiContract_eq_ok_iff.mpr
  refine
    ⟨⟨?_, ?_, ?_, ?_, ?_, ?_⟩, ⟨?_, ?_, ?_⟩, ?_⟩
  · refine ⟨?_, ?_⟩
    · simpa only [pathNames] using others.pathsExist.1
    · simpa only [OpenapiExpectations.EveryMethod, methods] using
        others.pathsExist.2
  · intro path method statuses member
    cases member
  · intro validationStatus given
    cases given
  · simpa only [OperationIdsDistinct, identified] using
      others.operationIdsDistinct
  · simpa only [SecuritySchemesExist, schemes] using
      others.securitySchemesExist
  · intro name refers segment
    exact schemas ▸
      others.referencesResolve name (same.references name refers) segment
  · intro path method statuses operation member
    cases member
  · apply OpenApiSchema.pathItems_iff.mpr
    intro path
    rw [same.outlines _ (.inr ⟨path, Eq.refl _⟩)]
    exact OpenApiSchema.pathItems_iff.mp reads.pathItems path
  · intro target refers longer
    exact schemas ▸
      reads.longReferences target (same.references target refers) longer
  · intro given
    exact absurd (Eq.refl _) given

end Contract

/-! ## What an application serves -/

section Application

variable {request : RoutesRequest} {app : AppRoutes} (tokenUrl : String)

theorem codesAt_openapiSteps (created : request.createRoutes = .ok app)
    {tree : JsonTree} (shape : Documentable app.transportPolicies tree)
    (path method : String) :
    codesAt (alterAll (openapiSteps tokenUrl app.transportPolicies) tree)
        path (lower method) =
      app.servedCodes tree path method := by
  have distinct := nodup_entryKeys created
  simp only [AppRoutes.servedCodes, AppRoutes.routePolicy]
  cases recorded : app.transportPolicies.get? (upper method, path) with
  | none =>
      have others : ∀ entry ∈ app.transportPolicies.entries,
          Schema.entryKey entry ≠ (path, lower method) := by
        intro entry member key
        have methods : entry.1.1 = upper method := by
          calc entry.1.1
            _ = upper entry.1.1 := (upper_of_mem_entries created member).symm
            _ = upper (lower entry.1.1) := (upper_lower _).symm
            _ = upper (lower method) := congrArg upper (Prod.mk.inj key).2
            _ = upper method := upper_lower method
        have here : entry.1 = (upper method, path) :=
          Prod.ext methods (Prod.mk.inj key).1
        apply OrderedDict.get?_eq_none_iff.mp recorded
        exact here ▸ OrderedDict.mem_keys_of_mem_entries member
      simp only [codesAt, at?_openapiSteps_of_ne others]
      exact Option.map_id'.symm
  | some policy =>
      have member := OrderedDict.get?_eq_some_iff.mp recorded
      have key :
          Schema.entryKey ((upper method, path), policy) =
            (path, lower method) :=
        congrArg (Prod.mk path) (lower_upper method)
      simp only [codesAt, at?_openapiSteps_of_mem distinct member key]
      cases found : tree.at? ["paths", path, lower method] with
      | none => exact Eq.refl _
      | some value =>
          cases value with
          | scalar scalar => exact Eq.refl _
          | array items => exact Eq.refl _
          | object operation =>
              have here :
                  operationPath ((upper method, path), policy) =
                    ["paths", path, lower method] := by
                simp only [operationPath, lower_upper]
              have holds := shape.responses _ member operation
                (here ▸ found)
              simp only [Option.map_some, onObject,
                responseKeys_documentMembers holds]

/-- What a schema becomes is the same schema apart from its codes. -/
theorem exists_servedSchema (created : request.createRoutes = .ok app)
    (generated : OpenApiSchema) :
    ∃ served : OpenApiSchema,
      served.root =
          alterAll (openapiSteps tokenUrl app.transportPolicies)
            generated.root ∧
        SameApartFromCodes generated served := by
  have distinct := nodup_entryKeys created
  have below : ∀ step ∈ openapiSteps tokenUrl app.transportPolicies,
      step.1 ≠ [] := by
    intro step member
    rcases List.mem_cons.mp member with rfl | later
    · exact List.cons_ne_nil _ _
    · rcases List.mem_map.mp later with ⟨entry, -, rfl⟩
      exact List.cons_ne_nil _ _
  have shape := generated.shape.openapiSteps distinct tokenUrl
  rcases alterAll_object _ below generated.members with ⟨members, changed⟩
  have root :
      alterAll (openapiSteps tokenUrl app.transportPolicies)
          generated.root =
        .object members := changed
  simp only [root] at shape
  rcases shape.exists_schema with ⟨served, same⟩
  refine ⟨served, same.trans root.symm, ?_, ?_, ?_⟩
  · intro path place
    simp only [same, ← root]
    exact outline_alterAll (besideOrBelow_openapiSteps place) _
  · intro path name
    simp only [same, ← root]
    apply at?_alterAll_of_spares
    apply spares_openapiSteps
    constructor
    · exact .of_ne (by decide)
    · exact fun entry _ => Or.inr (.inr (.inr (.of_ne (by decide))))
    · exact fun entry _ => Or.inr (.inr (.inr (.of_ne (by decide))))
  · rintro target ⟨inner, inside, found⟩
    have references :
        Everywhere
          (fun inner =>
            ∀ target,
              inner.lookup "$ref" =
                  some (.text (schemaReferenceStart ++ target)) →
                generated.RefersTo target)
          generated.root :=
      fun inner inside target found => ⟨inner, inside, found⟩
    have kept :
        Everywhere _
          (alterAll (openapiSteps tokenUrl app.transportPolicies)
            generated.root) :=
      (stable_references generated.RefersTo).everywhere_openapiSteps
        tokenUrl references
    simp only [same, ← root] at inside
    exact kept inner inside target found

/--
If the generated schema meets the expectations which are not about codes,
then the assertion on what any call serves decides the expectations about
codes, for the generated codes with the policies documented.
-/
theorem assertOpenapiContract_served
    (created : request.createRoutes = .ok app)
    (generated : OpenApiSchema)
    (shape : Documentable app.transportPolicies generated.root)
    (expectations : OpenapiExpectations)
    (asserted :
      assertOpenapiContract generated.root expectations.apartFromCodes =
        .ok ())
    (call : Nat) :
    ∃ served,
      (openapiCalls tokenUrl app.transportPolicies call).run
            generated.root =
          (.ok served, served) ∧
        (assertOpenapiContract served expectations = .ok () ↔
          MeetsCodes (app.servedCodes generated.root) expectations) := by
  have distinct := nodup_entryKeys created
  rcases exists_servedSchema tokenUrl created generated with
    ⟨served, root, same⟩
  refine ⟨_, run_openapiCalls tokenUrl distinct shape call, ?_⟩
  have codes :
      (fun path method => codesAt served.root path (lower method)) =
        app.servedCodes generated.root := by
    funext path method
    simp only [root]
    exact codesAt_openapiSteps tokenUrl created shape path method
  rw [← root, assertOpenapiContract_eq_ok_iff_codes, codes]
  exact and_iff_right (same.asserted asserted)

end Application

/-! ## The schema of an application -/

/-- The generated document as a schema. -/
def widgetOpenApiSchema : OpenApiSchema where
  members := widgetMembers
  unique := unique_of_walk rfl
  paths := by
    rintro _ ⟨⟩
    exact ⟨_, rfl⟩
  pathItems := by
    intro path pathItem member
    cases List.mem_singleton.mp member
    refine ⟨?_, ?_⟩
    · intro name value valueMember _
      cases List.mem_singleton.mp valueMember
      refine ⟨widgetOperation, rfl, ?_⟩
      rintro _ ⟨⟩
      exact Or.inr ⟨_, rfl⟩
    · intro name operation operationMember
      cases List.mem_singleton.mp operationMember
      refine ⟨?_, ?_⟩
      · rintro _ ⟨⟩
        exact ⟨_, rfl⟩
      · intro key keyMember
        have keys : responseKeys widgetOperation = ["200", "400", "422"] :=
          rfl
        rw [keys] at keyMember
        simp only [List.mem_cons, List.not_mem_nil, or_false] at keyMember
        rcases keyMember with rfl | rfl | rfl
        · exact Or.inl ⟨200, rfl⟩
        · exact Or.inl ⟨400, rfl⟩
        · exact Or.inl ⟨422, rfl⟩
  components := by
    rintro _ ⟨⟩
    exact ⟨_, rfl⟩
  securitySchemes := by
    rintro _ ⟨⟩
    exact ⟨_, rfl⟩
  schemas := by rintro _ ⟨⟩

/-- The status 400 is expected, and the code 422 is not. -/
def widgetExpectations : OpenapiExpectations where
  expectedPaths := OrderedDict.empty.insert "/widgets" ["GET"]
  expectedSecuritySchemes := ["OAuth2PasswordBearer"]
  expectedResponses :=
    some (OrderedDict.empty.insert ("/widgets", "GET") [200, 400])
  validationStatus := some 400
  includeSynthetic422 := some false

theorem assertOpenapiContract_served_widget :
    ∃ served,
      (openapiCalls "/token" (widgetRoutes badRequestPolicy).transportPolicies
            1).run
            widgetOpenApiSchema.root =
          (.ok served, served) ∧
        (assertOpenapiContract served widgetExpectations = .ok () ↔
          MeetsCodes
            ((widgetRoutes badRequestPolicy).servedCodes
              widgetOpenApiSchema.root)
            widgetExpectations) :=
  assertOpenapiContract_served "/token"
    (createRoutes_widgetRequest badRequestPolicy) widgetOpenApiSchema
    (documentable_widget (entries_widgetRoutes badRequestPolicy))
    widgetExpectations rfl 1

end FastapiCore
