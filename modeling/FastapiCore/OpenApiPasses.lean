import FastapiCore.DictionaryChanges
import FastapiCore.Library.Effect
import FastapiCore.OpenApiContract

/-!
# The passes over the generated schema

`app.openapi()` hands the schema which FastAPI generates and caches through
two functions, which change it in place: one sets the token URL of the OAuth2
scheme, the other documents the transport policies.  Here they are functions
on the JSON document itself, with the exceptions of Python for documents of
another shape.

On a document as FastAPI generates it both are changes at paths which part
from each other, so every call returns one and the same schema.
-/

namespace FastapiCore

open Library
open Library.JsonTree

/-! ## The two passes -/

/-- `app_openapi` of `_configure_oauth2_scheme`, after the default one. -/
def assignTokenUrl (tokenUrl : String) (schema : JsonTree) :
    Except PyExc JsonTree :=
  getInPlace schema "components" fun components =>
    getInPlace components "securitySchemes" fun securitySchemes =>
      getInPlace securitySchemes "OAuth2PasswordBearer" <|
        unlessNone fun scheme =>
          subscriptInPlace scheme "flows" fun flows =>
            subscriptInPlace flows "password" <|
              assignItem "tokenUrl" (.text tokenUrl)

/-- `{"description": "Request validation error"}`. -/
def validationObject : JsonTree :=
  .object [("description", .text "Request validation error")]

/-- The responses of an operation after a policy has been documented. -/
def documentResponses (policy : TransportPolicy) (responses : Members) :
    Members :=
  let declared :=
    setDefaultMember (toString policy.effectiveValidationStatus)
      validationObject responses
  if policy.effectiveIncludeSynthetic422 then declared
  else popMember "422" declared

/-- What `app_openapi` does with an operation which is not `None`. -/
def documentOperation (policy : TransportPolicy) (operation : JsonTree) :
    Except PyExc JsonTree := do
  let members ← dictMembers "setdefault" operation
  let declared := setDefaultMember "responses" (.object []) members
  let responses ←
    dictMembers "setdefault"
      ((declared.lookup "responses").getD (.object []))
  pure
    (.object
      (alterMember "responses"
        (fun _ => .object (documentResponses policy responses)) declared))

/-- The body of the loop in `app_openapi` over the transport policies. -/
def documentPolicy (entry : (String × String) × TransportPolicy)
    (schema : JsonTree) : Except PyExc JsonTree :=
  getInPlace schema "paths" fun paths =>
    getInPlace paths entry.1.2 fun pathItem =>
      getInPlace pathItem (lower entry.1.1) <|
        unlessNone (documentOperation entry.2)

/-- A block which works on the cached schema. -/
abbrev SchemaBlock := Effect JsonTree PyExc

/-- Change the cached schema, unless the change raises. -/
def changeSchema (change : JsonTree → Except PyExc JsonTree) :
    SchemaBlock PUnit := do
  let schema ← Effect.read
  let changed ← Effect.ofExcept (change schema)
  Effect.update fun _ => changed

/-- `app.openapi()`, once the default function has cached a schema. -/
def openapiCall (tokenUrl : String)
    (policies : OrderedDict (String × String) TransportPolicy) :
    SchemaBlock JsonTree := do
  changeSchema (assignTokenUrl tokenUrl)
  forM policies.entries fun entry => changeSchema (documentPolicy entry)
  Effect.read

/-- What the calls of `app.openapi()` return, one after the other. -/
def openapiCalls (tokenUrl : String)
    (policies : OrderedDict (String × String) TransportPolicy) :
    Nat → SchemaBlock JsonTree
  | 0 => openapiCall tokenUrl policies
  | call + 1 => do
      let _ ← openapiCall tokenUrl policies
      openapiCalls tokenUrl policies call

/-! ## The passes as changes at paths -/

/-- Where the password flow of the OAuth2 scheme is. -/
def passwordFlowPath : List String :=
  ["components", "securitySchemes", "OAuth2PasswordBearer", "flows",
    "password"]

/-- Where the operation of a policy is. -/
def operationPath (entry : (String × String) × TransportPolicy) :
    List String :=
  ["paths", entry.1.2, lower entry.1.1]

/-- The members of an operation after a policy has been documented. -/
def documentMembers (policy : TransportPolicy) (operation : Members) :
    Members :=
  alterMember "responses" (onObject (documentResponses policy))
    (setDefaultMember "responses" (.object []) operation)

/-- The change which a policy makes. -/
def documentStep (entry : (String × String) × TransportPolicy) : Step :=
  (operationPath entry, onObject (documentMembers entry.2))

/-- The changes which a call makes. -/
def openapiSteps (tokenUrl : String)
    (policies : OrderedDict (String × String) TransportPolicy) : List Step :=
  (passwordFlowPath, onObject (setMember "tokenUrl" (.text tokenUrl))) ::
    policies.entries.map documentStep

/-! ## Documents of the expected shape -/

/-- The OAuth2 scheme, if there is one, has a password flow. -/
def HasPasswordFlow (tree : JsonTree) : Prop :=
  ∀ scheme,
    tree.at? ["components", "securitySchemes", "OAuth2PasswordBearer"] =
        some scheme →
      scheme = .scalar .null ∨
        ∃ password, scheme.at? ["flows", "password"] =
          some (.object password)

/-- The document has the shape which both passes rely on. -/
structure Documentable
    (policies : OrderedDict (String × String) TransportPolicy)
    (tree : JsonTree) : Prop where
  securitySchemes : ObjectsAlong ["components", "securitySchemes"] tree
  passwordFlow : HasPasswordFlow tree
  operations :
    ∀ entry ∈ policies.entries, ObjectsAlong (operationPath entry) tree
  responses :
    ∀ entry ∈ policies.entries, ∀ operation,
      tree.at? (operationPath entry) = some (.object operation) →
        HoldsObject operation "responses"

/-- What the members of the OAuth2 scheme become. -/
theorem assignTokenUrl_eq_ok (tokenUrl : String) {tree : JsonTree}
    (shape : ObjectsAlong ["components", "securitySchemes"] tree)
    (flow : HasPasswordFlow tree) :
    assignTokenUrl tokenUrl tree =
      .ok
        (tree.alterAt passwordFlowPath
          (onObject (setMember "tokenUrl" (.text tokenUrl)))) := by
  rcases shape with ⟨members, rfl, shape⟩
  apply getInPlace_eq_ok
  intro components looked
  rcases shape components looked with ⟨inner, rfl, shape⟩
  apply getInPlace_eq_ok
  intro securitySchemes found
  rcases shape securitySchemes found with ⟨schemes, rfl⟩
  apply getInPlace_eq_ok
  intro scheme present
  have here : (JsonTree.object members).at?
      ["components", "securitySchemes", "OAuth2PasswordBearer"] =
        some scheme := by
    simp only [at?, looked, found, present, Option.bind_some]
  rcases flow scheme here with rfl | ⟨password, atPassword⟩
  · simp only [unlessNone, alterAt]
  · cases scheme with
    | scalar value => cases atPassword
    | array items => cases atPassword
    | object schemeMembers =>
        simp only [at?, Option.bind_eq_some_iff] at atPassword
        rcases atPassword with ⟨flows, flowsFound, atPassword⟩
        cases flows with
        | scalar value => cases atPassword
        | array items => cases atPassword
        | object flowMembers =>
            simp only [at?, Option.bind_eq_some_iff] at atPassword
            rcases atPassword with ⟨found, passwordFound, same⟩
            cases same
            apply subscriptInPlace_eq_ok flowsFound
            apply subscriptInPlace_eq_ok passwordFound
            exact Eq.refl _

/-- An operation has responses after `setdefault`. -/
theorem exists_responses {operation : Members}
    (holds : HoldsObject operation "responses") :
    ∃ responses,
      (setDefaultMember "responses" (.object []) operation).lookup
          "responses" =
        some (.object responses) := by
  by_cases present : "responses" ∈ memberNames operation
  · rcases exists_lookup_of_mem present with ⟨value, looked⟩
    rcases holds value looked with ⟨responses, rfl⟩
    exact ⟨responses, by simpa only [setDefaultMember, present, if_true]⟩
  · refine ⟨[], ?_⟩
    simp only [setDefaultMember, present, if_false, List.lookup_append,
      lookup_eq_none_of_not_mem present, Option.none_or,
      List.lookup_cons_self]

/-- What the operation of a policy becomes. -/
theorem documentOperation_eq_ok {policy : TransportPolicy}
    {operation : Members} (holds : HoldsObject operation "responses") :
    documentOperation policy (.object operation) =
      .ok (.object (documentMembers policy operation)) := by
  rcases exists_responses holds with ⟨responses, looked⟩
  have agree : ∀ value,
      (setDefaultMember "responses" (.object []) operation).lookup
          "responses" = some value →
        JsonTree.object (documentResponses policy responses) =
          onObject (documentResponses policy) value := by
    intro value again
    cases looked.symm.trans again
    exact congrArg JsonTree.object (Eq.refl _)
  simp only [documentOperation, dictMembers, looked, Option.getD_some, bind,
    pure, Except.bind, Except.pure, documentMembers,
    alterMember_congr agree]

theorem documentPolicy_eq_ok
    {entry : (String × String) × TransportPolicy} {tree : JsonTree}
    (shape : ObjectsAlong (operationPath entry) tree)
    (holds : ∀ operation,
      tree.at? (operationPath entry) = some (.object operation) →
        HoldsObject operation "responses") :
    documentPolicy entry tree =
      .ok
        (tree.alterAt (operationPath entry)
          (onObject (documentMembers entry.2))) := by
  rcases shape with ⟨members, rfl, shape⟩
  apply getInPlace_eq_ok
  intro paths looked
  rcases shape paths looked with ⟨inner, rfl, shape⟩
  apply getInPlace_eq_ok
  intro pathItem found
  rcases shape pathItem found with ⟨operations, rfl, shape⟩
  apply getInPlace_eq_ok
  intro value present
  rcases shape value present with ⟨operation, rfl⟩
  apply documentOperation_eq_ok
  apply holds
  simp only [operationPath, at?, looked, found, present, Option.bind_some]

/-! ## Documenting again changes nothing -/

theorem documentResponses_documentResponses (policy : TransportPolicy)
    (responses : Members) :
    documentResponses policy (documentResponses policy responses) =
      documentResponses policy responses := by
  let status := toString policy.effectiveValidationStatus
  let declared := setDefaultMember status validationObject responses
  have present : status ∈ memberNames declared :=
    mem_memberNames_setDefaultMember.mpr (.inl (Eq.refl _))
  simp only [documentResponses]
  split
  · exact setDefaultMember_of_mem present
  · have popped : popMember "422" (popMember "422" declared) =
        popMember "422" declared := by
      simp only [popMember, List.filter_filter, Bool.and_self]
    have absent : "422" ∉ memberNames (popMember "422" declared) :=
      fun member => (mem_memberNames_popMember.mp member).2 (Eq.refl _)
    by_cases synthetic : status = "422"
    · have appended :
          setDefaultMember status validationObject
              (popMember "422" declared) =
            popMember "422" declared ++ [("422", validationObject)] := by
        simp only [setDefaultMember, synthetic, absent, if_false]
      calc popMember "422"
            (setDefaultMember status validationObject
              (popMember "422" declared))
        _ = popMember "422"
              (popMember "422" declared ++ [("422", validationObject)]) :=
            congrArg (popMember "422") appended
        _ = popMember "422" (popMember "422" declared) := by
            simp [popMember]
        _ = popMember "422" declared := popped
    · have kept : status ∈ memberNames (popMember "422" declared) :=
        mem_memberNames_popMember.mpr ⟨present, synthetic⟩
      exact (congrArg (popMember "422")
        (setDefaultMember_of_mem kept)).trans popped

theorem documentMembers_documentMembers (policy : TransportPolicy)
    (operation : Members) :
    documentMembers policy (documentMembers policy operation) =
      documentMembers policy operation := by
  have present :
      "responses" ∈ memberNames (documentMembers policy operation) := by
    simp only [documentMembers, memberNames, map_fst_alterMember]
    exact mem_memberNames_setDefaultMember.mpr (.inl (Eq.refl _))
  have settled :=
    onObject_comp_self (documentResponses_documentResponses policy)
  calc documentMembers policy (documentMembers policy operation)
    _ = alterMember "responses" (onObject (documentResponses policy))
          (documentMembers policy operation) :=
        congrArg _ (setDefaultMember_of_mem present)
    _ = documentMembers policy operation := by
        simp only [documentMembers, alterMember_alterMember, settled]

/-! ## One call -/

theorem holdsObject_documentMembers {policy : TransportPolicy}
    {operation : Members} (holds : HoldsObject operation "responses") :
    HoldsObject (documentMembers policy operation) "responses" := by
  rcases exists_responses holds with ⟨responses, looked⟩
  intro value found
  simp only [documentMembers, lookup_alterMember_self, looked,
    Option.map_some, Option.some.injEq] at found
  exact ⟨_, found.symm⟩

section Calls

variable {policies : OrderedDict (String × String) TransportPolicy}
  {tree : JsonTree} (tokenUrl : String)

theorem apart_operationPath
    {first second : (String × String) × TransportPolicy}
    (different : Schema.entryKey first ≠ Schema.entryKey second) :
    Apart (operationPath first) (operationPath second) := by
  by_cases path : first.1.2 = second.1.2
  · have methods : lower first.1.1 ≠ lower second.1.1 := fun same =>
      different (Prod.ext path same)
    exact Or.inr (.inr (.inl methods))
  · exact Or.inr (.inl path)

/-- The token URL leaves the document as both passes expect it. -/
theorem Documentable.assignTokenUrl (shape : Documentable policies tree)
    (change : Members → Members) :
    Documentable policies
      (tree.alterAt passwordFlowPath (onObject change)) where
  securitySchemes :=
    objectsAlong_alterAt shape.securitySchemes
      ["OAuth2PasswordBearer", "flows", "password"] change
  passwordFlow := by
    intro scheme present
    have altered :
        (tree.alterAt passwordFlowPath (onObject change)).at?
            ["components", "securitySchemes", "OAuth2PasswordBearer"] =
          (tree.at?
              ["components", "securitySchemes",
                "OAuth2PasswordBearer"]).map
            (alterAt ["flows", "password"] (onObject change)) :=
      at?_alterAt_append
        ["components", "securitySchemes", "OAuth2PasswordBearer"]
        ["flows", "password"] tree
    rcases Option.map_eq_some_iff.mp (altered.symm.trans present) with
      ⟨old, oldPresent, rfl⟩
    rcases shape.passwordFlow old oldPresent with rfl | ⟨password, found⟩
    · exact .inl (Eq.refl _)
    · refine .inr ⟨change password, ?_⟩
      simp only [at?_alterAt_self, found, Option.map_some, onObject]
  operations entry member :=
    objectsAlong_alterAt_of_apart (.of_ne (by decide))
      (shape.operations entry member) _
  responses entry member operation found :=
    shape.responses entry member operation
      ((at?_alterAt_of_apart (.of_ne (by decide))).symm.trans found)

/-- So does the policy of an operation. -/
theorem Documentable.document (shape : Documentable policies tree)
    (entry : (String × String) × TransportPolicy)
    (member : entry ∈ policies.entries) :
    Documentable policies
      (tree.alterAt (operationPath entry)
        (onObject (documentMembers entry.2))) where
  securitySchemes :=
    objectsAlong_alterAt_of_apart (.of_ne (by decide)) shape.securitySchemes _
  passwordFlow scheme present :=
    shape.passwordFlow scheme
      ((at?_alterAt_of_apart (.of_ne (by decide))).symm.trans present)
  operations other among := by
    by_cases same : Schema.entryKey entry = Schema.entryKey other
    · have here : operationPath other = operationPath entry ++ [] := by
        simp only [operationPath, List.append_nil,
          (Prod.mk.inj same).1, (Prod.mk.inj same).2]
      have kept := objectsAlong_alterAt (shape.operations entry member) []
        (documentMembers entry.2)
      simpa only [here, List.append_nil] using kept
    · exact objectsAlong_alterAt_of_apart (apart_operationPath same)
        (shape.operations other among) _
  responses other among operation found := by
    by_cases same : Schema.entryKey entry = Schema.entryKey other
    · have here : operationPath other = operationPath entry := by
        simp only [operationPath,
          (Prod.mk.inj same).1, (Prod.mk.inj same).2]
      simp only [here, at?_alterAt_self, Option.map_eq_some_iff] at found
      rcases found with ⟨value, present, changed⟩
      cases value with
      | scalar scalar => cases changed
      | array items => cases changed
      | object old =>
          cases changed
          exact holdsObject_documentMembers
            (shape.responses entry member old present)
    · exact shape.responses other among operation
        ((at?_alterAt_of_apart (apart_operationPath same)).symm.trans found)

theorem run_changeSchema {change : JsonTree → Except PyExc JsonTree}
    {changed : JsonTree} (returns : change tree = .ok changed) :
    (changeSchema change).run tree = (.ok ⟨⟩, changed) := by
  simp only [changeSchema]
  apply (Effect.run_read_bind _ tree).trans
  simp only [Effect.run_bind, Effect.run_ofExcept, returns]
  exact Eq.refl _

/-- A loop of changes at paths which keep what the changes rely on. -/
theorem run_forM_changeSchema {ι : Type} {elements : List ι}
    (change : ι → JsonTree → Except PyExc JsonTree) (step : ι → Step)
    {holds : JsonTree → Prop}
    (changes : ∀ element ∈ elements, ∀ current, holds current →
      change element current =
          .ok (current.alterAt (step element).1 (step element).2) ∧
        holds (current.alterAt (step element).1 (step element).2))
    (ready : holds tree) :
    (forM elements fun element => changeSchema (change element)).run tree =
      (.ok ⟨⟩, alterAll (elements.map step) tree) := by
  induction elements generalizing tree with
  | nil => exact Eq.refl _
  | cons element rest induction =>
      rcases List.forall_mem_cons.mp changes with ⟨first, others⟩
      rcases first tree ready with ⟨returns, kept⟩
      simp only [List.forM_cons, Effect.run_bind, run_changeSchema returns]
      exact induction others kept

/-- A call makes its changes and returns the schema. -/
theorem run_openapiCall (shape : Documentable policies tree) :
    (openapiCall tokenUrl policies).run tree =
      (.ok (alterAll (openapiSteps tokenUrl policies) tree),
        alterAll (openapiSteps tokenUrl policies) tree) := by
  have first :=
    assignTokenUrl_eq_ok tokenUrl shape.securitySchemes shape.passwordFlow
  have each : ∀ entry ∈ policies.entries, ∀ current,
      Documentable policies current →
        documentPolicy entry current =
            .ok
              (current.alterAt (operationPath entry)
                (onObject (documentMembers entry.2))) ∧
          Documentable policies
            (current.alterAt (operationPath entry)
              (onObject (documentMembers entry.2))) := by
    intro entry member current ready
    have returns :=
      documentPolicy_eq_ok (ready.operations entry member)
        (ready.responses entry member)
    exact ⟨returns, ready.document entry member⟩
  have loop :=
    run_forM_changeSchema documentPolicy documentStep each
      (shape.assignTokenUrl (setMember "tokenUrl" (.text tokenUrl)))
  simp only [openapiCall, Effect.run_bind, run_changeSchema first, loop]
  exact Eq.refl _

theorem Documentable.alterAll (shape : Documentable policies tree)
    {entries : List ((String × String) × TransportPolicy)}
    (among : ∀ entry ∈ entries, entry ∈ policies.entries) :
    Documentable policies
      (JsonTree.alterAll (entries.map documentStep) tree) := by
  induction entries generalizing tree with
  | nil => exact shape
  | cons entry rest induction =>
      rcases List.forall_mem_cons.mp among with ⟨first, others⟩
      exact induction (shape.document entry first) others

theorem Documentable.openapiSteps (shape : Documentable policies tree) :
    Documentable policies
      (JsonTree.alterAll (openapiSteps tokenUrl policies) tree) :=
  (shape.assignTokenUrl _).alterAll fun _ member => member

theorem pairwise_apart_openapiSteps
    (distinct : (policies.entries.map Schema.entryKey).Nodup) :
    (openapiSteps tokenUrl policies).Pairwise fun first second =>
      Apart first.1 second.1 := by
  apply List.pairwise_cons.mpr
  constructor
  · intro step member
    rcases List.mem_map.mp member with ⟨entry, -, rfl⟩
    exact .of_ne (by decide)
  · apply List.pairwise_map.mpr
    exact (List.pairwise_map.mp distinct).imp apart_operationPath

theorem comp_self_of_mem_openapiSteps {step : Step}
    (member : step ∈ openapiSteps tokenUrl policies) :
    step.2 ∘ step.2 = step.2 := by
  rcases List.mem_cons.mp member with rfl | later
  · exact onObject_comp_self (setMember_setMember _ _)
  · rcases List.mem_map.mp later with ⟨entry, -, rfl⟩
    exact onObject_comp_self (documentMembers_documentMembers entry.2)

/-- All calls return one and the same schema. -/
theorem run_openapiCalls
    (distinct : (policies.entries.map Schema.entryKey).Nodup)
    (shape : Documentable policies tree) (call : Nat) :
    (openapiCalls tokenUrl policies call).run tree =
      (.ok (alterAll (openapiSteps tokenUrl policies) tree),
        alterAll (openapiSteps tokenUrl policies) tree) := by
  induction call generalizing tree with
  | zero => exact run_openapiCall tokenUrl shape
  | succ call induction =>
      have settled :=
        alterAll_alterAll (pairwise_apart_openapiSteps tokenUrl distinct)
          (fun _ => comp_self_of_mem_openapiSteps tokenUrl) tree
      have later := induction (shape.openapiSteps tokenUrl)
      simp only [settled] at later
      simp only [openapiCalls, Effect.run_bind,
        run_openapiCall tokenUrl shape, later]

end Calls

end FastapiCore
