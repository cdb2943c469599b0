import FastapiCore.Library.JsonMeaning
import FastapiCore.Library.JsonPath
import FastapiCore.OpenApiExpectations

/-!
# Schemas read by their paths

What `assert_openapi_contract` reads of a schema is at fixed paths: which
members the objects have, which codes an operation documents, and which
operation IDs there are.
-/

namespace FastapiCore

open Library
open Library.JsonTree

/-! ## Schemas by their paths -/

section Paths

variable {members : Members} {path name other : String} {value : JsonTree}

theorem outline_ne_iff {path : List String} {tree : JsonTree} :
    outline path tree ≠ some none ↔
      ∀ value, tree.at? path = some value →
        ∃ inner, value = .object inner := by
  simp only [outline]
  cases found : tree.at? path with
  | none => simp
  | some value => cases value <;> simp [namesOf]

theorem at?_singleton (members : Members) (name : String) :
    (JsonTree.object members).at? [name] = members.lookup name := by
  cases found : members.lookup name <;> simp [at?, found]

theorem lookup_objectMember (members : Members) (name other : String) :
    (objectMember members name).lookup other =
      (JsonTree.object members).at? [name, other] := by
  simp only [objectMember, at?]
  cases members.lookup name with
  | none => exact Eq.refl _
  | some value =>
      cases value with
      | scalar scalar => exact Eq.refl _
      | array items => exact Eq.refl _
      | object inner => exact (at?_singleton inner other).symm

theorem holdsObject_iff :
    HoldsObject members name ↔
      outline [name] (.object members) ≠ some none := by
  simp only [outline_ne_iff, at?_singleton, HoldsObject]

theorem holdsObject_objectMember_iff :
    HoldsObject (objectMember members name) other ↔
      outline [name, other] (.object members) ≠ some none := by
  simp only [outline_ne_iff, ← lookup_objectMember, HoldsObject]

/-- The names of the members of the object at a path. -/
def namesAt (tree : JsonTree) (path : List String) : List String :=
  ((outline path tree).getD none).getD []

theorem memberNames_objectMember :
    memberNames (objectMember members name) =
      namesAt (.object members) [name] := by
  simp only [objectMember, namesAt, outline, at?_singleton]
  cases members.lookup name with
  | none => exact Eq.refl _
  | some value => cases value <;> exact Eq.refl _

theorem memberNames_objectMember_objectMember :
    memberNames (objectMember (objectMember members name) other) =
      namesAt (.object members) [name, other] := by
  have inner := lookup_objectMember members name other
  simp only [memberNames_objectMember, namesAt, outline, at?_singleton,
    inner]

/-- No member of any object is repeated. -/
abbrev Unique (tree : JsonTree) : Prop :=
  tree.Everywhere fun inner => (memberNames inner).Nodup

theorem nodup_objectMember (unique : Unique (.object members)) :
    (memberNames (objectMember members name)).Nodup := by
  simp only [objectMember]
  split
  · next found => exact unique _ (.member (mem_of_lookup found) .self)
  · exact List.nodup_nil

/-- What is under a name of a path item. -/
theorem at?_paths_iff (unique : Unique (.object members)) :
    (JsonTree.object members).at? ["paths", path, name] = some value ↔
      ∃ pathItem,
        (path, .object pathItem) ∈ objectMember members "paths" ∧
          (name, value) ∈ pathItem := by
  have paths : (memberNames (objectMember members "paths")).Nodup :=
    nodup_objectMember unique
  have read :
      (JsonTree.object members).at? ["paths", path, name] =
        ((objectMember members "paths").lookup path).bind (at? [name]) :=
    (at?_append ["paths", path] [name] _).trans
      (congrArg (Option.bind · _)
        (lookup_objectMember members "paths" path).symm)
  simp only [read, Option.bind_eq_some_iff]
  constructor
  · rintro ⟨found, present, below⟩
    cases found with
    | scalar scalar => cases below
    | array items => cases below
    | object pathItem =>
        simp only [at?_singleton] at below
        exact ⟨pathItem, mem_of_lookup present, mem_of_lookup below⟩
  · rintro ⟨pathItem, member, among⟩
    have nested : Inside (.object pathItem) (.object members) := by
      simp only [objectMember] at member
      split at member
      · next found =>
          exact .member (mem_of_lookup found) (.member member .self)
      · cases member
    refine ⟨.object pathItem, (lookup_eq_some_iff paths).mpr member, ?_⟩
    simp only [at?_singleton]
    exact (lookup_eq_some_iff (unique pathItem nested)).mpr among

end Paths

/-! ## Documents which are schemas -/

/-- What is prescribed for a value under a name of a path item. -/
structure OperationShape (name : String) (value : JsonTree) : Prop where
  method :
    lower name ∈ httpMethods →
      ∃ operation, value = .object operation ∧ HoldsOperationId operation
  responses :
    ∀ operation, value = .object operation →
      HoldsObject operation "responses" ∧
        ∀ key ∈ responseKeys operation, ResponseKey key

/-- The paths of the objects which the assertion looks into. -/
def readPaths : List (List String) :=
  [["paths"], ["components"], ["components", "securitySchemes"],
    ["components", "schemas"]]

/-- A document is an OpenAPI schema, read by its paths. -/
structure SchemaShape (tree : JsonTree) : Prop where
  unique : Unique tree
  objects : ∀ path ∈ readPaths, outline path tree ≠ some none
  operations :
    ∀ path name value, tree.at? ["paths", path, name] = some value →
      OperationShape name value

theorem OpenApiSchema.shape (schema : OpenApiSchema) :
    SchemaShape schema.root where
  unique inner inside := schema.unique inner inside
  objects path member := by
    simp only [readPaths, List.mem_cons, List.not_mem_nil, or_false]
      at member
    rcases member with rfl | rfl | rfl | rfl
    · exact holdsObject_iff.mp schema.paths
    · exact holdsObject_iff.mp schema.components
    · exact holdsObject_objectMember_iff.mp schema.securitySchemes
    · exact holdsObject_objectMember_iff.mp schema.schemas
  operations path name value found := by
    rcases (at?_paths_iff schema.unique).mp found with
      ⟨pathItem, member, among⟩
    have shape := schema.pathItems path pathItem member
    constructor
    · exact shape.methods name value among
    · rintro operation rfl
      exact shape.responses name operation among

theorem SchemaShape.exists_schema {members : Members}
    (shape : SchemaShape (.object members)) :
    ∃ schema : OpenApiSchema, schema.root = .object members := by
  have object (path : List String) (member : path ∈ readPaths) :
      outline path (.object members) ≠ some none :=
    shape.objects path member
  refine
    ⟨{ members
       unique := shape.unique
       paths := holdsObject_iff.mpr (object _ (by simp [readPaths]))
       pathItems := ?_
       components := holdsObject_iff.mpr (object _ (by simp [readPaths]))
       securitySchemes :=
        holdsObject_objectMember_iff.mpr (object _ (by simp [readPaths]))
       schemas :=
        holdsObject_objectMember_iff.mpr (object _ (by simp [readPaths])) },
      Eq.refl _⟩
  intro path pathItem member
  have below (name : String) (value : JsonTree)
      (among : (name, value) ∈ pathItem) : OperationShape name value :=
    shape.operations path name value
      ((at?_paths_iff shape.unique).mpr ⟨pathItem, member, among⟩)
  constructor
  · exact fun name value among => (below name value among).method
  · exact fun name operation among =>
      (below name _ among).responses operation (Eq.refl _)

/-! ## What the assertion reads -/

section Reading

variable {schema : OpenApiSchema} {path method : String}

/-- The response codes of the operation under a path and a name. -/
def codesAt (tree : JsonTree) (path name : String) :
    Option (List String) :=
  match tree.at? ["paths", path, name] with
  | some (.object operation) => some (responseKeys operation)
  | _ => none

theorem OpenApiSchema.hasMethod_iff :
    schema.HasMethod path method ↔
      lower method ∈ namesAt schema.root ["paths", path] := by
  have read := lookup_objectMember schema.members "paths" path
  simp only [HasMethod, pathMembers, read, namesAt, outline, root]
  constructor
  · rintro ⟨pathItem, found, member⟩
    simpa only [found, Option.map_some, namesOf, Option.getD_some]
  · intro member
    cases found : (JsonTree.object schema.members).at? ["paths", path] with
    | none => simp [found] at member
    | some value =>
        cases value with
        | scalar scalar => simp [found, namesOf] at member
        | array items => simp [found, namesOf] at member
        | object pathItem =>
            simp only [found, Option.map_some, namesOf,
              Option.getD_some] at member
            exact ⟨pathItem, Eq.refl _, member⟩

theorem OpenApiSchema.pathItems_iff :
    (∀ path value, (path, value) ∈ schema.pathMembers →
        ∃ pathItem, value = .object pathItem) ↔
      ∀ path, outline ["paths", path] schema.root ≠ some none := by
  have distinct : (memberNames schema.pathMembers).Nodup :=
    nodup_objectMember schema.unique
  apply forall_congr'
  intro path
  simp only [outline_ne_iff, root,
    ← lookup_objectMember schema.members "paths" path]
  apply forall_congr'
  intro value
  rw [← lookup_eq_some_iff distinct]
  exact Iff.rfl

theorem OpenApiSchema.hasOperationId_iff {operationId : String} :
    schema.HasOperationId path method operationId ↔
      lower method ∈ httpMethods ∧
        schema.root.at? ["paths", path, method, "operationId"] =
          some (.text operationId) := by
  have read :
      schema.root.at? ["paths", path, method, "operationId"] =
        (schema.root.at? ["paths", path, method]).bind
          (at? ["operationId"]) :=
    at?_append ["paths", path, method] ["operationId"] _
  simp only [read, Option.bind_eq_some_iff]
  simp only [root, at?_paths_iff schema.unique]
  constructor
  · rintro ⟨pathItem, operation, member, among, http, identified⟩
    refine ⟨http, .object operation, ⟨pathItem, member, among⟩, ?_⟩
    simpa only [at?_singleton]
  · rintro ⟨http, value, ⟨pathItem, member, among⟩, identified⟩
    cases value with
    | scalar scalar => cases identified
    | array items => cases identified
    | object operation =>
        simp only [at?_singleton] at identified
        exact ⟨pathItem, operation, member, among, http, identified⟩

theorem OpenApiSchema.operationAt_iff
    {operation : List (String × JsonTree)} :
    schema.OperationAt path method operation ↔
      schema.root.at? ["paths", path, lower method] =
        some (.object operation) := by
  have read :
      schema.root.at? ["paths", path, lower method] =
        (schema.pathMembers.lookup path).bind (at? [lower method]) :=
    (at?_append ["paths", path] [lower method] _).trans
      (congrArg (Option.bind · _)
        (lookup_objectMember schema.members "paths" path).symm)
  simp only [read, Option.bind_eq_some_iff, OperationAt]
  constructor
  · rintro ⟨pathItem, found, among⟩
    refine ⟨.object pathItem, found, ?_⟩
    simpa only [at?_singleton]
  · rintro ⟨value, found, among⟩
    cases value with
    | scalar scalar => cases among
    | array items => cases among
    | object pathItem =>
        simp only [at?_singleton] at among
        exact ⟨pathItem, found, among⟩

theorem OpenApiSchema.codesAt_eq_some_iff {codes : List String} :
    codesAt schema.root path (lower method) = some codes ↔
      ∃ operation, schema.OperationAt path method operation ∧
        responseKeys operation = codes := by
  simp only [operationAt_iff, codesAt]
  cases found : schema.root.at? ["paths", path, lower method] with
  | none => simp
  | some value => cases value <;> simp

end Reading

end FastapiCore
