import Mathlib.Data.List.Dedup
import FastapiCore.IntegerText
import FastapiCore.Library.JsonTree
import FastapiCore.Library.OrderedDict

/-!
# The OpenAPI contract assertion

`assert_openapi_contract` reads a generated schema and raises unless it meets
the expectations which a test passes.  The schema is an arbitrary document of
the shape which OpenAPI prescribes; what the assertion reads is found by the
operations of Python on JSON values, which refuse values of the wrong class.
-/

namespace FastapiCore

open Library

/-! ## Python operations on JSON values -/

/-- `type(value).__name__`. -/
def typeName : JsonTree → String
  | .scalar .null => "NoneType"
  | .scalar (.boolean _) => "bool"
  | .scalar (.integer _) => "int"
  | .scalar (.float _) => "float"
  | .scalar (.text _) => "str"
  | .array _ => "list"
  | .object _ => "dict"

def PyExc.typeError (message : String) : PyExc :=
  { cls := .typeError, message }

/-- The names of the members of an object. -/
def memberNames (members : List (String × JsonTree)) : List String :=
  members.map Prod.fst

/-- The members of a dictionary, for one of its methods. -/
def dictMembers (method : String) :
    JsonTree → Except PyExc (List (String × JsonTree))
  | .object members => .ok members
  | value =>
      .error
        (.attributeError
          ("'" ++ typeName value ++ "' object has no attribute '" ++
            method ++ "'"))

/-- `value.get(name)`. -/
def dictGet (value : JsonTree) (name : String) :
    Except PyExc (Option JsonTree) := do
  let members ← dictMembers "get" value
  pure (members.lookup name)

/-- `value.get(name, {})`. -/
def dictGetOrEmpty (value : JsonTree) (name : String) :
    Except PyExc JsonTree := do
  let found ← dictGet value name
  pure (found.getD (.object []))

/-- `value[name]`. -/
def subscript (value : JsonTree) (name : String) : Except PyExc JsonTree :=
  match value with
  | .object members =>
      match members.lookup name with
      | some found => .ok found
      | none => .error (.keyError name)
  | .array _ =>
      .error (.typeError "list indices must be integers or slices, not str")
  | .text _ =>
      .error (.typeError "string indices must be integers, not 'str'")
  | value =>
      .error
        (.typeError ("'" ++ typeName value ++ "' object is not subscriptable"))

theorem subscript_eq_ok_iff {value found : JsonTree} {name : String} :
    subscript value name = .ok found ↔
      ∃ members, value = .object members ∧
        members.lookup name = some found := by
  cases value with
  | scalar scalar =>
      constructor
      · cases scalar <;> rintro ⟨⟩
      · rintro ⟨_, ⟨⟩, _⟩
  | array items =>
      constructor
      · rintro ⟨⟩
      · rintro ⟨_, ⟨⟩, _⟩
  | object members =>
      cases looked : members.lookup name with
      | none => simp [subscript, looked]
      | some present => simp [subscript, looked]

/-- `value == content`, for a text. -/
def isText (content : String) : JsonTree → Bool
  | .text value => value = content
  | _ => false

/-- `content in value`, for a text. -/
def contains (value : JsonTree) (content : String) : Except PyExc Bool :=
  match value with
  | .object members => .ok (content ∈ memberNames members)
  | .array items => .ok (items.any (isText content))
  | .text whole =>
      .ok
        (whole.toList.tails.any fun tail =>
          content.toList.isPrefixOf tail)
  | value =>
      .error
        (.typeError
          ("argument of type '" ++ typeName value ++ "' is not iterable"))

/-- The values which `for element in value` meets. -/
def iterate : JsonTree → Except PyExc (List JsonTree)
  | .object members => .ok ((memberNames members).map .text)
  | .array items => .ok items
  | .text content =>
      .ok (content.toList.map fun char => .text (String.singleton char))
  | value =>
      .error
        (.typeError ("'" ++ typeName value ++ "' object is not iterable"))

/-- What a set compares its elements by; numbers of any class are equal. -/
def hashKey : JsonTree → Except PyExc JsonScalar
  | .scalar (.boolean flag) => .ok (.float (if flag then 1 else 0))
  | .scalar (.integer number) => .ok (.float number)
  | .scalar scalar => .ok scalar
  | value =>
      .error (.typeError ("unhashable type: '" ++ typeName value ++ "'"))

/-- `int(value)`. -/
def intOf (value : JsonTree) : Except PyExc Int :=
  match value with
  | .scalar (.boolean flag) => .ok (if flag then 1 else 0)
  | .scalar (.integer number) => .ok number
  | .scalar (.float number) => .ok (number.num.tdiv number.den)
  | .text content =>
      match integerValue content with
      | some number => .ok number
      | none =>
          .error
            (.valueError
              ("invalid literal for int() with base 10: '" ++ content ++ "'"))
  | value =>
      .error
        (.typeError
          ("int() argument must be a string, a bytes-like object or a " ++
            "real number, not '" ++ typeName value ++ "'"))

/-! ## The keys of responses -/

/-- The text of a status code. -/
def IsStatusCode (key : String) : Prop :=
  ∃ status : Nat, key = toString status

/--
The keys of a responses object: status codes, the default, ranges of codes,
and specification extensions.
-/
def ResponseKey (key : String) : Prop :=
  IsStatusCode key ∨ key ∈ ["default", "1XX", "2XX", "3XX", "4XX", "5XX"] ∨
    "x-".toList <+: key.toList

/-- Specification extensions are no numbers. -/
theorem integerValue_extension {text : String}
    (extension : "x-".toList <+: text.toList) : integerValue text = none := by
  rcases extension with ⟨rest, split⟩
  have stripped :
      stripSpaces text.toList = 'x' :: ('-' :: rest).rdropWhile isSpace := by
    rw [← split]
    exact stripSpaces_cons (by decide) _
  rw [integerValue, stripped]
  rfl

theorem integerValue_of_responseKey {key : String} (form : ResponseKey key)
    {number : Int} (reads : integerValue key = some number) :
    ∃ status : Nat, key = toString status ∧ number = status := by
  rcases form with ⟨status, rfl⟩ | named | extension
  · rw [integerValue_natural, Option.some.injEq] at reads
    exact ⟨status, rfl, reads.symm⟩
  · have unread :
        ∀ name ∈ ["default", "1XX", "2XX", "3XX", "4XX", "5XX"],
          integerValue name = none := by
      decide
    rw [unread key named] at reads
    cases reads
  · rw [integerValue_extension extension] at reads
    cases reads

/-! ## The assertion -/

def PyExc.assertionError (message : String) : PyExc :=
  { cls := .other "AssertionError", message }

/-- `assert condition, message`. -/
def pyAssert (condition : Bool) (message : String) : Except PyExc Unit :=
  if condition then .ok () else .error (.assertionError message)

theorem pyAssert_eq_ok_iff {condition : Bool} {message : String} :
    pyAssert condition message = .ok () ↔ condition = true := by
  rw [pyAssert]
  split
  · next holds => exact ⟨fun _ => holds, fun _ => rfl⟩
  · next fails =>
      constructor
      · rintro ⟨⟩
      · exact fun holds => (fails holds).elim

/-- The arguments of `assert_openapi_contract` other than the application. -/
structure OpenapiExpectations where
  expectedPaths : OrderedDict String (List String)
  expectedSecuritySchemes : List String := []
  expectedResponses :
    Option (OrderedDict (String × String) (List Int)) := none
  validationStatus : Option Int := none
  includeSynthetic422 : Option Bool := none

/-- The names under which a path item holds operations. -/
def httpMethods : List String :=
  ["get", "put", "post", "delete", "options", "head", "patch", "trace"]

/-- `f"{method.upper()} {path}"`. -/
def operationLabel (path method : String) : String :=
  upper method ++ " " ++ path

/-- The loop over `expected_paths`. -/
def assertPaths (paths : JsonTree)
    (expectedPaths : OrderedDict String (List String)) :
    Except PyExc Unit :=
  expectedPaths.entries.forM fun (path, methods) => do
    let pathPresent ← contains paths path
    pyAssert pathPresent ("OpenAPI path '" ++ path ++ "' is missing")
    methods.forM fun method => do
      let pathItem ← subscript paths path
      let methodPresent ← contains pathItem (lower method)
      pyAssert methodPresent
        ("OpenAPI operation '" ++ operationLabel path method ++
          "' is missing")

/-- The loop over `expected_responses`. -/
def assertResponses (paths : JsonTree)
    (expectedResponses : OrderedDict (String × String) (List Int)) :
    Except PyExc Unit :=
  expectedResponses.entries.forM fun ((path, method), statuses) => do
    let pathItem ← subscript paths path
    let operation ← subscript pathItem (lower method)
    let responses ← dictGetOrEmpty operation "responses"
    let codes ← iterate responses
    let responseCodes ← codes.mapM intOf
    pyAssert (statuses.all fun status => status ∈ responseCodes)
      ("OpenAPI operation '" ++ operationLabel path method ++
        "' is missing expected responses")

/-- The body of the loops over the operations, for a validation status. -/
def assertValidationOf (paths : JsonTree) (validationStatus : Int)
    (includeSynthetic422 : Option Bool) (path method : String) :
    Except PyExc Unit := do
  let pathItem ← subscript paths path
  let operation ← subscript pathItem (lower method)
  let responses ← dictGetOrEmpty operation "responses"
  let documented ← contains responses (toString validationStatus)
  pyAssert documented ""
  if includeSynthetic422 = some false then
    let responses ← dictGetOrEmpty operation "responses"
    let synthetic ← contains responses "422"
    pyAssert (!synthetic) ""

/-- The block for `validation_status`. -/
def assertValidation (paths : JsonTree) (expectations : OpenapiExpectations) :
    Except PyExc Unit :=
  match expectations.validationStatus with
  | none => .ok ()
  | some validationStatus =>
      expectations.expectedPaths.entries.forM fun (path, methods) =>
        methods.forM fun method =>
          assertValidationOf paths validationStatus
            expectations.includeSynthetic422 path method

/-- The statement `if operation_id is not None`. -/
def appendOperationId (operationIds : List JsonTree) :
    Option JsonTree → List JsonTree
  | none => operationIds
  | some (.scalar .null) => operationIds
  | some operationId => operationIds ++ [operationId]

/-- The body of the loop over the members of a path item. -/
def addOperationId (operationIds : List JsonTree)
    (entry : String × JsonTree) : Except PyExc (List JsonTree) :=
  if lower entry.1 ∈ httpMethods then do
    let operationId ← dictGet entry.2 "operationId"
    pure (appendOperationId operationIds operationId)
  else pure operationIds

/-- The loop which collects the operation IDs. -/
def collectOperationIds (paths : JsonTree) :
    Except PyExc (List JsonTree) := do
  let members ← dictMembers "values" paths
  members.foldlM
    (fun operationIds entry => do
      let pathItem ← dictMembers "items" entry.2
      pathItem.foldlM addOperationId operationIds)
    []

/-- `len(set(values))`. -/
def distinctCount (values : List JsonTree) : Except PyExc Nat := do
  let keys ← values.mapM hashKey
  pure keys.dedup.length

/-- `"#/components/schemas/"`. -/
def schemaReferenceStart : String :=
  "#/components/schemas/"

/-- `reference.rsplit("/", 1)[-1]`. -/
def lastSegment (reference : String) : String :=
  String.ofList (reference.toList.rtakeWhile (· ≠ '/'))

/-- What `validate_references` does with a dictionary before its values. -/
def checkReference (componentSchemas : JsonTree)
    (members : List (String × JsonTree)) : Except PyExc Unit :=
  match members.lookup "$ref" with
  | some (.text reference) =>
      if reference.startsWith schemaReferenceStart then do
        let present ← contains componentSchemas (lastSegment reference)
        pyAssert present
          ("OpenAPI component schema '" ++ lastSegment reference ++
            "' is missing")
      else .ok ()
  | _ => .ok ()

/-- `validate_references(value)`. -/
def validateReferences (componentSchemas value : JsonTree) :
    Except PyExc Unit :=
  value.walkObjects (checkReference componentSchemas)

/-- The block which compares the operation IDs. -/
def assertOperationIds (paths : JsonTree) : Except PyExc Unit := do
  let operationIds ← collectOperationIds paths
  let distinct ← distinctCount operationIds
  pyAssert (operationIds.length = distinct)
    "OpenAPI operation IDs must be unique"

/-- The block for `expected_security_schemes`. -/
def assertSecuritySchemes (schema : JsonTree)
    (expectedSecuritySchemes : List String) : Except PyExc Unit := do
  let components ← dictGetOrEmpty schema "components"
  let securitySchemes ← dictGetOrEmpty components "securitySchemes"
  expectedSecuritySchemes.forM fun name => do
    let present ← contains securitySchemes name
    pyAssert present ("OpenAPI security scheme '" ++ name ++ "' is missing")

/-- The block which validates the references. -/
def assertReferences (schema : JsonTree) : Except PyExc Unit := do
  let components ← dictGetOrEmpty schema "components"
  let componentSchemas ← dictGetOrEmpty components "schemas"
  validateReferences componentSchemas schema

/-- `assert_openapi_contract`, for the schema which `app.openapi()` returns. -/
def assertOpenapiContract (schema : JsonTree)
    (expectations : OpenapiExpectations) : Except PyExc Unit := do
  let paths ← dictGetOrEmpty schema "paths"
  assertPaths paths expectations.expectedPaths
  assertResponses paths (expectations.expectedResponses.getD .empty)
  assertValidation paths expectations
  assertOperationIds paths
  assertSecuritySchemes schema expectations.expectedSecuritySchemes
  assertReferences schema

end FastapiCore
