import FastapiCore.Library.OrderedDict
import FastapiCore.PythonObjects

/-!
# Transport policies

A `TransportPolicy` holds what the error handlers and the generated OpenAPI
schema of a route share.  The checks of `__post_init__` are a field of the
structure, so that the policies which `resolve` makes need no further check.

Status codes are natural numbers.  The response models, the dependencies and
the renderer are objects of the application, which the code compares and
passes on.
-/

namespace FastapiCore

open Library

/-! ## The fields of a policy -/

/-- A value inside a response definition. -/
inductive ResponseValue where
  | text (text : String)
  | object (object : PyObject)
deriving DecidableEq

/-- What is documented for one response. -/
abbrev ResponseDefinition := OrderedDict String ResponseValue

/-- The fields of a transport policy. -/
structure TransportFields where
  dependencies : List PyObject := []
  validationStatus : Option Nat := none
  validationResponseModel : Option PyObject := none
  commonErrorResponseModel : Option PyObject := none
  fallbackResponseModel : Option PyObject := none
  commonErrorStatuses : List Nat := []
  includeSynthetic422 : Option Bool := none
  responses : OrderedDict Nat ResponseDefinition := .empty
  errorRenderer : Option Callable := none

/-- `400 <= status <= 599`. -/
def isErrorStatus (status : Nat) : Bool :=
  400 ≤ status ∧ status ≤ 599

/-- What `__post_init__` checks. -/
structure TransportFields.Valid (fields : TransportFields) : Prop where
  validationStatus : fields.validationStatus.all isErrorStatus = true
  commonErrorStatuses : fields.commonErrorStatuses.all isErrorStatus = true

instance TransportFields.decidableValid (fields : TransportFields) :
    Decidable fields.Valid :=
  decidable_of_iff
    (fields.validationStatus.all isErrorStatus = true ∧
      fields.commonErrorStatuses.all isErrorStatus = true)
    ⟨fun ⟨validation, common⟩ => ⟨validation, common⟩,
      fun ⟨validation, common⟩ => ⟨validation, common⟩⟩

/-- `TransportPolicy`. -/
structure TransportPolicy extends TransportFields where
  valid : toTransportFields.Valid := by decide

namespace TransportPolicy

/-- `TransportPolicy(**fields)`. -/
def new (fields : TransportFields) : Except PyExc TransportPolicy :=
  if validation : fields.validationStatus.all isErrorStatus = true then
    if common : fields.commonErrorStatuses.all isErrorStatus = true then
      .ok { fields with valid := ⟨validation, common⟩ }
    else
      .error
        (.valueError
          ("transport policy common error statuses must be HTTP error " ++
            "codes"))
  else
    .error
      (.valueError
        "transport policy validation_status must be between 400 and 599")

/-- `TransportPolicy()`. -/
def default : TransportPolicy where
  toTransportFields := {}

/-- `_DEFAULT_COMMON_ERROR_STATUSES`. -/
def defaultCommonErrorStatuses : List Nat :=
  [400, 401, 403, 404, 409, 422, 500, 502, 503]

variable (policy : TransportPolicy)

/-- `self.validation_status or 422`. -/
def effectiveValidationStatus : Nat :=
  match policy.validationStatus with
  | none => 422
  | some status => if status = 0 then 422 else status

/-- `effective_include_synthetic_422`. -/
def effectiveIncludeSynthetic422 : Bool :=
  match policy.includeSynthetic422 with
  | some declared => declared
  | none => policy.effectiveValidationStatus = 422

/-- `self.common_error_statuses or _DEFAULT_COMMON_ERROR_STATUSES`. -/
def effectiveCommonErrorStatuses : List Nat :=
  match policy.commonErrorStatuses with
  | [] => defaultCommonErrorStatuses
  | statuses => statuses

/-- `{"description": description, "model": model}`. -/
def modelResponse (description : String) (model : PyObject) :
    ResponseDefinition :=
  (OrderedDict.empty.insert "description" (.text description)).insert
    "model" (.object model)

/-- The response documented for a validation error. -/
def validationResponse : ResponseDefinition :=
  match policy.validationResponseModel with
  | none =>
      OrderedDict.empty.insert "description"
        (.text "Request validation error")
  | some model => modelResponse "Request validation error" model

/-- The responses declared for the common error statuses. -/
def withCommonErrors (responses : OrderedDict Nat ResponseDefinition) :
    OrderedDict Nat ResponseDefinition :=
  match policy.commonErrorResponseModel with
  | none => responses
  | some model =>
      policy.effectiveCommonErrorStatuses.foldl
        (fun current status =>
          current.setDefault status
            (modelResponse "Common error response" model))
        responses

/-- The response declared for any other error. -/
def withFallback (responses : OrderedDict Nat ResponseDefinition) :
    OrderedDict Nat ResponseDefinition :=
  match policy.fallbackResponseModel with
  | none => responses
  | some model =>
      responses.setDefault 500
        (modelResponse "Fallback error response" model)

/-- `response_definitions`. -/
def responseDefinitions : OrderedDict Nat ResponseDefinition :=
  policy.withFallback
    (policy.withCommonErrors
      (policy.responses.setDefault policy.effectiveValidationStatus
        policy.validationResponse))

/-! ## What the response definitions document -/

theorem mem_keys_withCommonErrors
    {responses : OrderedDict Nat ResponseDefinition} {status : Nat}
    (documented : status ∈ responses.keys) :
    status ∈ (policy.withCommonErrors responses).keys := by
  rw [withCommonErrors]
  split
  · exact documented
  · next model _ =>
      induction policy.effectiveCommonErrorStatuses generalizing responses
        with
      | nil => exact documented
      | cons common rest induction =>
          apply induction
          exact OrderedDict.mem_keys_setDefault.mpr (Or.inr documented)

theorem mem_keys_withFallback
    {responses : OrderedDict Nat ResponseDefinition} {status : Nat}
    (documented : status ∈ responses.keys) :
    status ∈ (policy.withFallback responses).keys := by
  rw [withFallback]
  split
  · exact documented
  · exact OrderedDict.mem_keys_setDefault.mpr (Or.inr documented)

/-- The status of a validation error and the declared ones are documented. -/
theorem mem_keys_responseDefinitions {status : Nat}
    (declared :
      status = policy.effectiveValidationStatus ∨
        status ∈ policy.responses.keys) :
    status ∈ policy.responseDefinitions.keys := by
  apply mem_keys_withFallback
  apply mem_keys_withCommonErrors
  exact OrderedDict.mem_keys_setDefault.mpr declared

/-! ## Resolution -/

/-- `override_value if override_value is not None else base_value`. -/
def overrideWith {α : Type} (override base : Option α) : Option α :=
  override.or base

/-- The common statuses of the override, unless it declares none. -/
def overrideStatuses : List Nat → List Nat → List Nat
  | [], base => base
  | override, _ => override

theorem all_overrideStatuses {override base : List Nat}
    (overrideValid : override.all isErrorStatus = true)
    (baseValid : base.all isErrorStatus = true) :
    (overrideStatuses override base).all isErrorStatus = true := by
  cases override with
  | nil => exact baseValid
  | cons status rest => exact overrideValid

/-- `TransportPolicy.resolve`. -/
def resolve (base override : Option TransportPolicy) : TransportPolicy :=
  let base := base.getD default
  let override := override.getD default
  { dependencies := base.dependencies ++ override.dependencies
    validationStatus :=
      overrideWith override.validationStatus base.validationStatus
    validationResponseModel :=
      overrideWith override.validationResponseModel
        base.validationResponseModel
    commonErrorResponseModel :=
      overrideWith override.commonErrorResponseModel
        base.commonErrorResponseModel
    fallbackResponseModel :=
      overrideWith override.fallbackResponseModel
        base.fallbackResponseModel
    commonErrorStatuses :=
      overrideStatuses override.commonErrorStatuses
        base.commonErrorStatuses
    includeSynthetic422 :=
      overrideWith override.includeSynthetic422 base.includeSynthetic422
    responses := base.responses.update override.responses
    errorRenderer :=
      overrideWith override.errorRenderer base.errorRenderer
    valid :=
      { validationStatus := by
          cases declared : override.validationStatus with
          | none => exact base.valid.validationStatus
          | some status =>
              have valid := override.valid.validationStatus
              rw [declared] at valid
              exact valid
        commonErrorStatuses :=
          all_overrideStatuses override.valid.commonErrorStatuses
            base.valid.commonErrorStatuses } }

/-- Without a base, a policy resolves to itself. -/
theorem resolve_none_some : resolve none (some policy) = policy := by
  rcases policy with ⟨fields, valid⟩
  rcases fields with
    ⟨dependencies, validationStatus, validationModel, commonModel,
      fallbackModel, statuses, synthetic, responses, renderer⟩
  have noStatuses : overrideStatuses statuses [] = statuses := by
    cases statuses <;> rfl
  simp [resolve, overrideWith, default, noStatuses]

/-! ## Conflicts between modules -/

/-- The contract fields, in the order of `_CONTRACT_FIELDS`. -/
inductive ContractField where
  | validationStatus
  | validationResponseModel
  | commonErrorResponseModel
  | fallbackResponseModel
  | commonErrorStatuses
  | includeSynthetic422
  | responses
  | errorRenderer
deriving DecidableEq

/-- The name of a contract field. -/
def ContractField.name : ContractField → String
  | .validationStatus => "validation_status"
  | .validationResponseModel => "validation_response_model"
  | .commonErrorResponseModel => "common_error_response_model"
  | .fallbackResponseModel => "fallback_response_model"
  | .commonErrorStatuses => "common_error_statuses"
  | .includeSynthetic422 => "include_synthetic_422"
  | .responses => "responses"
  | .errorRenderer => "error_renderer"

/-- `_CONTRACT_FIELDS`. -/
def contractFields : List ContractField :=
  [.validationStatus, .validationResponseModel, .commonErrorResponseModel,
    .fallbackResponseModel, .commonErrorStatuses, .includeSynthetic422,
    .responses, .errorRenderer]

/-- The value of a contract field. -/
inductive ContractValue where
  | status (status : Nat)
  | model (model : PyObject)
  | statuses (statuses : List Nat)
  | flag (flag : Bool)
  | responses (responses : OrderedDict Nat ResponseDefinition)
  | renderer (renderer : Callable)

/-- The operator `==` on the values of one field. -/
def ContractValue.isEqual : ContractValue → ContractValue → Bool
  | .status left, .status right => left = right
  | .model left, .model right => left = right
  | .statuses left, .statuses right => left = right
  | .flag left, .flag right => left = right
  | .responses left, .responses right =>
      left.isEqual (OrderedDict.isEqual fun found other => found = other)
        right
  | .renderer left, .renderer right => left = right
  | _, _ => false

/-- The value of a field unless it is `None`, `()` or `{}`. -/
def declaredValue (field : ContractField) : Option ContractValue :=
  match field with
  | .validationStatus => policy.validationStatus.map .status
  | .validationResponseModel => policy.validationResponseModel.map .model
  | .commonErrorResponseModel => policy.commonErrorResponseModel.map .model
  | .fallbackResponseModel => policy.fallbackResponseModel.map .model
  | .commonErrorStatuses =>
      if policy.commonErrorStatuses = [] then none
      else some (.statuses policy.commonErrorStatuses)
  | .includeSynthetic422 => policy.includeSynthetic422.map .flag
  | .responses =>
      if policy.responses.entries = [] then none
      else some (.responses policy.responses)
  | .errorRenderer => policy.errorRenderer.map .renderer

/-- The different values of a field, in the order of the policies. -/
def distinctValues (field : ContractField)
    (policies : List TransportPolicy) : List ContractValue :=
  policies.foldl
    (fun values policy =>
      match policy.declaredValue field with
      | none => values
      | some value =>
          if values.any value.isEqual then values else values ++ [value])
    []

/-- `TransportPolicy.validate_module_conflicts`. -/
def validateModuleConflicts (policies : List TransportPolicy) :
    Except PyExc Unit :=
  match
    contractFields.find? fun field =>
      1 < (distinctValues field policies).length
  with
  | none => .ok ()
  | some field =>
      .error
        (.valueError
          ("transport policy field '" ++ field.name ++
            "' conflicts across modules"))

end TransportPolicy

end FastapiCore
