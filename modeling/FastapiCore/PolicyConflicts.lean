import FastapiCore.Library.ValueEquality
import FastapiCore.TransportPolicy

/-!
# Conflicts between the policies of modules

`resolve` and `validate_module_conflicts` loop over the names of the contract
fields and read each field with `getattr`, so a policy is here a value for
each field.  The models and the renderer are of type `Any`: their fields may
also hold an empty tuple or an empty dictionary.  The validator takes both for
unset, as it does `None`, while `resolve` lets an empty dictionary override.

A `TransportPolicy` is a policy without such values, and its functions are the
ones of this module.
-/

namespace FastapiCore

open Library
open TransportPolicy (ContractField ContractValue contractFields)

/-! ## Values of fields -/

/-- An element of a tuple. -/
inductive TupleItem where
  | status (status : Nat)
  | response (status : Nat) (definition : ResponseDefinition)

/--
The value of a field.  `()` is a tuple without elements and `{}` a mapping
without entries; a flag is the number which it is equal to.
-/
inductive PolicyValue where
  | none
  | int (value : Nat)
  | tuple (items : List TupleItem)
  | mapping (responses : OrderedDict Nat ResponseDefinition)
  | object (object : PyObject)
  | callable (callable : Callable)

/-- The operator `==` on response definitions. -/
def definitionsEqual (left right : ResponseDefinition) : Bool :=
  left.isEqual (fun found other => found = other) right

/-- The operator `==` on elements of a tuple. -/
def TupleItem.isEqual : TupleItem → TupleItem → Bool
  | .status left, .status right => left = right
  | .response left found, .response right other =>
      left = right && definitionsEqual found other
  | _, _ => false

namespace PolicyValue

/-- The operator `==`. -/
def isEqual : PolicyValue → PolicyValue → Bool
  | .none, .none => true
  | .int left, .int right => left = right
  | .tuple left, .tuple right => left.isEqv right TupleItem.isEqual
  | .mapping left, .mapping right => left.isEqual definitionsEqual right
  | .object left, .object right => left = right
  | .callable left, .callable right => left = right
  | _, _ => false

/-- `value is None or value == () or value == {}`. -/
def isUnset : PolicyValue → Bool
  | .none => true
  | .tuple items => items.isEmpty
  | .mapping responses => responses.entries.isEmpty
  | _ => false

/-- `override_value is not None and override_value != ()`. -/
def overrides : PolicyValue → Bool
  | .none => false
  | .tuple items => !items.isEmpty
  | _ => true

/-- The value of a field which only one branch of `resolve` treats. -/
def overrideOr (base override : PolicyValue) : PolicyValue :=
  if override.overrides then override else base

end PolicyValue

/-! ## Policies -/

/-- What the types of the fields and `__post_init__` ask of the values. -/
structure WellTyped (get : ContractField → PolicyValue) : Prop where
  validationStatus :
    get .validationStatus = .none ∨
      ∃ status, isErrorStatus status = true ∧
        get .validationStatus = .int status
  commonErrorStatuses :
    ∃ statuses : List Nat, statuses.all isErrorStatus = true ∧
      get .commonErrorStatuses = .tuple (statuses.map .status)
  includeSynthetic422 :
    get .includeSynthetic422 = .none ∨
      ∃ flag : Bool, get .includeSynthetic422 = .int flag.toNat
  responses : ∃ responses, get .responses = .mapping responses

/-- A policy whose fields are read with `getattr`. -/
structure PolicyAttributes where
  dependencies : List PyObject
  get : ContractField → PolicyValue
  typed : WellTyped get

namespace PolicyAttributes

/-- `TransportPolicy()`. -/
def default : PolicyAttributes where
  dependencies := []
  get
    | .commonErrorStatuses => .tuple []
    | .responses => .mapping .empty
    | _ => .none
  typed := ⟨.inl rfl, ⟨[], rfl, rfl⟩, .inl rfl, ⟨.empty, rfl⟩⟩

variable (policy : PolicyAttributes)

/-- The field `responses`. -/
def responses : OrderedDict Nat ResponseDefinition :=
  match policy.get .responses with
  | .mapping responses => responses
  | _ => .empty

theorem get_responses :
    policy.get .responses = .mapping policy.responses := by
  rcases policy.typed.responses with ⟨responses, declared⟩
  rw [PolicyAttributes.responses, declared]

/-- The value of a contract field in `resolve`. -/
def resolvedValue (base override : PolicyAttributes)
    (field : ContractField) : PolicyValue :=
  if field = .responses then
    .mapping (base.responses.update override.responses)
  else (base.get field).overrideOr (override.get field)

/-- What holds of both values of a field holds of the resolved one. -/
theorem resolvedValue_of_both {base override : PolicyAttributes}
    {field : ContractField} (other : field ≠ .responses)
    {property : PolicyValue → Prop} (ofBase : property (base.get field))
    (ofOverride : property (override.get field)) :
    property (resolvedValue base override field) := by
  rw [resolvedValue, if_neg other, PolicyValue.overrideOr]
  split
  · exact ofOverride
  · exact ofBase

theorem wellTyped_resolvedValue (base override : PolicyAttributes) :
    WellTyped (resolvedValue base override) := by
  constructor
  case validationStatus =>
    apply @resolvedValue_of_both base override _ (by decide) fun value =>
      value = .none ∨
        ∃ status, isErrorStatus status = true ∧ value = .int status
    · exact base.typed.validationStatus
    · exact override.typed.validationStatus
  case commonErrorStatuses =>
    apply @resolvedValue_of_both base override _ (by decide) fun value =>
      ∃ statuses : List Nat, statuses.all isErrorStatus = true ∧
        value = .tuple (statuses.map .status)
    · exact base.typed.commonErrorStatuses
    · exact override.typed.commonErrorStatuses
  case includeSynthetic422 =>
    apply @resolvedValue_of_both base override _ (by decide) fun value =>
      value = .none ∨ ∃ flag : Bool, value = .int flag.toNat
    · exact base.typed.includeSynthetic422
    · exact override.typed.includeSynthetic422
  case responses =>
    exact ⟨base.responses.update override.responses, if_pos rfl⟩

/-- `TransportPolicy.resolve`. -/
def resolve (base override : Option PolicyAttributes) :
    PolicyAttributes :=
  let base := base.getD default
  let override := override.getD default
  { dependencies := base.dependencies ++ override.dependencies
    get := resolvedValue base override
    typed := wellTyped_resolvedValue base override }

/-- The value by which the validator compares the policies. -/
def comparedValue (field : ContractField) : PolicyValue :=
  if field = .responses then
    .tuple
      (policy.responses.sortedItems.map fun item =>
        .response item.1 item.2)
  else policy.get field

/-- The list `values` after the inner loop of the validator. -/
def distinctValues (field : ContractField)
    (policies : List PolicyAttributes) : List PolicyValue :=
  policies.foldl
    (fun values policy =>
      let value := policy.comparedValue field
      if value.isUnset then values
      else if values.any value.isEqual then values
      else values ++ [value])
    []

/-- `TransportPolicy.validate_module_conflicts`. -/
def validateModuleConflicts (policies : List PolicyAttributes) :
    Except PyExc Unit :=
  match
    contractFields.find? fun field =>
      1 < (distinctValues field policies).length
  with
  | none => .ok ()
  | some field =>
      .error
        (.valueError
          ("transport policy field '" ++ field.name ++
            "' conflicts across modules"))

end PolicyAttributes

/-! ## The law -/

/-- Two policies set a field to different values. -/
def Conflict (policies : List PolicyAttributes) : Prop :=
  ∃ field, ∃ left ∈ policies, ∃ right ∈ policies,
    (left.get field).isUnset = false ∧
      (right.get field).isUnset = false ∧
      (left.get field).isEqual (right.get field) = false

/-- The validator is exact, and accepted policies merge in any order. -/
structure ConflictLaw (policies : List PolicyAttributes) : Prop where
  raises :
    (∃ exception,
        PolicyAttributes.validateModuleConflicts policies =
          .error exception) ↔
      Conflict policies
  verdict :
    ∀ others : List PolicyAttributes,
      (∀ policy, policy ∈ others ↔ policy ∈ policies) →
        PolicyAttributes.validateModuleConflicts others =
          PolicyAttributes.validateModuleConflicts policies
  unordered :
    PolicyAttributes.validateModuleConflicts policies = .ok () →
      ∀ left ∈ policies, ∀ right ∈ policies, ∀ field,
        ((PolicyAttributes.resolve (some left) (some right)).get
            field).isEqual
          ((PolicyAttributes.resolve (some right) (some left)).get
            field) = true

/-- `()` beside `None`, or `{}` beside a value which is set. -/
def Mixed (left right : PolicyValue) : Prop :=
  left = .none ∧ right = .tuple [] ∨
    left = .mapping .empty ∧ right.isUnset = false

/-- No field but `responses` mixes empty values with others. -/
def Unmixed (policies : List PolicyAttributes) : Prop :=
  ∀ left ∈ policies, ∀ right ∈ policies, ∀ field, field ≠ .responses →
    ¬Mixed (left.get field) (right.get field)

/-! ## The meaning of a value -/

/-- A response definition without the order of its keys. -/
abbrev DefinitionMeaning := String → Option ResponseValue

/-- Values up to `==`. -/
inductive ValueMeaning where
  | none
  | int (value : Nat)
  | tuple (items : List (Nat ⊕ Nat × DefinitionMeaning))
  | mapping (responses : Nat → Option DefinitionMeaning)
  | object (object : PyObject)
  | callable (callable : Callable)

/-- What a response definition says for each key. -/
def definitionMeaning (definition : ResponseDefinition) :
    DefinitionMeaning :=
  definition.meaningOf id

/-- An element of a tuple up to `==`. -/
def TupleItem.meaning : TupleItem → Nat ⊕ Nat × DefinitionMeaning
  | .status code => .inl code
  | .response code definition =>
      .inr (code, definitionMeaning definition)

/-- A value up to `==`. -/
def PolicyValue.meaning : PolicyValue → ValueMeaning
  | .none => .none
  | .int value => .int value
  | .tuple items => .tuple (items.map TupleItem.meaning)
  | .mapping definitions =>
      .mapping (definitions.meaningOf definitionMeaning)
  | .object model => .object model
  | .callable renderer => .callable renderer

theorem compares_definitionsEqual :
    Compares definitionsEqual definitionMeaning := by
  apply OrderedDict.compares_isEqual
  exact fun _ _ => decide_eq_true_iff

theorem TupleItem.compares_isEqual :
    Compares TupleItem.isEqual TupleItem.meaning := by
  intro left right
  cases left with
  | status status =>
      cases right with
      | status other => simp [isEqual, meaning]
      | response other definition => simp [isEqual, meaning]
  | response status definition =>
      cases right with
      | status other => simp [isEqual, meaning]
      | response other found =>
          simp [isEqual, meaning, compares_definitionsEqual definition found]

/-- Tuples are compared element by element. -/
theorem isEqv_iff_map_eq {α μ : Type} {same : α → α → Bool}
    {meaning : α → μ} (compares : Compares same meaning)
    {left right : List α} :
    left.isEqv right same = true ↔ left.map meaning = right.map meaning := by
  induction left generalizing right with
  | nil => cases right <;> simp [List.isEqv]
  | cons first rest induction =>
      cases right with
      | nil => simp [List.isEqv]
      | cons other others =>
          simp [List.isEqv, compares first other, induction]

namespace PolicyValue

theorem compares_isEqual : Compares isEqual meaning := by
  intro left right
  cases left with
  | none => cases right <;> simp [isEqual, meaning]
  | int value => cases right <;> simp [isEqual, meaning]
  | object object => cases right <;> simp [isEqual, meaning]
  | callable callable => cases right <;> simp [isEqual, meaning]
  | tuple items =>
      cases right with
      | tuple others =>
          rw [isEqual, isEqv_iff_map_eq TupleItem.compares_isEqual]
          simp [meaning]
      | _ => simp [isEqual, meaning]
  | mapping responses =>
      cases right with
      | mapping others =>
          have same :=
            OrderedDict.compares_isEqual compares_definitionsEqual responses
              others
          rw [isEqual]
          simp [meaning, same]
      | _ => simp [isEqual, meaning]

/-- The values which a field may have without being set. -/
theorem isUnset_iff {value : PolicyValue} :
    value.isUnset = true ↔
      value = .none ∨ value = .tuple [] ∨ value = .mapping .empty := by
  cases value with
  | mapping responses =>
      have empty :
          responses.entries = [] ↔ responses = .empty :=
        ⟨fun entries => OrderedDict.ext entries, by rintro rfl; rfl⟩
      simp [isUnset, empty]
  | _ => simp [isUnset]

/-- A value which is set overrides. -/
theorem overrides_of_set {value : PolicyValue}
    (set : value.isUnset = false) : value.overrides = true := by
  cases value with
  | none => cases set
  | tuple items =>
      rw [isUnset] at set
      rw [overrides, set]
      rfl
  | _ => rfl

theorem isUnset_congr {left right : PolicyValue}
    (same : left.meaning = right.meaning) :
    left.isUnset = right.isUnset := by
  cases left with
  | none =>
      cases right <;> cases same
      rfl
  | int value =>
      cases right <;> cases same
      rfl
  | object model =>
      cases right <;> cases same
      rfl
  | callable renderer =>
      cases right <;> cases same
      rfl
  | tuple items =>
      cases right with
      | tuple others =>
          simp only [meaning, ValueMeaning.tuple.injEq] at same
          have empty := congrArg List.isEmpty same
          rw [List.isEmpty_map, List.isEmpty_map] at empty
          exact empty
      | _ => cases same
  | mapping responses =>
      cases right with
      | mapping others =>
          simp only [meaning, ValueMeaning.mapping.injEq] at same
          rw [isUnset, isUnset, Bool.eq_iff_iff, List.isEmpty_iff,
            List.isEmpty_iff,
            @OrderedDict.entries_eq_nil_iff_meaningOf _ _ _ _
              definitionMeaning responses,
            @OrderedDict.entries_eq_nil_iff_meaningOf _ _ _ _
              definitionMeaning others, same]
      | _ => cases same

theorem not_mixed_of_set {value other : PolicyValue}
    (set : value.isUnset = false) : ¬Mixed value other := by
  rintro (⟨rfl, -⟩ | ⟨rfl, -⟩) <;> cases set

/-- Beside a value which is set, only an empty dictionary matters. -/
theorem overrideOr_comm_iff_of_set {empty value : PolicyValue}
    (unset : empty.isUnset = true) (set : value.isUnset = false) :
    (empty.overrideOr value).meaning = (value.overrideOr empty).meaning ↔
      ¬Mixed empty value := by
  rw [overrideOr, if_pos (overrides_of_set set), overrideOr]
  rcases isUnset_iff.mp unset with rfl | rfl | rfl
  · have other : value ≠ .tuple [] := by
      rintro rfl
      cases set
    simp [overrides, Mixed, other]
  · simp [overrides, Mixed]
  · have different : value.meaning ≠ (mapping .empty).meaning := by
      intro same
      rw [isUnset_congr same] at set
      cases set
    simp [overrides, Mixed, different, set]

/-- When the order of two values matters which do not conflict. -/
theorem overrideOr_comm_iff {left right : PolicyValue}
    (compatible :
      left.isUnset = false → right.isUnset = false →
        left.meaning = right.meaning) :
    (left.overrideOr right).meaning = (right.overrideOr left).meaning ↔
      ¬Mixed left right ∧ ¬Mixed right left := by
  cases setLeft : left.isUnset with
  | false =>
      rw [and_iff_right (not_mixed_of_set setLeft)]
      cases setRight : right.isUnset with
      | false =>
          rw [overrideOr, overrideOr,
            if_pos (overrides_of_set setLeft),
            if_pos (overrides_of_set setRight),
            compatible setLeft setRight]
          exact iff_of_true rfl (not_mixed_of_set setRight)
      | true =>
          rw [eq_comm]
          exact overrideOr_comm_iff_of_set setRight setLeft
  | true =>
      cases setRight : right.isUnset with
      | false =>
          rw [and_iff_left (not_mixed_of_set setRight)]
          exact overrideOr_comm_iff_of_set setLeft setRight
      | true =>
          rcases isUnset_iff.mp setLeft with rfl | rfl | rfl
          all_goals
            rcases isUnset_iff.mp setRight with rfl | rfl | rfl
            all_goals
              simp [overrideOr, overrides, meaning, Mixed, isUnset]

end PolicyValue

/-! ## The validator -/

namespace PolicyAttributes

/-- The compared value of a policy which sets the field. -/
def setValue (field : ContractField) (policy : PolicyAttributes) :
    Option PolicyValue :=
  if (policy.comparedValue field).isUnset then none
  else some (policy.comparedValue field)

/-- The inner loop collects the distinct values which are set. -/
theorem distinctValues_eq (field : ContractField)
    (policies : List PolicyAttributes) :
    distinctValues field policies =
      collectDistinct PolicyValue.isEqual
        (policies.filterMap (setValue field)) := by
  rw [distinctValues, collectDistinct, List.foldl_filterMap]
  congr 1
  ext values policy : 2
  rw [setValue]
  cases unset : (policy.comparedValue field).isUnset with
  | true => simp [unset]
  | false => simp [unset, addDistinct]

theorem isUnset_comparedValue (policy : PolicyAttributes)
    (field : ContractField) :
    (policy.comparedValue field).isUnset =
      (policy.get field).isUnset := by
  by_cases isResponses : field = .responses
  · subst isResponses
    rw [comparedValue, if_pos rfl, get_responses, PolicyValue.isUnset,
      PolicyValue.isUnset, List.isEmpty_map, Bool.eq_iff_iff,
      List.isEmpty_iff, List.isEmpty_iff]
    exact OrderedDict.sortedItems_eq_nil_iff
  · rw [comparedValue, if_neg isResponses]

/-- Comparing sorted items is comparing dictionaries. -/
theorem meaning_sortedItems_iff
    {left right : OrderedDict Nat ResponseDefinition} :
    (PolicyValue.tuple
          (left.sortedItems.map fun item =>
            .response item.1 item.2)).meaning =
        (PolicyValue.tuple
          (right.sortedItems.map fun item =>
            .response item.1 item.2)).meaning ↔
      left.meaningOf definitionMeaning =
        right.meaningOf definitionMeaning := by
  have items (responses : OrderedDict Nat ResponseDefinition) :
      (responses.sortedItems.map fun item =>
          TupleItem.response item.1 item.2).map TupleItem.meaning =
        (responses.sortedItems.map
            (Prod.map id definitionMeaning)).map Sum.inr := by
    rw [List.map_map, List.map_map]
    rfl
  rw [PolicyValue.meaning, PolicyValue.meaning, ValueMeaning.tuple.injEq,
    items, items, ← OrderedDict.map_sortedItems_eq_iff]
  exact (List.map_injective_iff.mpr Sum.inr_injective).eq_iff

theorem meaning_comparedValue_iff (left right : PolicyAttributes)
    (field : ContractField) :
    (left.comparedValue field).meaning =
        (right.comparedValue field).meaning ↔
      (left.get field).meaning = (right.get field).meaning := by
  by_cases isResponses : field = .responses
  · subst isResponses
    rw [comparedValue, comparedValue, if_pos rfl, if_pos rfl,
      meaning_sortedItems_iff, get_responses, get_responses]
    simp [PolicyValue.meaning]
  · rw [comparedValue, comparedValue, if_neg isResponses,
      if_neg isResponses]

theorem setValue_eq_some_iff {policy : PolicyAttributes}
    {field : ContractField} {value : PolicyValue} :
    setValue field policy = some value ↔
      (policy.get field).isUnset = false ∧
        policy.comparedValue field = value := by
  rw [setValue, isUnset_comparedValue]
  cases (policy.get field).isUnset <;> simp

/-- Two policies set this field to different values. -/
def ConflictAt (policies : List PolicyAttributes)
    (field : ContractField) : Prop :=
  ∃ left ∈ policies, ∃ right ∈ policies,
    (left.get field).isUnset = false ∧
      (right.get field).isUnset = false ∧
      (left.get field).isEqual (right.get field) = false

theorem one_lt_length_distinctValues_iff {field : ContractField}
    {policies : List PolicyAttributes} :
    1 < (distinctValues field policies).length ↔
      ConflictAt policies field := by
  rw [distinctValues_eq,
    one_lt_length_collectDistinct_iff PolicyValue.compares_isEqual]
  simp only [List.mem_filterMap, setValue_eq_some_iff]
  constructor
  · rintro
      ⟨_, ⟨left, isLeft, leftSet, rfl⟩, _, ⟨right, isRight, rightSet, rfl⟩,
        different⟩
    refine ⟨left, isLeft, right, isRight, leftSet, rightSet, ?_⟩
    rw [Bool.eq_false_iff, ne_eq, PolicyValue.compares_isEqual,
      ← meaning_comparedValue_iff]
    exact different
  · rintro ⟨left, isLeft, right, isRight, leftSet, rightSet, different⟩
    refine
      ⟨_, ⟨left, isLeft, leftSet, rfl⟩, _, ⟨right, isRight, rightSet, rfl⟩,
        ?_⟩
    rw [Bool.eq_false_iff, ne_eq, PolicyValue.compares_isEqual,
      ← meaning_comparedValue_iff] at different
    exact different

theorem mem_contractFields (field : ContractField) :
    field ∈ contractFields := by
  cases field <;> decide

theorem validateModuleConflicts_eq_ok_iff
    {policies : List PolicyAttributes} :
    validateModuleConflicts policies = .ok () ↔ ¬Conflict policies := by
  have none_ :
      (contractFields.find? fun field =>
          1 < (distinctValues field policies).length) = none ↔
        ¬Conflict policies := by
    simp only [List.find?_eq_none, decide_eq_true_iff,
      one_lt_length_distinctValues_iff]
    constructor
    · rintro noConflict ⟨field, conflict⟩
      exact noConflict field (mem_contractFields field) conflict
    · exact fun noConflict field _ conflict => noConflict ⟨field, conflict⟩
  rw [validateModuleConflicts, ← none_]
  split
  · next found => simp [found]
  · next field found => simp [found]

/-- The verdict depends on which policies there are. -/
theorem validateModuleConflicts_congr
    {policies others : List PolicyAttributes}
    (same : ∀ policy, policy ∈ others ↔ policy ∈ policies) :
    validateModuleConflicts others = validateModuleConflicts policies := by
  have fields :
      (fun field : ContractField =>
          decide (1 < (distinctValues field others).length)) =
        fun field =>
          decide (1 < (distinctValues field policies).length) := by
    ext field
    rw [decide_eq_decide, one_lt_length_distinctValues_iff,
      one_lt_length_distinctValues_iff]
    simp only [ConflictAt, same]
  rw [validateModuleConflicts, fields, validateModuleConflicts]

/-! ## The order of merging -/

/-- Two values of a field do not conflict. -/
def Compatible (left right : PolicyValue) : Prop :=
  left.isUnset = false → right.isUnset = false →
    left.meaning = right.meaning

theorem compatible_of_not_conflict {policies : List PolicyAttributes}
    (noConflict : ¬Conflict policies) {left right : PolicyAttributes}
    (isLeft : left ∈ policies) (isRight : right ∈ policies)
    (field : ContractField) :
    Compatible (left.get field) (right.get field) := by
  intro leftSet rightSet
  rw [← PolicyValue.compares_isEqual]
  by_contra different
  rw [Bool.not_eq_true] at different
  exact
    noConflict
      ⟨field, left, isLeft, right, isRight, leftSet, rightSet, different⟩

/-- Responses which do not conflict are merged in any order. -/
theorem meaning_update_comm {left right : PolicyAttributes}
    (compatible :
      Compatible (left.get .responses) (right.get .responses)) :
    (left.responses.update right.responses).meaningOf definitionMeaning =
      (right.responses.update left.responses).meaningOf
        definitionMeaning := by
  rw [get_responses, get_responses] at compatible
  have unset {responses : OrderedDict Nat ResponseDefinition}
      (isUnset : (PolicyValue.mapping responses).isUnset = true)
      (key : Nat) : responses.meaningOf definitionMeaning key = none := by
    rw [PolicyValue.isUnset, List.isEmpty_iff] at isUnset
    exact OrderedDict.entries_eq_nil_iff_meaningOf.mp isUnset key
  ext key : 1
  rw [OrderedDict.meaningOf_update, OrderedDict.meaningOf_update]
  cases leftSet : (PolicyValue.mapping left.responses).isUnset with
  | true => rw [unset leftSet, Option.or_none, Option.none_or]
  | false =>
      cases rightSet : (PolicyValue.mapping right.responses).isUnset with
      | true => rw [unset rightSet, Option.or_none, Option.none_or]
      | false =>
          have same := compatible leftSet rightSet
          simp only [PolicyValue.meaning, ValueMeaning.mapping.injEq] at same
          rw [same]

theorem isEqual_resolve_responses {left right : PolicyAttributes}
    (compatible :
      Compatible (left.get .responses) (right.get .responses)) :
    ((resolve (some left) (some right)).get .responses).isEqual
        ((resolve (some right) (some left)).get .responses) = true := by
  rw [PolicyValue.compares_isEqual]
  exact congrArg ValueMeaning.mapping (meaning_update_comm compatible)

/-- When two policies merge a field in any order. -/
theorem isEqual_resolve_iff {left right : PolicyAttributes}
    {field : ContractField} (other : field ≠ .responses)
    (compatible : Compatible (left.get field) (right.get field)) :
    ((resolve (some left) (some right)).get field).isEqual
          ((resolve (some right) (some left)).get field) = true ↔
      ¬Mixed (left.get field) (right.get field) ∧
        ¬Mixed (right.get field) (left.get field) := by
  rw [PolicyValue.compares_isEqual]
  show (resolvedValue left right field).meaning =
    (resolvedValue right left field).meaning ↔ _
  rw [resolvedValue, resolvedValue, if_neg other, if_neg other]
  exact PolicyValue.overrideOr_comm_iff compatible

/-- Policies without a conflict merge in any order if they are unmixed. -/
theorem merge_iff_unmixed {policies : List PolicyAttributes}
    (noConflict : ¬Conflict policies) :
    (∀ left ∈ policies, ∀ right ∈ policies, ∀ field,
      ((resolve (some left) (some right)).get field).isEqual
          ((resolve (some right) (some left)).get field) = true) ↔
      Unmixed policies := by
  constructor
  · intro merges left isLeft right isRight field other
    have compatible :=
      compatible_of_not_conflict noConflict isLeft isRight field
    exact
      ((isEqual_resolve_iff other compatible).mp
        (merges left isLeft right isRight field)).1
  · intro unmixed left isLeft right isRight field
    have compatible :=
      compatible_of_not_conflict noConflict isLeft isRight field
    by_cases isResponses : field = .responses
    · subst isResponses
      exact isEqual_resolve_responses compatible
    · exact
        (isEqual_resolve_iff isResponses compatible).mpr
          ⟨unmixed left isLeft right isRight field isResponses,
            unmixed right isRight left isLeft field isResponses⟩

end PolicyAttributes

/--
The validator is exact for every list of policies, and the policies it accepts
merge in any order exactly if no model and no renderer mixes empty values with
others.
-/
theorem conflictLaw_iff (policies : List PolicyAttributes) :
    ConflictLaw policies ↔ Conflict policies ∨ Unmixed policies := by
  have accepted :=
    @PolicyAttributes.validateModuleConflicts_eq_ok_iff policies
  have raises :
      (∃ exception,
          PolicyAttributes.validateModuleConflicts policies =
            .error exception) ↔
        Conflict policies := by
    cases outcome : PolicyAttributes.validateModuleConflicts policies with
    | ok value =>
        rw [outcome] at accepted
        simp [accepted.mp rfl]
    | error exception =>
        rw [outcome] at accepted
        have conflict : Conflict policies := by
          by_contra noConflict
          cases accepted.mpr noConflict
        simp [conflict]
  constructor
  · intro law
    by_cases conflict : Conflict policies
    · exact Or.inl conflict
    · exact
        Or.inr
          ((PolicyAttributes.merge_iff_unmixed conflict).mp
            (law.unordered (accepted.mpr conflict)))
  · intro condition
    refine
      ⟨raises, fun _ => PolicyAttributes.validateModuleConflicts_congr, ?_⟩
    intro isOk
    have noConflict := accepted.mp isOk
    exact
      (PolicyAttributes.merge_iff_unmixed noConflict).mpr
        (condition.resolve_left noConflict)

/-! ## An empty dictionary as a model -/

/-- A policy which declares only this model for validation errors. -/
def modelPolicy (model : PolicyValue) : PolicyAttributes where
  dependencies := []
  get
    | .validationResponseModel => model
    | .commonErrorStatuses => .tuple []
    | .responses => .mapping .empty
    | _ => .none
  typed := ⟨.inl rfl, ⟨[], rfl, rfl⟩, .inl rfl, ⟨.empty, rfl⟩⟩

/-- A model is overridden by `{}` without a conflict. -/
theorem not_forall_conflictLaw :
    ¬∀ policies : List PolicyAttributes, ConflictLaw policies := by
  intro claim
  have law :=
    claim
      [modelPolicy (.mapping .empty), modelPolicy (.object { ref := 1 })]
  have agree :=
    law.unordered rfl _ List.mem_cons_self _
      (List.mem_cons_of_mem _ List.mem_cons_self)
      .validationResponseModel
  cases agree

/-! ## Policies with proper models -/

/-- The values of a policy whose models are objects. -/
def TransportPolicy.getattr (policy : TransportPolicy) :
    ContractField → PolicyValue
  | .validationStatus => (policy.validationStatus.map .int).getD .none
  | .validationResponseModel =>
      (policy.validationResponseModel.map .object).getD .none
  | .commonErrorResponseModel =>
      (policy.commonErrorResponseModel.map .object).getD .none
  | .fallbackResponseModel =>
      (policy.fallbackResponseModel.map .object).getD .none
  | .commonErrorStatuses => .tuple (policy.commonErrorStatuses.map .status)
  | .includeSynthetic422 =>
      (policy.includeSynthetic422.map fun flag => .int flag.toNat).getD
        .none
  | .responses => .mapping policy.responses
  | .errorRenderer => (policy.errorRenderer.map .callable).getD .none

namespace TransportPolicy

theorem wellTyped_getattr (policy : TransportPolicy) :
    WellTyped policy.getattr := by
  constructor
  case validationStatus =>
    have valid := policy.valid.validationStatus
    rw [getattr]
    cases declared : policy.validationStatus with
    | none => exact Or.inl rfl
    | some status =>
        rw [declared] at valid
        exact Or.inr ⟨status, valid, rfl⟩
  case commonErrorStatuses =>
    exact ⟨_, policy.valid.commonErrorStatuses, rfl⟩
  case includeSynthetic422 =>
    rw [getattr]
    cases policy.includeSynthetic422 with
    | none => exact Or.inl rfl
    | some flag => exact Or.inr ⟨flag, rfl⟩
  case responses => exact ⟨policy.responses, rfl⟩

/-- A policy as the loops over the contract fields read it. -/
def attributes (policy : TransportPolicy) : PolicyAttributes where
  dependencies := policy.dependencies
  get := policy.getattr
  typed := policy.wellTyped_getattr

/-- An optional value of a field overrides if it is given. -/
theorem getD_overrideWith {α : Type} (make : α → PolicyValue)
    (overrides : ∀ value, (make value).overrides = true)
    (override base : Option α) :
    ((overrideWith override base).map make).getD .none =
      PolicyValue.overrideOr ((base.map make).getD .none)
        ((override.map make).getD .none) := by
  cases override with
  | none => rfl
  | some value =>
      show make value = PolicyValue.overrideOr _ (make value)
      rw [PolicyValue.overrideOr, if_pos (overrides value)]

/-- Both models of `resolve` agree. -/
theorem attributes_resolve (left right : TransportPolicy)
    (field : ContractField) :
    (resolve (some left) (some right)).attributes.get field =
      (PolicyAttributes.resolve (some left.attributes)
        (some right.attributes)).get field := by
  cases field with
  | responses => rfl
  | commonErrorStatuses =>
      show PolicyValue.tuple
          ((overrideStatuses right.commonErrorStatuses
              left.commonErrorStatuses).map TupleItem.status) =
        (PolicyValue.tuple _).overrideOr
          (PolicyValue.tuple (right.commonErrorStatuses.map .status))
      cases right.commonErrorStatuses with
      | nil => rfl
      | cons status rest => rfl
  | _ => exact getD_overrideWith _ (fun _ => rfl) _ _

/-- A value of the typed validator as the other one compares it. -/
def ContractValue.value : ContractValue → PolicyValue
  | .status code => .int code
  | .model found => .object found
  | .statuses codes => .tuple (codes.map .status)
  | .flag given => .int given.toNat
  | .responses definitions =>
      .tuple
        (definitions.sortedItems.map fun item => .response item.1 item.2)
  | .renderer found => .callable found

/-- A field of the kind of a value. -/
def ContractValue.kind : ContractValue → ContractField
  | .status _ => .validationStatus
  | .model _ => .validationResponseModel
  | .statuses _ => .commonErrorStatuses
  | .flag _ => .includeSynthetic422
  | .responses _ => .responses
  | .renderer _ => .errorRenderer

/-- A field of the kind of the values of a field. -/
def ContractField.kind : ContractField → ContractField
  | .commonErrorResponseModel => .validationResponseModel
  | .fallbackResponseModel => .validationResponseModel
  | field => field

theorem map_status_injective :
    (List.map (TupleItem.meaning ∘ TupleItem.status)).Injective :=
  List.map_injective_iff.mpr fun _ _ same => Sum.inl.inj same

theorem ContractValue.compares_isEqual :
    Compares ContractValue.isEqual
      fun value => (value.kind, value.value.meaning) := by
  intro left right
  cases left with
  | status code =>
      cases right <;>
        simp [isEqual, kind, ContractValue.value, PolicyValue.meaning]
  | model found =>
      cases right <;>
        simp [isEqual, kind, ContractValue.value, PolicyValue.meaning]
  | renderer found =>
      cases right <;>
        simp [isEqual, kind, ContractValue.value, PolicyValue.meaning]
  | flag given =>
      cases right with
      | flag other =>
          cases given <;> cases other <;>
            simp [isEqual, kind, ContractValue.value, PolicyValue.meaning]
      | _ => simp [isEqual, kind]
  | statuses codes =>
      cases right with
      | statuses others =>
          simp [isEqual, kind, ContractValue.value, PolicyValue.meaning,
            map_status_injective.eq_iff]
      | _ => simp [isEqual, kind]
  | responses definitions =>
      cases right with
      | responses others =>
          dsimp only
          rw [Prod.mk.injEq, and_iff_right (by rfl), ContractValue.value,
            ContractValue.value,
            PolicyAttributes.meaning_sortedItems_iff]
          exact
            OrderedDict.compares_isEqual compares_definitionsEqual
              definitions others
      | _ => simp [isEqual, kind]

/-- An optional value of a field is set if it is given. -/
theorem set_of_optional {α : Type} (make : α → PolicyValue)
    (set : ∀ value, (make value).isUnset = false) (declared : Option α) :
    (if ((declared.map make).getD .none).isUnset then none
      else some ((declared.map make).getD .none)) =
      declared.map make := by
  cases declared with
  | none => rfl
  | some value =>
      show (if (make value).isUnset then none else some (make value)) = _
      rw [if_neg (Bool.eq_false_iff.mp (set value))]
      rfl

/-- The values which both validators collect from a policy. -/
theorem setValue_attributes (policy : TransportPolicy)
    (field : ContractField) :
    PolicyAttributes.setValue field policy.attributes =
      (policy.declaredValue field).map ContractValue.value := by
  cases field with
  | responses =>
      rw [PolicyAttributes.setValue,
        PolicyAttributes.isUnset_comparedValue]
      show (if policy.responses.entries.isEmpty then none else _) = _
      rw [declaredValue]
      split
      · next empty => simp [List.isEmpty_iff.mp empty]
      · next declared =>
          rw [if_neg (mt List.isEmpty_iff.mpr declared)]
          rfl
  | commonErrorStatuses =>
      rw [declaredValue]
      show (if
          (PolicyValue.tuple
            (policy.commonErrorStatuses.map .status)).isUnset then none
        else
          some
            (PolicyValue.tuple
              (policy.commonErrorStatuses.map .status))) = _
      cases policy.commonErrorStatuses with
      | nil => rfl
      | cons status rest => rfl
  | _ =>
      -- the other fields are optional values of one kind each
      rw [declaredValue, Option.map_map]
      exact set_of_optional _ (fun _ => rfl) _

theorem kind_of_map_eq_some {α : Type} {make : α → ContractValue}
    {kind : ContractField} (kinds : ∀ value, (make value).kind = kind)
    {declared : Option α} {value : ContractValue}
    (found : declared.map make = some value) : value.kind = kind := by
  rcases Option.map_eq_some_iff.mp found with ⟨given, -, rfl⟩
  exact kinds given

theorem kind_of_declaredValue {policy : TransportPolicy}
    {field : ContractField} {value : ContractValue}
    (declared : policy.declaredValue field = some value) :
    value.kind = field.kind := by
  cases field with
  | responses =>
      rw [declaredValue] at declared
      split at declared <;> cases declared
      rfl
  | commonErrorStatuses =>
      rw [declaredValue] at declared
      split at declared <;> cases declared
      rfl
  | _ =>
      rw [declaredValue] at declared
      refine kind_of_map_eq_some ?_ declared
      exact fun _ => rfl

theorem distinctValues_eq (field : ContractField)
    (policies : List TransportPolicy) :
    distinctValues field policies =
      collectDistinct ContractValue.isEqual
        (policies.filterMap fun policy => policy.declaredValue field) := by
  rw [distinctValues, collectDistinct, List.foldl_filterMap]
  congr 1
  ext values policy : 2
  cases policy.declaredValue field with
  | none => rfl
  | some value => rfl

/-- The validators find a second value of the same fields. -/
theorem one_lt_length_distinctValues_attributes (field : ContractField)
    (policies : List TransportPolicy) :
    1 < (PolicyAttributes.distinctValues field
          (policies.map attributes)).length ↔
      1 < (distinctValues field policies).length := by
  have collected :
      (policies.map attributes).filterMap
          (PolicyAttributes.setValue field) =
        (policies.filterMap fun policy =>
          policy.declaredValue field).map ContractValue.value := by
    rw [List.filterMap_map, List.map_filterMap]
    apply List.filterMap_congr
    exact fun policy _ => policy.setValue_attributes field
  rw [PolicyAttributes.distinctValues_eq, distinctValues_eq, collected,
    one_lt_length_collectDistinct_iff PolicyValue.compares_isEqual,
    one_lt_length_collectDistinct_iff ContractValue.compares_isEqual]
  simp only [List.mem_map, exists_exists_and_eq_and]
  have kinds :
      ∀ value ∈ policies.filterMap fun policy =>
          policy.declaredValue field,
        value.kind = field.kind := by
    intro value member
    rcases List.mem_filterMap.mp member with ⟨policy, -, declared⟩
    exact kind_of_declaredValue declared
  constructor
  · rintro ⟨left, isLeft, right, isRight, different⟩
    refine ⟨left, isLeft, right, isRight, fun same => different ?_⟩
    exact (Prod.mk.inj same).2
  · rintro ⟨left, isLeft, right, isRight, different⟩
    refine ⟨left, isLeft, right, isRight, fun same => different ?_⟩
    rw [kinds left isLeft, kinds right isRight, same]

/-- Both models of the validator agree. -/
theorem validateModuleConflicts_attributes
    (policies : List TransportPolicy) :
    PolicyAttributes.validateModuleConflicts (policies.map attributes) =
      validateModuleConflicts policies := by
  have fields :
      (contractFields.find? fun field =>
          1 <
            (PolicyAttributes.distinctValues field
              (policies.map attributes)).length) =
        contractFields.find? fun field =>
          1 < (distinctValues field policies).length := by
    simp only [one_lt_length_distinctValues_attributes]
  unfold PolicyAttributes.validateModuleConflicts validateModuleConflicts
  generalize contractFields.find? (fun field =>
    decide
      (1 <
        (PolicyAttributes.distinctValues field
          (policies.map attributes)).length)) = found at fields
  subst fields
  cases contractFields.find? fun field =>
      1 < (distinctValues field policies).length with
  | none => rfl
  | some field => rfl

/-- No field of a typed policy mixes empty values with others. -/
theorem not_mixed_getattr (left right : TransportPolicy)
    {field : ContractField} (other : field ≠ .responses) :
    ¬Mixed (left.getattr field) (right.getattr field) := by
  have optional {α : Type} {make : α → PolicyValue}
      (kinds :
        ∀ value, make value ≠ .tuple [] ∧ make value ≠ .mapping .empty)
      (leftValue rightValue : Option α) :
      ¬Mixed ((leftValue.map make).getD .none)
        ((rightValue.map make).getD .none) := by
    rintro (⟨-, isTuple⟩ | ⟨isMapping, -⟩)
    · cases rightValue with
      | none => cases isTuple
      | some value => exact (kinds value).1 isTuple
    · cases leftValue with
      | none => cases isMapping
      | some value => exact (kinds value).2 isMapping
  cases field with
  | responses => exact (other rfl).elim
  | commonErrorStatuses => rintro (⟨⟨⟩, -⟩ | ⟨⟨⟩, -⟩)
  | _ =>
      rw [getattr, getattr]
      apply optional
      intro value
      constructor <;> rintro ⟨⟩

/-- The law holds of policies with proper models. -/
theorem conflictLaw_attributes (policies : List TransportPolicy) :
    ConflictLaw (policies.map attributes) := by
  apply (conflictLaw_iff _).mpr
  refine Or.inr ?_
  intro left isLeft right isRight field other
  rcases List.mem_map.mp isLeft with ⟨left, -, rfl⟩
  rcases List.mem_map.mp isRight with ⟨right, -, rfl⟩
  exact not_mixed_getattr left right other

end TransportPolicy

end FastapiCore
