import FastapiCore.Library.OrderedDict
import FastapiCore.PythonObjects
import Mathlib.Data.Rat.Defs

/-!
# The readiness registry

A `ReadinessRegistry` holds the readiness checks of one application in
registration order.  Its specs can only be changed through `register` and
`unregister`, so the checks made by `register` are kept as a field: every
entry stands under the name of its spec, that name is not blank, and a
timeout is positive.

`resolveSpec` finds the policy for the name of one entry of a health result.
An exact match is preferred; otherwise the first dot segment of the name is
taken for the name of a spec.
-/

namespace FastapiCore

open Library

/-- One readiness check and its policy. -/
structure ReadinessCheckSpec where
  name : Name
  check : Callable
  required : Bool := true
  timeoutSeconds : Option ℚ := none
  redactErrors : Bool := true
  healthResultAdapter : Option Callable := none
deriving DecidableEq

/-- `timeout_seconds is not None and timeout_seconds <= 0`. -/
def rejectedTimeout : Option ℚ → Bool
  | none => false
  | some seconds => seconds ≤ 0

/-- What `register` has checked of the spec stored under a name. -/
structure ReadinessCheckSpec.RegisteredAs
    (spec : ReadinessCheckSpec) (name : Name) : Prop where
  named : spec.name = name
  notBlank : isBlank spec.name = false
  timeout : rejectedTimeout spec.timeoutSeconds = false

instance (spec : ReadinessCheckSpec) (name : Name) :
    Decidable (spec.RegisteredAs name) :=
  decidable_of_iff
    (spec.name = name ∧ isBlank spec.name = false ∧
      rejectedTimeout spec.timeoutSeconds = false)
    ⟨fun ⟨named, notBlank, timeout⟩ => ⟨named, notBlank, timeout⟩,
      fun ⟨named, notBlank, timeout⟩ => ⟨named, notBlank, timeout⟩⟩

/-- The registered checks of one application, in registration order. -/
structure ReadinessRegistry where
  defaultTimeoutSeconds : Option ℚ
  specs : OrderedDict Name ReadinessCheckSpec
  registered :
    ∀ entry ∈ specs.entries, entry.2.RegisteredAs entry.1

namespace ReadinessRegistry

@[ext]
theorem ext
    {left right : ReadinessRegistry}
    (timeouts : left.defaultTimeoutSeconds = right.defaultTimeoutSeconds)
    (specs : left.specs = right.specs) :
    left = right := by
  cases left
  cases right
  cases timeouts
  cases specs
  rfl

/-- `ReadinessRegistry(default_timeout_seconds=...)`. -/
def new (defaultTimeoutSeconds : Option ℚ) : ReadinessRegistry where
  defaultTimeoutSeconds
  specs := .empty
  registered := by simp

/-- The registered specs in order. -/
def specList (registry : ReadinessRegistry) : List ReadinessCheckSpec :=
  registry.specs.values

/-- The registered names in order. -/
def names (registry : ReadinessRegistry) : List Name :=
  registry.specs.keys

@[simp]
theorem names_new (defaultTimeoutSeconds : Option ℚ) :
    (new defaultTimeoutSeconds).names = [] :=
  rfl

/-- Add a check under its name. -/
def register (registry : ReadinessRegistry) (spec : ReadinessCheckSpec) :
    Except PyExc ReadinessRegistry :=
  if blank : isBlank spec.name = true then
    .error (.valueError "readiness check name must not be empty")
  else if taken : spec.name ∈ registry.names then
    .error
      (.valueError
        ("readiness check '" ++ spec.name ++ "' is already registered"))
  else if rejected : rejectedTimeout spec.timeoutSeconds = true then
    .error
      (.valueError
        "readiness check timeout_seconds must be greater than zero")
  else
    .ok
      { registry with
        specs := registry.specs.insert spec.name spec
        registered := by
          rintro ⟨name, stored⟩ member
          rcases OrderedDict.mem_entries_insert.mp member with
            ⟨rfl, rfl⟩ | ⟨_, oldMember⟩
          · exact ⟨rfl, by simpa using blank, by simpa using rejected⟩
          · exact registry.registered _ oldMember }

/-- Remove a check if it is registered. -/
def unregister (registry : ReadinessRegistry) (name : Name) :
    ReadinessRegistry :=
  { registry with
    specs := registry.specs.erase name
    registered := fun entry member =>
      registry.registered entry
        ((registry.specs.entries_erase_sublist name).subset member) }

/-- The spec whose policy governs an entry of a health result. -/
def resolveSpec (registry : ReadinessRegistry) (name : Name) :
    Except PyExc ReadinessCheckSpec :=
  match registry.specs.get? name with
  | some spec => .ok spec
  | none =>
      match registry.specs.get? (firstSegment name) with
      | some spec => .ok spec
      | none => .error (.keyError (firstSegment name))

/-! ## Registered specs -/

theorem mem_specList {registry : ReadinessRegistry}
    {spec : ReadinessCheckSpec} :
    spec ∈ registry.specList ↔
      (spec.name, spec) ∈ registry.specs.entries := by
  constructor
  · intro member
    rcases List.mem_map.mp member with ⟨⟨name, stored⟩, entryMember, rfl⟩
    have named : stored.name = name :=
      (registry.registered _ entryMember).named
    show (stored.name, stored) ∈ registry.specs.entries
    rw [named]
    exact entryMember
  · intro member
    exact List.mem_map_of_mem (f := Prod.snd) member

theorem names_eq_map (registry : ReadinessRegistry) :
    registry.names = registry.specList.map ReadinessCheckSpec.name := by
  rw [names, specList, OrderedDict.keys, OrderedDict.values, List.map_map]
  apply List.map_congr_left
  intro entry member
  exact (registry.registered entry member).named.symm

theorem nodup_names (registry : ReadinessRegistry) :
    registry.names.Nodup :=
  registry.specs.nodup_keys

theorem get?_name {registry : ReadinessRegistry}
    {spec : ReadinessCheckSpec} (member : spec ∈ registry.specList) :
    registry.specs.get? spec.name = some spec :=
  OrderedDict.get?_eq_some_iff.mpr (mem_specList.mp member)

/-! ## Registration -/

/-- The conditions under which `register` accepts a spec, and its effect. -/
theorem register_eq_ok_iff
    {registry next : ReadinessRegistry} {spec : ReadinessCheckSpec} :
    registry.register spec = .ok next ↔
      isBlank spec.name = false ∧ spec.name ∉ registry.names ∧
        rejectedTimeout spec.timeoutSeconds = false ∧
        next.defaultTimeoutSeconds = registry.defaultTimeoutSeconds ∧
        next.specs = registry.specs.insert spec.name spec := by
  rw [register]
  split_ifs with blank taken rejected
  · simp [blank]
  · simp [taken]
  · simp [rejected]
  · rw [Except.ok.injEq]
    constructor
    · rintro rfl
      exact
        ⟨by simpa using blank, taken, by simpa using rejected, rfl, rfl⟩
    · rintro ⟨-, -, -, timeouts, specs⟩
      exact ext timeouts.symm specs.symm

/-- A spec which already passed the checks is refused for its name only. -/
theorem register_isOk_iff_of_registeredAs
    {registry : ReadinessRegistry} {spec : ReadinessCheckSpec}
    (accepted : spec.RegisteredAs spec.name) :
    (∃ next, registry.register spec = .ok next) ↔
      spec.name ∉ registry.names := by
  constructor
  · rintro ⟨next, registered⟩
    exact (register_eq_ok_iff.mp registered).2.1
  · intro absent
    rw [register, dif_neg (by simp [accepted.notBlank]),
      dif_neg absent, dif_neg (by simp [accepted.timeout])]
    exact ⟨_, rfl⟩

theorem register_taken
    {registry : ReadinessRegistry} {spec : ReadinessCheckSpec}
    (notBlank : isBlank spec.name = false)
    (taken : spec.name ∈ registry.names) :
    registry.register spec =
      .error
        (.valueError
          ("readiness check '" ++ spec.name ++
            "' is already registered")) := by
  rw [register, dif_neg (by simp [notBlank]), dif_pos taken]

theorem entries_register
    {registry next : ReadinessRegistry} {spec : ReadinessCheckSpec}
    (registered : registry.register spec = .ok next) :
    next.specs.entries =
      registry.specs.entries ++ [(spec.name, spec)] := by
  rcases register_eq_ok_iff.mp registered with ⟨-, absent, -, -, specs⟩
  rw [specs, OrderedDict.entries_insert_of_not_mem absent]

theorem names_register
    {registry next : ReadinessRegistry} {spec : ReadinessCheckSpec}
    (registered : registry.register spec = .ok next) :
    next.names = registry.names ++ [spec.name] := by
  rcases register_eq_ok_iff.mp registered with ⟨-, absent, -, -, specs⟩
  rw [names, specs, OrderedDict.keys_insert_of_not_mem absent, names]

/-! ## Registries and lists of specs -/

/-- The registry of a list of specs which `register` accepts one by one. -/
def ofSpecs (defaultTimeoutSeconds : Option ℚ)
    (specs : List ReadinessCheckSpec)
    (nodup : (specs.map ReadinessCheckSpec.name).Nodup)
    (accepted : ∀ spec ∈ specs, spec.RegisteredAs spec.name) :
    ReadinessRegistry where
  defaultTimeoutSeconds
  specs :=
    { entries := specs.map fun spec => (spec.name, spec)
      nodup := by simpa [Function.comp_def] using nodup }
  registered := by
    intro entry member
    rcases List.mem_map.mp member with ⟨spec, specMember, rfl⟩
    exact accepted spec specMember

@[simp]
theorem specList_ofSpecs (defaultTimeoutSeconds : Option ℚ)
    (specs : List ReadinessCheckSpec)
    (nodup : (specs.map ReadinessCheckSpec.name).Nodup)
    (accepted : ∀ spec ∈ specs, spec.RegisteredAs spec.name) :
    (ofSpecs defaultTimeoutSeconds specs nodup accepted).specList =
      specs := by
  simp [ofSpecs, specList, OrderedDict.values, Function.comp_def]

/-- Specs under new names are registered one by one and appended. -/
theorem exists_foldlM_register (added : List ReadinessCheckSpec)
    {registry : ReadinessRegistry}
    (accepted : ∀ spec ∈ added, spec.RegisteredAs spec.name)
    (nodup : (added.map ReadinessCheckSpec.name).Nodup)
    (fresh : ∀ spec ∈ added, spec.name ∉ registry.names) :
    ∃ final, added.foldlM register registry = .ok final ∧
      final.specs.entries =
        registry.specs.entries ++
          added.map fun spec => (spec.name, spec) := by
  induction added generalizing registry with
  | nil => exact ⟨registry, rfl, by simp⟩
  | cons spec rest induction =>
      rw [List.forall_mem_cons] at accepted fresh
      rw [List.map_cons, List.nodup_cons] at nodup
      rcases
        (register_isOk_iff_of_registeredAs accepted.1).mpr fresh.1 with
        ⟨next, registered⟩
      have restFresh : ∀ other ∈ rest, other.name ∉ next.names := by
        intro other member taken
        rw [names_register registered, List.mem_append,
          List.mem_singleton] at taken
        rcases taken with old | same
        · exact fresh.2 other member old
        · exact nodup.1 (List.mem_map.mpr ⟨other, member, same⟩)
      rcases induction accepted.2 nodup.2 restFresh with
        ⟨final, appended, entries⟩
      refine ⟨final, ?_, ?_⟩
      · rw [List.foldlM_cons, registered]
        exact appended
      · rw [entries, entries_register registered, List.append_assoc]
        rfl

theorem names_foldlM_register {added : List ReadinessCheckSpec}
    {registry final : ReadinessRegistry}
    (registered : added.foldlM register registry = .ok final) :
    final.names = registry.names ++ added.map ReadinessCheckSpec.name := by
  induction added generalizing registry with
  | nil =>
      cases registered
      simp
  | cons spec rest induction =>
      rw [List.foldlM_cons] at registered
      cases first : registry.register spec with
      | error exception =>
          rw [first] at registered
          cases registered
      | ok next =>
          rw [first] at registered
          rw [induction registered, names_register first]
          simp

/-! ## Resolution -/

/-- The entry named after a registered spec is governed by that spec. -/
theorem resolveSpec_name {registry : ReadinessRegistry}
    {spec : ReadinessCheckSpec} (member : spec ∈ registry.specList) :
    registry.resolveSpec spec.name = .ok spec := by
  rw [resolveSpec, get?_name member]

/--
A child entry is governed by its parent when the parent's name has no dot and
no spec is registered under the name of the child.
-/
theorem resolveSpec_childName {registry : ReadinessRegistry}
    {spec : ReadinessCheckSpec} (member : spec ∈ registry.specList)
    (dotFree : '.' ∉ spec.name.toList) (child : Name)
    (unshadowed : childName spec.name child ∉ registry.names) :
    registry.resolveSpec (childName spec.name child) = .ok spec := by
  rw [resolveSpec, OrderedDict.get?_eq_none_iff.mpr unshadowed,
    firstSegment_childName, firstSegment_eq_self_iff.mpr dotFree,
    get?_name member]

end ReadinessRegistry

end FastapiCore
