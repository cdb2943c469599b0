import FastapiCore.ReadinessRegistry

/-!
# Managed resources

A resource is declared as a `ManagedResource`, whose name is a string or a
`ResourceKey`, or as a `ResourceBinding`, whose key is always a
`ResourceKey`.  The registry binds every declaration and keeps what its
validation has checked as fields: the names are distinct and not reserved,
and a readiness timeout is positive.  A `ResourceKey` carries that its name
is not blank.
-/

namespace FastapiCore

/-- `_RESERVED_RESOURCE_NAMES`. -/
def reservedResourceNames : List Name :=
  ["auth_provider", "config", "readiness_registry", "resource_registry",
    "resources", "root_logger", "service_clients", "service_runtime",
    "settings"]

/-- A typed key, which is never blank. -/
structure ResourceKey where
  name : Name
  notBlank : isBlank name = false
deriving DecidableEq

/-- `ResourceKey(name)`. -/
def ResourceKey.new (name : Name) : Except PyExc ResourceKey :=
  if blank : isBlank name = true then
    .error (.valueError "resource key name must not be empty")
  else .ok ⟨name, by simpa using blank⟩

/-- The key of a database. -/
def ResourceKey.database : ResourceKey where
  name := "database"
  notBlank := by decide

/-- The type `str | ResourceKey` of a resource name. -/
inductive ResourceName where
  | str (name : Name)
  | key (resourceKey : ResourceKey)
deriving DecidableEq

/-- `ResourceRegistry._name`. -/
def ResourceName.resolve : ResourceName → Name
  | .str name => name
  | .key resourceKey => resourceKey.name

/-- The declaration of a resource by name. -/
structure ManagedResource where
  name : ResourceName
  factory : Callable
  healthcheck : Option Callable := none
  close : Option Callable := none
  required : Bool := true
  readinessTimeoutSeconds : Option ℚ := none
  redactErrors : Bool := true
  healthResultAdapter : Option Callable := none
deriving DecidableEq

/-- The declaration of a resource by key. -/
structure ResourceBinding where
  key : ResourceKey
  factory : Callable
  healthcheck : Option Callable := none
  close : Option Callable := none
  required : Bool := true
  readinessTimeoutSeconds : Option ℚ := none
  redactErrors : Bool := true
  healthResultAdapter : Option Callable := none
deriving DecidableEq

/-- `key if isinstance(key, ResourceKey) else ResourceKey(key)`. -/
def ResourceName.toKey : ResourceName → Except PyExc ResourceKey
  | .str name => ResourceKey.new name
  | .key resourceKey => .ok resourceKey

/-- `ResourceBinding(name, ...)` with the fields of a resource. -/
def ResourceBinding.new (resource : ManagedResource) :
    Except PyExc ResourceBinding :=
  resource.name.toKey.map fun resourceKey =>
    { key := resourceKey
      factory := resource.factory
      healthcheck := resource.healthcheck
      close := resource.close
      required := resource.required
      readinessTimeoutSeconds := resource.readinessTimeoutSeconds
      redactErrors := resource.redactErrors
      healthResultAdapter := resource.healthResultAdapter }

/-- `ManagedResource.bind`. -/
def ManagedResource.bind (resource : ManagedResource) :
    Except PyExc ResourceBinding :=
  match resource.name with
  | .str name =>
      if isBlank name then
        .error (.valueError "resource name must not be empty")
      else ResourceBinding.new resource
  | .key _ => ResourceBinding.new resource

namespace ResourceBinding

variable (binding : ResourceBinding)

/-- The name of the key. -/
def name : Name :=
  binding.key.name

/-- The resource as the registry starts and closes it. -/
def managedResource : ManagedResource where
  name := .key binding.key
  factory := binding.factory
  healthcheck := binding.healthcheck
  close := binding.close
  required := binding.required
  readinessTimeoutSeconds := binding.readinessTimeoutSeconds
  redactErrors := binding.redactErrors
  healthResultAdapter := binding.healthResultAdapter

end ResourceBinding

namespace ManagedResource

variable (resource : ManagedResource)

/-- The spec which `start` registers for a resource with this health check. -/
def readinessCheckSpec (healthcheck : Callable) (value : PyObject) :
    ReadinessCheckSpec where
  name := resource.name.resolve
  check := healthcheck.applyPartial value
  required := resource.required
  timeoutSeconds := resource.readinessTimeoutSeconds
  redactErrors := resource.redactErrors
  healthResultAdapter := resource.healthResultAdapter

/-- `len(args) == 1 and args[0] is value`. -/
def isSoleArgument : List PyObject → PyObject → Bool
  | [argument], value => argument.isSame value
  | _, _ => false

/--
The test by which `close` recognises the check of a resource: a `partial`
over its health check with the value as the only positional argument.
-/
def ownsCheck (value : PyObject) : Callable → Bool
  | .function _ => false
  | .functoolsPartial func args _ =>
      resource.healthcheck.any (·.isFunction func) &&
        isSoleArgument args value

end ManagedResource

/-- What `_close_resource` invokes. -/
inductive Closer where
  | given (callable : Callable)
  | aclose
  | close
deriving DecidableEq

/-- The choice made by `_close_resource`. -/
def ManagedResource.closer (resource : ManagedResource)
    (value : PyObject) : Option Closer :=
  match resource.close with
  | some callable => some (.given callable)
  | none =>
      if value.aclose then some .aclose
      else if value.close then some .close
      else none

/-! ## The registry -/

/-- An element of the `resources` argument. -/
inductive ResourceDeclaration where
  | managedResource (resource : ManagedResource)
  | resourceBinding (binding : ResourceBinding)

/-- `resource if isinstance(resource, ResourceBinding) else resource.bind()`. -/
def ResourceDeclaration.bind :
    ResourceDeclaration → Except PyExc ResourceBinding
  | .managedResource resource => resource.bind
  | .resourceBinding binding => .ok binding

/-- `ResourceRegistry._validate`, with the set of names seen so far. -/
def validateResources (reservedNames : List Name) :
    List Name → List ManagedResource → Except PyExc Unit
  | _, [] => .ok ()
  | names, resource :: rest =>
      let name := resource.name.resolve
      if isBlank name then
        .error (.valueError "resource name must not be empty")
      else if name ∈ reservedNames then
        .error
          (.valueError ("resource name '" ++ name ++ "' is reserved"))
      else if name ∈ names then
        .error
          (.valueError
            ("resource name '" ++ name ++ "' is already registered"))
      else if rejectedTimeout resource.readinessTimeoutSeconds then
        .error
          (.valueError
            ("managed resource readiness_timeout_seconds must be greater " ++
              "than zero"))
      else validateResources reservedNames (name :: names) rest

/-- What the validation asks of one resource. -/
structure ManagedResource.Valid (resource : ManagedResource) : Prop where
  notBlank : isBlank resource.name.resolve = false
  notReserved : resource.name.resolve ∉ reservedResourceNames
  timeout : rejectedTimeout resource.readinessTimeoutSeconds = false

instance (resource : ManagedResource) : Decidable resource.Valid :=
  decidable_of_iff
    (isBlank resource.name.resolve = false ∧
      resource.name.resolve ∉ reservedResourceNames ∧
      rejectedTimeout resource.readinessTimeoutSeconds = false)
    ⟨fun ⟨notBlank, notReserved, timeout⟩ =>
        ⟨notBlank, notReserved, timeout⟩,
      fun ⟨notBlank, notReserved, timeout⟩ =>
        ⟨notBlank, notReserved, timeout⟩⟩

/-- The names of resources, in order. -/
def resourceNames (resources : List ManagedResource) : List Name :=
  resources.map fun resource => resource.name.resolve

theorem validateResources_eq_ok_iff {resources : List ManagedResource}
    {names : List Name} :
    validateResources reservedResourceNames names resources = .ok () ↔
      (∀ resource ∈ resources, resource.Valid) ∧
        (resourceNames resources).Nodup ∧
        ∀ name ∈ resourceNames resources, name ∉ names := by
  induction resources generalizing names with
  | nil => simp [validateResources, resourceNames]
  | cons resource rest induction =>
      rw [validateResources]
      split_ifs with blank reserved taken rejected
      · constructor
        · nofun
        · rintro ⟨valid, -⟩
          have fresh := (valid resource (by simp)).notBlank
          simp [blank] at fresh
      · constructor
        · nofun
        · rintro ⟨valid, -⟩
          exact ((valid resource (by simp)).notReserved reserved).elim
      · constructor
        · nofun
        · rintro ⟨-, -, absent⟩
          exact (absent _ (by simp [resourceNames]) taken).elim
      · constructor
        · nofun
        · rintro ⟨valid, -⟩
          have timeout := (valid resource (by simp)).timeout
          simp [rejected] at timeout
      · rw [induction]
        have valid : resource.Valid :=
          ⟨by simpa using blank, reserved, by simpa using rejected⟩
        simp only [resourceNames, List.map_cons, List.nodup_cons,
          List.forall_mem_cons]
        constructor
        · rintro ⟨restValid, nodup, absent⟩
          refine
            ⟨⟨valid, restValid⟩,
              ⟨fun member => absent _ member (by simp), nodup⟩, taken,
              fun name member seen => ?_⟩
          exact absent name member (List.mem_cons_of_mem _ seen)
        · rintro ⟨⟨-, restValid⟩, ⟨fresh, nodup⟩, -, absent⟩
          refine ⟨restValid, nodup, fun name member seen => ?_⟩
          rcases List.mem_cons.mp seen with rfl | older
          · exact fresh member
          · exact absent name member older

/-- The bound resources of one application. -/
structure ResourceRegistry where
  bindings : List ResourceBinding
  valid :
    ∀ resource ∈ bindings.map ResourceBinding.managedResource,
      resource.Valid
  nodup :
    (resourceNames (bindings.map ResourceBinding.managedResource)).Nodup

namespace ResourceRegistry

/-- `ResourceRegistry(resources, readiness)`. -/
def new (declarations : List ResourceDeclaration) :
    Except PyExc ResourceRegistry :=
  match declarations.mapM ResourceDeclaration.bind with
  | .error exception => .error exception
  | .ok bindings =>
      match checked :
        validateResources reservedResourceNames []
          (bindings.map ResourceBinding.managedResource) with
      | .error exception => .error exception
      | .ok () =>
          .ok
            { bindings
              valid := (validateResources_eq_ok_iff.mp checked).1
              nodup := (validateResources_eq_ok_iff.mp checked).2.1 }

/-- The registry of an application without resources. -/
def empty : ResourceRegistry where
  bindings := []
  valid := by simp
  nodup := by decide

variable (registry : ResourceRegistry)

/-- The resources in declaration order. -/
def resources : List ManagedResource :=
  registry.bindings.map ResourceBinding.managedResource

/-- The names in declaration order. -/
def names : List Name :=
  resourceNames registry.resources

theorem nodup_names : registry.names.Nodup :=
  registry.nodup

/-- A spec made for a resource passes the checks of `register`. -/
theorem registeredAs_readinessCheckSpec {resource : ManagedResource}
    (member : resource ∈ registry.resources)
    (healthcheck : Callable) (value : PyObject) :
    (resource.readinessCheckSpec healthcheck value).RegisteredAs
      resource.name.resolve where
  named := rfl
  notBlank := (registry.valid resource member).notBlank
  timeout := (registry.valid resource member).timeout

theorem ext_of_bindings {left right : ResourceRegistry}
    (bindings : left.bindings = right.bindings) : left = right := by
  cases left
  cases right
  cases bindings
  rfl

theorem new_eq_ok_iff {declarations : List ResourceDeclaration}
    {registry : ResourceRegistry} :
    new declarations = .ok registry ↔
      declarations.mapM ResourceDeclaration.bind = .ok registry.bindings := by
  rw [new]
  cases bound : declarations.mapM ResourceDeclaration.bind with
  | error exception => simp
  | ok bindings =>
      rw [Except.ok.injEq]
      dsimp only
      split
      · next failed =>
          constructor
          · nofun
          · rintro rfl
            have passed :
                validateResources reservedResourceNames []
                    (registry.bindings.map
                      ResourceBinding.managedResource) =
                  .ok () :=
              validateResources_eq_ok_iff.mpr
                ⟨registry.valid, registry.nodup, by simp⟩
            rw [failed] at passed
            cases passed
      · rw [Except.ok.injEq]
        constructor
        · rintro rfl
          rfl
        · intro equal
          exact ext_of_bindings equal

end ResourceRegistry

/-! ## Recognising the check of a resource -/

namespace ManagedResource

variable {resource : ManagedResource} {healthcheck : Callable}
variable {value : PyObject}

theorem isSoleArgument_iff {args : List PyObject} :
    isSoleArgument args value = true ↔
      ∃ argument, args = [argument] ∧ argument.isSame value = true := by
  match args with
  | [] => simp [isSoleArgument]
  | [argument] => simp [isSoleArgument]
  | _ :: _ :: _ => simp [isSoleArgument]

/--
`close` recognises the check made from a health check exactly when the health
check is not itself a `partial`, which `partial` would have flattened.
-/
theorem ownsCheck_applyPartial_iff
    (declared : resource.healthcheck = some healthcheck) :
    resource.ownsCheck value (healthcheck.applyPartial value) = true ↔
      healthcheck.isFunctoolsPartial = false := by
  cases healthcheck with
  | function ref =>
      simp [Callable.applyPartial, ownsCheck, declared, isSoleArgument,
        Callable.isFunction, Callable.isFunctoolsPartial]
  | functoolsPartial func args keywords =>
      simp [Callable.applyPartial, ownsCheck, declared, isSoleArgument,
        Callable.isFunction, Callable.isFunctoolsPartial]

/-- The checks which `close` takes for the check of a resource. -/
theorem ownsCheck_iff {check : Callable} :
    resource.ownsCheck value check = true ↔
      ∃ func argument keywords,
        check = .functoolsPartial func [argument] keywords ∧
          resource.healthcheck = some (.function func) ∧
          argument.isSame value = true := by
  cases check with
  | function ref => simp [ownsCheck]
  | functoolsPartial func args keywords =>
      rw [ownsCheck, Bool.and_eq_true]
      constructor
      · rintro ⟨sameFunction, sameValue⟩
        rcases Option.any_eq_true _ _ |>.mp sameFunction with
          ⟨found, declared, isFunction⟩
        rcases isSoleArgument_iff.mp sameValue with ⟨argument, rfl, same⟩
        refine ⟨func, argument, keywords, rfl, ?_, same⟩
        rw [declared, Callable.isFunction_iff.mp isFunction]
      · rintro ⟨found, argument, _, equal, declared, sameValue⟩
        cases equal
        simp [declared, Callable.isFunction, isSoleArgument, sameValue]

end ManagedResource

end FastapiCore
