import FastapiCore.ErrorHandlers
import FastapiCore.Library.ClassHierarchy

/-!
# The exception mapping table

The table is looked up along the method resolution order of the exception's
class.  Over any class hierarchy the entry found is a most specific one, the
fallback is for the classes without an entry, and a table whose fallback no
exception could reach is refused.
-/

namespace FastapiCore

open Library

/-! ## Making a table -/

/-- `issubclass(exception_type, Exception)`. -/
def isExceptionType (hierarchy : ClassHierarchy ExcClass)
    (exceptionType : ExcClass) : Bool :=
  exceptionClass ∈ hierarchy.mro exceptionType

/-- The entries of a table, before it is made. -/
abbrev Mappings := OrderedDict ExcClass ErrorMappingValue

/-- A list of specs for a table. -/
abbrev MappingSpecs := List (ExcClass × ErrorMappingValue)

namespace ExceptionMappingTable

variable (hierarchy : ClassHierarchy ExcClass)

/-- `ExceptionMappingTable.__post_init__`, for values of their types. -/
def postInit (mappings : Mappings) (fallback : Option ErrorMappingValue) :
    Except PyExc ExceptionMappingTable :=
  if mappings.keys.all (isExceptionType hierarchy) then
    ExceptionMappingTable.new mappings fallback
  else
    .error
      { cls := .typeError
        message := "exception mapping keys must be Exception types" }

/-- One iteration of the loop in `from_specs`. -/
def addSpec (mappings : Mappings) (spec : ExcClass × ErrorMappingValue) :
    Except PyExc Mappings :=
  if spec.1 ∈ mappings.keys then
    .error
      (.valueError
        ("exception mapping for '" ++ spec.1.name ++
          "' is already registered"))
  else .ok (mappings.insert spec.1 spec.2)

/-- `ExceptionMappingTable.from_specs`. -/
def fromSpecs (specs : MappingSpecs)
    (fallback : Option ErrorMappingValue) :
    Except PyExc ExceptionMappingTable :=
  match specs.foldlM addSpec .empty with
  | .ok mappings => postInit hierarchy mappings fallback
  | .error exception => .error exception

end ExceptionMappingTable

/-- What a value of a table makes of an exception. -/
def ErrorMappingValue.apply (request : Request) (exception : PyExc) :
    ErrorMappingValue → Except PyExc ErrorMapping
  | .mapping result => .ok result
  | .callable mapper => do
      match ← mapper request exception with
      | .mapping result => pure result
      | .other _ =>
          .error
            { cls := .typeError
              message := "exception mapping callable must return ErrorMapping" }

/-! ## The law -/

/-- A class is a key. -/
def isKey (mappings : Mappings) (exceptionType : ExcClass) : Bool :=
  exceptionType ∈ mappings.keys

/-- The key at which the loop in `resolve` stops. -/
def matchedKey (mappings : Mappings) (mro : ExcClass → List ExcClass)
    (cls : ExcClass) : Option ExcClass :=
  (mro cls).find? (isKey mappings)

/-- The keys of specs are classes of exceptions. -/
def ExceptionTypes (hierarchy : ClassHierarchy ExcClass)
    (keys : List ExcClass) : Prop :=
  ∀ key ∈ keys, hierarchy.Inherits key exceptionClass

/-- What a table does with an exception of each class. -/
structure ExceptionMappingTable.Resolves (table : ExceptionMappingTable)
    (hierarchy : ClassHierarchy ExcClass) : Prop where
  /-- The loop stops at a most specific key. -/
  mostSpecific :
    ∀ cls key, matchedKey table.mappings hierarchy.mro cls = some key →
      hierarchy.MostSpecific (isKey table.mappings) cls key
  /-- It stops at no key exactly if no key matches. -/
  unmatched :
    ∀ cls, matchedKey table.mappings hierarchy.mro cls = none ↔
      ∀ key ∈ table.mappings.keys, ¬hierarchy.Inherits cls key
  /-- The entry of the key is used. -/
  entry :
    ∀ request exception key,
      matchedKey table.mappings hierarchy.mro exception.cls = some key →
      ∃ value, (key, value) ∈ table.mappings.entries ∧
        table.resolve hierarchy.mro request exception =
          (value.apply request exception).map some
  /-- Without a key the fallback is used, if there is one. -/
  fallback :
    ∀ request exception value,
      matchedKey table.mappings hierarchy.mro exception.cls = none →
      table.fallback = some value →
        table.resolve hierarchy.mro request exception =
          (value.apply request exception).map some
  /-- There is no mapping exactly if there is neither. -/
  noMapping :
    ∀ request exception,
      table.resolve hierarchy.mro request exception = .ok none ↔
        (∀ key ∈ table.mappings.keys,
          ¬hierarchy.Inherits exception.cls key) ∧
        table.fallback = none

/-- The law of exception mapping tables over a class hierarchy. -/
structure MappingTableLaw (hierarchy : ClassHierarchy ExcClass) : Prop where
  /-- Every table which is accepted resolves exceptions as it should. -/
  resolves :
    ∀ mappings fallback table,
      ExceptionMappingTable.postInit hierarchy mappings fallback =
          .ok table →
        table.Resolves hierarchy
  /-- A fallback is accepted exactly if some exception selects it. -/
  reachable :
    ∀ (mappings : Mappings) fallback,
      ExceptionTypes hierarchy mappings.keys →
      ((∃ table,
          ExceptionMappingTable.postInit hierarchy mappings
            (some fallback) = .ok table) ↔
        ∃ cls, hierarchy.Inherits cls exceptionClass ∧
          matchedKey mappings hierarchy.mro cls = none)
  /-- Specs are accepted exactly if their keys are distinct. -/
  distinct :
    ∀ specs : MappingSpecs,
      ExceptionTypes hierarchy (specs.map Prod.fst) →
      ((∃ table,
          ExceptionMappingTable.fromSpecs hierarchy specs none =
            .ok table) ↔
        (specs.map Prod.fst).Nodup)
  /-- The order of accepted specs does not matter. -/
  unordered :
    ∀ (specs others : MappingSpecs) fallback table,
      ExceptionMappingTable.fromSpecs hierarchy specs fallback =
          .ok table →
      specs.Perm others →
      ∃ same,
        ExceptionMappingTable.fromSpecs hierarchy others fallback =
            .ok same ∧
          ∀ request exception,
            same.resolve hierarchy.mro request exception =
              table.resolve hierarchy.mro request exception

/-! ## Looking an exception up -/

section Lookup

variable {hierarchy : ClassHierarchy ExcClass} {mappings : Mappings}
  {mro : ExcClass → List ExcClass} {cls key : ExcClass}

theorem isKey_iff : isKey mappings key = true ↔ key ∈ mappings.keys :=
  decide_eq_true_iff

/-- The first value of a list of classes is the value of the first key. -/
theorem findSome?_get?_eq (classes : List ExcClass) :
    classes.findSome? mappings.get? =
      (classes.find? (isKey mappings)).bind mappings.get? := by
  induction classes with
  | nil => rfl
  | cons first rest induction =>
      rw [List.findSome?_cons, List.find?_cons]
      cases found : mappings.get? first with
      | some value =>
          have member : isKey mappings first = true := by
            rw [isKey_iff, ← OrderedDict.get?_isSome_iff, found]
            rfl
          rw [member]
          exact found.symm
      | none =>
          have absent : isKey mappings first = false := by
            rw [Bool.eq_false_iff, ne_eq, isKey_iff]
            exact OrderedDict.get?_eq_none_iff.mp found
          rw [absent]
          exact induction

/-- A matched key has an entry. -/
theorem exists_entry_of_matchedKey
    (matched : matchedKey mappings mro cls = some key) :
    ∃ value, mappings.get? key = some value := by
  have member := isKey_iff.mp (List.find?_some matched)
  rw [← Option.isSome_iff_exists, OrderedDict.get?_isSome_iff]
  exact member

theorem matchedKey_eq_none_iff :
    matchedKey mappings hierarchy.mro cls = none ↔
      ∀ key ∈ mappings.keys, ¬hierarchy.Inherits cls key := by
  rw [matchedKey, ClassHierarchy.find?_mro_eq_none_iff]
  constructor
  · intro noMatch key member inherits
    have absent := noMatch key inherits
    rw [isKey_iff.mpr member] at absent
    cases absent
  · intro noMatch ancestor inherits
    rw [Bool.eq_false_iff, ne_eq, isKey_iff]
    exact fun member => noMatch ancestor member inherits

end Lookup

namespace ExceptionMappingTable

variable {table : ExceptionMappingTable} {mro : ExcClass → List ExcClass}
  {request : Request} {exception : PyExc}

/-- What a table does with the value which it has selected. -/
theorem resolve_eq :
    table.resolve mro request exception =
      match table.select mro exception with
      | none => .ok none
      | some value => (value.apply request exception).map some := by
  rw [resolve]
  cases table.select mro exception with
  | none => rfl
  | some value =>
      cases value with
      | mapping result => rfl
      | callable mapper =>
          show (mapper request exception >>= _) =
            (mapper request exception >>= _).map some
          cases mapper request exception with
          | error raised => rfl
          | ok result => cases result <;> rfl

theorem select_of_matchedKey {key : ExcClass} {value : ErrorMappingValue}
    (matched : matchedKey table.mappings mro exception.cls = some key)
    (entry : table.mappings.get? key = some value) :
    table.select mro exception = some value := by
  rw [select, findSome?_get?_eq]
  rw [matchedKey] at matched
  rw [matched, Option.bind_some, entry, Option.some_or]

theorem select_of_unmatched
    (unmatched : matchedKey table.mappings mro exception.cls = none) :
    table.select mro exception = table.fallback := by
  rw [select, findSome?_get?_eq]
  rw [matchedKey] at unmatched
  rw [unmatched, Option.bind_none, Option.none_or]

/-- Every table resolves exceptions by their most specific entry. -/
theorem resolves (table : ExceptionMappingTable)
    (hierarchy : ClassHierarchy ExcClass) : table.Resolves hierarchy := by
  constructor
  case mostSpecific =>
    intro cls key matched
    exact ClassHierarchy.mostSpecific_of_find? matched
  case unmatched => exact fun cls => matchedKey_eq_none_iff
  case entry =>
    intro request exception key matched
    rcases exists_entry_of_matchedKey matched with ⟨value, entry⟩
    refine ⟨value, OrderedDict.get?_eq_some_iff.mp entry, ?_⟩
    rw [resolve_eq, select_of_matchedKey matched entry]
  case fallback =>
    intro request exception value unmatched fallback
    rw [resolve_eq, select_of_unmatched unmatched, fallback]
  case noMapping =>
    intro request exception
    rw [← matchedKey_eq_none_iff, resolve_eq]
    have used (value : ErrorMappingValue) :
        (value.apply request exception).map some ≠ .ok none := by
      cases value.apply request exception with
      | error raised => nofun
      | ok mapping => nofun
    cases matched :
        matchedKey table.mappings hierarchy.mro exception.cls with
    | some key =>
        rcases exists_entry_of_matchedKey matched with ⟨value, entry⟩
        rw [select_of_matchedKey matched entry]
        simp [used]
    | none =>
        rw [select_of_unmatched matched]
        cases table.fallback with
        | none => simp
        | some value => simp [used]

end ExceptionMappingTable

/-! ## Which tables are accepted -/

section Acceptance

variable {hierarchy : ClassHierarchy ExcClass} {mappings : Mappings}
  {fallback : Option ErrorMappingValue} {table : ExceptionMappingTable}

theorem isExceptionType_iff {key : ExcClass} :
    isExceptionType hierarchy key = true ↔
      hierarchy.Inherits key exceptionClass := by
  rw [isExceptionType, decide_eq_true_iff]
  exact hierarchy.mem_mro

namespace ExceptionMappingTable

theorem new_eq_ok_iff :
    ExceptionMappingTable.new mappings fallback = .ok table ↔
      table.mappings = mappings ∧ table.fallback = fallback := by
  rw [ExceptionMappingTable.new]
  split
  · rw [Except.ok.injEq]
    constructor
    · rintro rfl
      exact ⟨rfl, rfl⟩
    · rintro ⟨rfl, rfl⟩
      rfl
  · next unreachable =>
      constructor
      · nofun
      · rintro ⟨rfl, rfl⟩
        exact (unreachable table.reachable).elim

theorem postInit_eq_ok_iff :
    postInit hierarchy mappings fallback = .ok table ↔
      ExceptionTypes hierarchy mappings.keys ∧
        table.mappings = mappings ∧ table.fallback = fallback := by
  have types :
      mappings.keys.all (isExceptionType hierarchy) = true ↔
        ExceptionTypes hierarchy mappings.keys := by
    rw [List.all_eq_true]
    exact forall₂_congr fun _ _ => isExceptionType_iff
  rw [postInit, ← types]
  split
  · next valid => rw [new_eq_ok_iff, valid, and_iff_right rfl]
  · next invalid =>
      constructor
      · nofun
      · exact fun accepted => (invalid accepted.1).elim

/-- The constructor accepts a fallback which is not out of reach. -/
theorem exists_postInit_iff
    (types : ExceptionTypes hierarchy mappings.keys) :
    (∃ table, postInit hierarchy mappings fallback = .ok table) ↔
      (fallback.isSome = true → exceptionClass ∉ mappings.keys) := by
  simp only [postInit_eq_ok_iff]
  constructor
  · rintro ⟨table, -, rfl, rfl⟩
    exact table.reachable
  · exact fun reachable => ⟨⟨mappings, fallback, reachable⟩, types, rfl, rfl⟩

/-- The specs of the loop are the entries of its dictionary. -/
theorem foldlM_addSpec_eq_ok_iff {specs : MappingSpecs}
    {start final : Mappings} :
    specs.foldlM addSpec start = .ok final ↔
      final.entries = start.entries ++ specs := by
  induction specs generalizing start with
  | nil =>
      rw [List.foldlM_nil, List.append_nil]
      constructor
      · rintro ⟨⟩
        rfl
      · intro entries
        rw [OrderedDict.ext entries]
        rfl
  | cons spec rest induction =>
      rw [List.foldlM_cons, addSpec]
      by_cases taken : spec.1 ∈ start.keys
      · rw [if_pos taken]
        constructor
        · nofun
        · intro entries
          have nodup := final.nodup
          rw [entries, List.map_append] at nodup
          have disjoint := (List.nodup_append.mp nodup).2.2
          exact (disjoint _ taken _ (by simp) rfl).elim
      · rw [if_neg taken]
        show rest.foldlM addSpec (start.insert spec.1 spec.2) = _ ↔ _
        rw [induction, OrderedDict.entries_insert_of_not_mem taken,
          List.append_assoc]
        rfl

theorem fromSpecs_eq_ok_iff {specs : MappingSpecs} :
    fromSpecs hierarchy specs fallback = .ok table ↔
      ExceptionTypes hierarchy table.mappings.keys ∧
        table.mappings.entries = specs ∧ table.fallback = fallback := by
  rw [fromSpecs]
  have loop :=
    @foldlM_addSpec_eq_ok_iff specs .empty table.mappings
  rw [OrderedDict.entries_empty, List.nil_append] at loop
  cases ran : specs.foldlM addSpec .empty with
  | error exception =>
      rw [ran] at loop
      constructor
      · nofun
      · rintro ⟨-, entries, -⟩
        cases loop.mpr entries
  | ok mappings =>
      rw [ran, Except.ok.injEq] at loop
      dsimp only
      rw [postInit_eq_ok_iff, ← loop]
      constructor
      · rintro ⟨types, rfl, rfl⟩
        exact ⟨types, rfl, rfl⟩
      · rintro ⟨types, rfl, rfl⟩
        exact ⟨types, rfl, rfl⟩

/-- Tables with the same values for all classes resolve alike. -/
theorem resolve_congr {same : ExceptionMappingTable}
    (lookups :
      ∀ key, same.mappings.get? key = table.mappings.get? key)
    (fallbacks : same.fallback = table.fallback)
    (mro : ExcClass → List ExcClass) (request : Request)
    (exception : PyExc) :
    same.resolve mro request exception =
      table.resolve mro request exception := by
  have selected :
      same.select mro exception = table.select mro exception := by
    rw [select, select, funext lookups, fallbacks]
  rw [resolve_eq, resolve_eq, selected]

/-- Accepted specs are accepted in any order, with the same lookups. -/
theorem exists_fromSpecs_of_perm {specs others : MappingSpecs}
    (accepted : fromSpecs hierarchy specs fallback = .ok table)
    (perm : specs.Perm others) :
    ∃ same, fromSpecs hierarchy others fallback = .ok same ∧
      ∀ request exception,
        same.resolve hierarchy.mro request exception =
          table.resolve hierarchy.mro request exception := by
  rcases fromSpecs_eq_ok_iff.mp accepted with ⟨types, rfl, rfl⟩
  have keys := perm.map Prod.fst
  let mappings : Mappings := ⟨others, keys.nodup_iff.mp table.mappings.nodup⟩
  have sameKeys :
      ∀ key, key ∈ mappings.keys ↔ key ∈ table.mappings.keys :=
    fun key => keys.mem_iff.symm
  have reachable :
      table.fallback.isSome = true → exceptionClass ∉ mappings.keys := by
    intro given
    rw [sameKeys]
    exact table.reachable given
  refine ⟨⟨mappings, table.fallback, reachable⟩, ?_, ?_⟩
  · apply fromSpecs_eq_ok_iff.mpr
    refine ⟨?_, rfl, rfl⟩
    intro key member
    exact types key ((sameKeys key).mp member)
  · intro request exception
    apply resolve_congr
    · intro key
      exact OrderedDict.get?_eq_of_mem_iff fun _ => perm.mem_iff.symm
    · rfl

theorem exists_fromSpecs_iff {specs : MappingSpecs}
    (types : ExceptionTypes hierarchy (specs.map Prod.fst)) :
    (∃ table, fromSpecs hierarchy specs none = .ok table) ↔
      (specs.map Prod.fst).Nodup := by
  constructor
  · rintro ⟨table, accepted⟩
    rcases fromSpecs_eq_ok_iff.mp accepted with ⟨-, rfl, -⟩
    exact table.mappings.nodup
  · intro nodup
    refine ⟨⟨⟨specs, nodup⟩, none, by simp⟩, ?_⟩
    exact fromSpecs_eq_ok_iff.mpr ⟨types, rfl, rfl⟩

/--
The fallback of a table is reachable exactly if some class of exceptions has
no key: the class `Exception` matches no other key than itself.
-/
theorem not_mem_keys_iff_exists_unmatched
    (types : ExceptionTypes hierarchy mappings.keys) :
    exceptionClass ∉ mappings.keys ↔
      ∃ cls, hierarchy.Inherits cls exceptionClass ∧
        matchedKey mappings hierarchy.mro cls = none := by
  simp only [matchedKey_eq_none_iff]
  constructor
  · intro absent
    refine ⟨exceptionClass, hierarchy.refl _, ?_⟩
    intro key member above
    have same := (types key member).antisymm above
    exact absent (same ▸ member)
  · rintro ⟨cls, inherits, unmatched⟩ member
    exact unmatched exceptionClass member inherits

end ExceptionMappingTable

end Acceptance

/--
Over every class hierarchy, tables resolve exceptions by their most specific
entry, have no fallback out of reach, and do not depend on the order of their
specs.
-/
theorem mappingTableLaw (hierarchy : ClassHierarchy ExcClass) :
    MappingTableLaw hierarchy := by
  constructor
  case resolves =>
    exact fun _ _ table _ => table.resolves hierarchy
  case reachable =>
    intro mappings fallback types
    rw [ExceptionMappingTable.exists_postInit_iff types,
      ← ExceptionMappingTable.not_mem_keys_iff_exists_unmatched types]
    exact forall_prop_of_true rfl
  case distinct =>
    exact fun specs => ExceptionMappingTable.exists_fromSpecs_iff
  case unordered =>
    exact fun specs others fallback table =>
      ExceptionMappingTable.exists_fromSpecs_of_perm

/-! ## A hierarchy with a diamond -/

/-- The proper ancestors of two errors, of their base and of their mixin. -/
def diamondBases : ExcClass → List ExcClass
  | .other "StorageError" => [exceptionClass]
  | .other "MissingError" => [.other "StorageError", exceptionClass]
  | .other "RemoteError" => [.other "StorageError", exceptionClass]
  | .other "RemoteMissingError" =>
      [.other "MissingError", .other "RemoteError", .other "StorageError",
        exceptionClass]
  | _ => []

theorem diamondBases_trans {cls middle ancestor : ExcClass}
    (below : middle ∈ diamondBases cls)
    (above : ancestor ∈ diamondBases middle) :
    ancestor ∈ diamondBases cls := by
  unfold diamondBases at below
  split at below
  all_goals
    simp only [List.mem_cons, List.not_mem_nil, or_false] at below
  · subst below
    cases above
  · rcases below with rfl | rfl
    · exact List.mem_cons_of_mem _ above
    · cases above
  · rcases below with rfl | rfl
    · exact List.mem_cons_of_mem _ above
    · cases above
  · rcases below with rfl | rfl | rfl | rfl
    · exact List.mem_cons_of_mem _ (List.mem_cons_of_mem _ above)
    · exact List.mem_cons_of_mem _ (List.mem_cons_of_mem _ above)
    · exact
        List.mem_cons_of_mem _
          (List.mem_cons_of_mem _ (List.mem_cons_of_mem _ above))
    · cases above

/-- An error which inherits from two errors with one base. -/
def diamond : ClassHierarchy ExcClass where
  Inherits cls ancestor := ancestor ∈ cls :: diamondBases cls
  mro cls := cls :: diamondBases cls
  refl _ := List.mem_cons_self
  trans := by
    intro cls middle ancestor below above
    rcases List.mem_cons.mp below with rfl | below
    · exact above
    · rcases List.mem_cons.mp above with rfl | above
      · exact List.mem_cons_of_mem _ below
      · exact List.mem_cons_of_mem _ (diamondBases_trans below above)
  mem_mro := Iff.rfl
  ordered := by
    intro cls
    unfold diamondBases
    split
    · decide
    · decide
    · decide
    · decide
    · exact List.pairwise_singleton _ _

/-- A table with keys for the base and for one side of the diamond. -/
def diamondMappings : Mappings :=
  (OrderedDict.empty.insert (.other "StorageError")
    (.mapping { statusCode := 500, detail := "storage" })).insert
      (.other "RemoteError")
      (.mapping { statusCode := 502, detail := "remote" })

/-- The key of the side is more specific than that of the base. -/
theorem mappingTableLaw_diamond :
    ∃ table,
      ExceptionMappingTable.postInit diamond diamondMappings
          (some (.mapping { statusCode := 503, detail := "other" })) =
          .ok table ∧
        diamond.MostSpecific (isKey diamondMappings)
          (.other "RemoteMissingError") (.other "RemoteError") ∧
        matchedKey diamondMappings diamond.mro exceptionClass = none := by
  have law := mappingTableLaw diamond
  have types : ExceptionTypes diamond diamondMappings.keys := by
    intro key member
    have keys :
        key ∈ [ExcClass.other "StorageError", .other "RemoteError"] :=
      member
    rcases List.mem_pair.mp keys with rfl | rfl
    · exact .tail _ (.head _)
    · exact .tail _ (.tail _ (.head _))
  have unmatched :
      matchedKey diamondMappings diamond.mro exceptionClass = none := by
    decide
  rcases (law.reachable diamondMappings _ types).mpr
      ⟨exceptionClass, diamond.refl _, unmatched⟩ with
    ⟨table, accepted⟩
  have resolves := law.resolves _ _ table accepted
  have mappings :=
    (ExceptionMappingTable.postInit_eq_ok_iff.mp accepted).2.1
  have found :
      matchedKey diamondMappings diamond.mro
          (.other "RemoteMissingError") =
        some (.other "RemoteError") := by
    decide
  rw [← mappings] at found
  have specific := resolves.mostSpecific _ _ found
  rw [mappings] at specific
  exact ⟨table, accepted, specific, unmatched⟩

end FastapiCore
