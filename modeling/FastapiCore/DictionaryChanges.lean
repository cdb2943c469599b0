import FastapiCore.Library.JsonPath
import FastapiCore.OpenApiExpectations

/-!
# Dictionaries which are changed in place

The functions which complete the generated schema change its dictionaries in
place, by the operations of Python.  On documents with objects where they
look for them, these operations are changes at paths.
-/

namespace FastapiCore

open Library
open Library.JsonTree

/-! ## Changing dictionaries in place -/

/-- `value[name]`, which is changed in place. -/
def subscriptInPlace (value : JsonTree) (name : String)
    (change : JsonTree → Except PyExc JsonTree) : Except PyExc JsonTree := do
  let found ← subscript value name
  let changed ← change found
  pure (value.alterAt [name] fun _ => changed)

/-- `value.get(name)`, which is changed in place unless it is missing. -/
def getInPlace (value : JsonTree) (name : String)
    (change : JsonTree → Except PyExc JsonTree) : Except PyExc JsonTree := do
  match ← dictGet value name with
  | none => pure value
  | some found => do
      let changed ← change found
      pure (value.alterAt [name] fun _ => changed)

/-- `if value is not None`. -/
def unlessNone (change : JsonTree → Except PyExc JsonTree) :
    JsonTree → Except PyExc JsonTree
  | .scalar .null => .ok (.scalar .null)
  | value => change value

/-- `members[name] = value`. -/
def setMember (name : String) (value : JsonTree) (members : Members) :
    Members :=
  if name ∈ memberNames members then alterMember name (fun _ => value) members
  else members ++ [(name, value)]

/-- `members.setdefault(name, value)`. -/
def setDefaultMember (name : String) (value : JsonTree) (members : Members) :
    Members :=
  if name ∈ memberNames members then members else members ++ [(name, value)]

/-- `members.pop(name, None)`. -/
def popMember (name : String) (members : Members) : Members :=
  members.filter fun entry => entry.1 ≠ name

/-- `value[name] = item`. -/
def assignItem (name : String) (item : JsonTree) :
    JsonTree → Except PyExc JsonTree
  | .object members => .ok (.object (setMember name item members))
  | .array _ =>
      .error (.typeError "list indices must be integers or slices, not str")
  | value =>
      .error
        (.typeError
          ("'" ++ typeName value ++
            "' object does not support item assignment"))

theorem exists_lookup_of_mem {name : String} {members : Members}
    (present : name ∈ memberNames members) :
    ∃ value, members.lookup name = some value := by
  rcases List.mem_map.mp present with ⟨entry, member, rfl⟩
  cases looked : members.lookup entry.1 with
  | some value => exact ⟨value, Eq.refl _⟩
  | none =>
      have apart := List.lookup_eq_none_iff.mp looked entry member
      exact absurd apart (by simp)

theorem lookup_eq_none_of_not_mem {name : String} {members : Members}
    (absent : name ∉ memberNames members) :
    members.lookup name = none := by
  apply List.lookup_eq_none_iff.mpr
  intro entry member
  have different : name ≠ entry.1 := by
    rintro rfl
    exact absent (List.mem_map_of_mem member)
  simpa only [bne_iff_ne, ne_eq] using different

/-- Change the members of an object. -/
def onObject (change : Members → Members) : JsonTree → JsonTree
  | .object members => .object (change members)
  | value => value

/-! ## Objects along a path -/

/-- There are objects all along a path, as far as it goes. -/
def ObjectsAlong : List String → JsonTree → Prop
  | [], tree => ∃ members, tree = .object members
  | name :: rest, tree =>
      ∃ members, tree = .object members ∧
        ∀ value, members.lookup name = some value → ObjectsAlong rest value

section InPlace

variable {members : Members} {name : String}
  {change : JsonTree → Except PyExc JsonTree} {step : JsonTree → JsonTree}

theorem getInPlace_eq_ok
    (changes : ∀ value, members.lookup name = some value →
      change value = .ok (step value)) :
    getInPlace (.object members) name change =
      .ok (.object (alterMember name step members)) := by
  cases looked : members.lookup name with
  | none =>
      have same : (JsonTree.object members).alterAt [name] step =
          .object members := by
        apply alterAt_of_none
        simp only [at?, looked, Option.bind_none]
      have unchanged :
          getInPlace (.object members) name change =
            .ok (.object members) := by
        simp only [getInPlace, dictGet, dictMembers, bind, pure, Except.bind,
          Except.pure, looked]
      exact unchanged.trans (congrArg Except.ok same.symm)
  | some value =>
      have agree : ∀ found, members.lookup name = some found →
          step value = step found := by
        intro found again
        cases looked.symm.trans again
        exact congrArg step (Eq.refl value)
      simp only [getInPlace, dictGet, dictMembers, bind, pure, Except.bind,
        Except.pure, looked, changes value looked, alterAt]
      apply congrArg (Except.ok ∘ JsonTree.object)
      exact alterMember_congr agree

theorem subscriptInPlace_eq_ok {value : JsonTree}
    (looked : members.lookup name = some value)
    (changes : change value = .ok (step value)) :
    subscriptInPlace (.object members) name change =
      .ok (.object (alterMember name step members)) := by
  have found : subscript (.object members) name = .ok value :=
    subscript_eq_ok_iff.mpr ⟨members, rfl, looked⟩
  have agree : ∀ other, members.lookup name = some other →
      step value = step other := by
    intro other again
    cases looked.symm.trans again
    exact congrArg step (Eq.refl value)
  simp only [subscriptInPlace, found, changes, bind, pure, Except.bind,
    Except.pure, alterAt]
  apply congrArg (Except.ok ∘ JsonTree.object)
  exact alterMember_congr agree

end InPlace

section Shape

variable {path suffix other : List String} {change : Members → Members}
  {tree : JsonTree}

/-- A change above which there are objects leaves them objects. -/
theorem objectsAlong_alterAt
    (shape : ObjectsAlong path tree) (suffix : List String)
    (change : Members → Members) :
    ObjectsAlong path (tree.alterAt (path ++ suffix) (onObject change)) := by
  induction path generalizing tree with
  | nil =>
      rcases shape with ⟨members, rfl⟩
      cases suffix with
      | nil => exact ⟨change members, Eq.refl _⟩
      | cons name rest => exact ⟨_, Eq.refl _⟩
  | cons name rest induction =>
      rcases shape with ⟨members, rfl, below⟩
      refine ⟨_, Eq.refl _, ?_⟩
      intro value looked
      rcases Option.map_eq_some_iff.mp
        ((lookup_alterMember_self members).symm.trans looked) with
        ⟨old, oldFound, rfl⟩
      exact induction (below old oldFound)

/-- A change at a path leaves objects along the paths which part from it. -/
theorem objectsAlong_alterAt_of_apart (apart : Apart other path)
    (shape : ObjectsAlong path tree) (change : JsonTree → JsonTree) :
    ObjectsAlong path (tree.alterAt other change) := by
  induction path generalizing other tree with
  | nil => cases other <;> cases apart
  | cons name rest induction =>
      cases other with
      | nil => cases apart
      | cons otherName others =>
          rcases shape with ⟨members, rfl, below⟩
          refine ⟨_, Eq.refl _, ?_⟩
          intro value looked
          by_cases same : name = otherName
          · subst same
            have deeper : Apart others rest :=
              apart.resolve_left fun different => different (Eq.refl _)
            rcases Option.map_eq_some_iff.mp
              ((lookup_alterMember_self members).symm.trans looked) with
              ⟨old, oldFound, rfl⟩
            exact induction deeper (below old oldFound)
          · exact below value
              ((lookup_alterMember_of_ne same members).symm.trans looked)

end Shape

/-! ## The members after a change -/

section Members

variable {name other : String} {members : Members} {value : JsonTree}

theorem mem_memberNames_setMember :
    other ∈ memberNames (setMember name value members) ↔
      other = name ∨ other ∈ memberNames members := by
  simp only [setMember]
  split
  · next present =>
      simp only [memberNames, map_fst_alterMember]
      exact ⟨.inr, fun either => either.elim (· ▸ present) id⟩
  · simp [memberNames, or_comm]

theorem lookup_setMember_self :
    (setMember name value members).lookup name = some value := by
  simp only [setMember]
  split
  · next present =>
      rcases exists_lookup_of_mem present with ⟨old, looked⟩
      simp only [lookup_alterMember_self, looked, Option.map_some]
  · next absent =>
      simp only [List.lookup_append, lookup_eq_none_of_not_mem absent,
        Option.none_or, List.lookup_cons_self]

theorem lookup_setMember_of_ne (different : other ≠ name) :
    (setMember name value members).lookup other = members.lookup other := by
  have unequal : (other == name) = false := by simpa using different
  simp only [setMember]
  split
  · exact lookup_alterMember_of_ne different members
  · simp only [List.lookup_append, List.lookup_cons, unequal,
      List.lookup_nil, Option.or_none]

theorem lookup_setDefaultMember_of_ne (different : other ≠ name) :
    (setDefaultMember name value members).lookup other =
      members.lookup other := by
  have unequal : (other == name) = false := by simpa using different
  simp only [setDefaultMember]
  split
  · exact Eq.refl _
  · simp only [List.lookup_append, List.lookup_cons, unequal,
      List.lookup_nil, Option.or_none]

theorem setDefaultMember_of_mem (present : name ∈ memberNames members) :
    setDefaultMember name value members = members :=
  if_pos present

theorem mem_memberNames_setDefaultMember :
    other ∈ memberNames (setDefaultMember name value members) ↔
      other = name ∨ other ∈ memberNames members := by
  simp only [setDefaultMember]
  split
  · next present =>
      exact ⟨.inr, fun either => either.elim (· ▸ present) id⟩
  · simp [memberNames, or_comm]

theorem lookup_popMember_of_ne (different : other ≠ name) :
    (popMember name members).lookup other = members.lookup other := by
  induction members with
  | nil => exact Eq.refl _
  | cons entry rest induction =>
      rcases entry with ⟨first, found⟩
      by_cases same : first = name
      · subst same
        have unequal : (other == first) = false := by simpa using different
        simpa [popMember, List.lookup_cons, unequal] using induction
      · simp only [popMember, ne_eq, same, not_false_eq_true, decide_true,
          List.filter_cons_of_pos, List.lookup_cons]
        split
        · exact Eq.refl _
        · exact induction

theorem mem_memberNames_popMember :
    other ∈ memberNames (popMember name members) ↔
      other ∈ memberNames members ∧ other ≠ name := by
  simp only [memberNames, popMember, List.mem_map, List.mem_filter,
    decide_eq_true_eq]
  constructor
  · rintro ⟨entry, ⟨member, different⟩, rfl⟩
    exact ⟨⟨entry, member, Eq.refl _⟩, different⟩
  · rintro ⟨⟨entry, member, rfl⟩, different⟩
    exact ⟨entry, ⟨member, different⟩, Eq.refl _⟩

theorem setMember_setMember (name : String) (value : JsonTree)
    (members : Members) :
    setMember name value (setMember name value members) =
      setMember name value members := by
  have present : name ∈ memberNames (setMember name value members) :=
    mem_memberNames_setMember.mpr (.inl (Eq.refl _))
  have kept : alterMember name (fun _ => value)
      (setMember name value members) =
        alterMember name id (setMember name value members) := by
    apply alterMember_congr
    intro found looked
    exact Option.some.inj (lookup_setMember_self.symm.trans looked)
  exact (if_pos present).trans (kept.trans (alterMember_id _))

end Members

theorem onObject_comp_self {change : Members → Members}
    (settled : ∀ members, change (change members) = change members) :
    onObject change ∘ onObject change = onObject change := by
  funext value
  cases value with
  | scalar scalar => exact Eq.refl _
  | array items => exact Eq.refl _
  | object members => exact congrArg JsonTree.object (settled members)

/-! ## Properties of objects which the passes keep -/

/--
A property of objects which survives changes of a member, new members, and
the loss of one, unless a reference is set.
-/
structure Stable (holds : Members → Prop) : Prop where
  empty : holds []
  altered :
    ∀ members name step, (name = "$ref" → KeepsTexts step) →
      holds members → holds (alterMember name step members)
  appended :
    ∀ members name value, name ∉ memberNames members → name ≠ "$ref" →
      holds members → holds (members ++ [(name, value)])
  popped :
    ∀ members name, name ≠ "$ref" → holds members →
      holds (popMember name members)

section Stable

variable {holds : Members → Prop} {members : Members} {name : String}
  {value : JsonTree}

theorem everywhere_scalar (scalar : JsonScalar) :
    Everywhere holds (.scalar scalar) := by
  intro inner inside
  cases inside_scalar_iff.mp inside

theorem everywhere_empty (stable : Stable holds) :
    Everywhere holds (.object []) :=
  everywhere_object_iff.mpr
    ⟨stable.empty, fun _ member => absurd member List.not_mem_nil⟩

theorem Stable.everywhere_append (stable : Stable holds)
    (absent : name ∉ memberNames members) (noReference : name ≠ "$ref")
    (everywhere : Everywhere holds (.object members))
    (added : Everywhere holds value) :
    Everywhere holds (.object (members ++ [(name, value)])) := by
  rcases everywhere_object_iff.mp everywhere with ⟨here, below⟩
  refine everywhere_object_iff.mpr
    ⟨stable.appended members name value absent noReference here, ?_⟩
  intro entry member
  rcases List.mem_append.mp member with old | new
  · exact below entry old
  · exact List.mem_singleton.mp new ▸ added

theorem Stable.everywhere_setDefault (stable : Stable holds)
    (noReference : name ≠ "$ref")
    (everywhere : Everywhere holds (.object members))
    (added : Everywhere holds value) :
    Everywhere holds (.object (setDefaultMember name value members)) := by
  simp only [setDefaultMember]
  split
  · exact everywhere
  · next absent =>
      exact stable.everywhere_append absent noReference everywhere added

theorem Stable.everywhere_set (stable : Stable holds)
    (noReference : name ≠ "$ref")
    (everywhere : Everywhere holds (.object members))
    (added : Everywhere holds value) :
    Everywhere holds (.object (setMember name value members)) := by
  simp only [setMember]
  split
  · rcases everywhere_object_iff.mp everywhere with ⟨here, below⟩
    refine everywhere_object_iff.mpr
      ⟨stable.altered _ _ _ (fun same => absurd same noReference) here, ?_⟩
    intro entry member
    rcases mem_alterMember member with old | ⟨_, -, rfl⟩
    · exact below entry old
    · exact added
  · next absent =>
      exact stable.everywhere_append absent noReference everywhere added

theorem Stable.everywhere_pop (stable : Stable holds)
    (noReference : name ≠ "$ref")
    (everywhere : Everywhere holds (.object members)) :
    Everywhere holds (.object (popMember name members)) := by
  rcases everywhere_object_iff.mp everywhere with ⟨here, below⟩
  exact everywhere_object_iff.mpr
    ⟨stable.popped members name noReference here,
      fun entry member => below entry (List.mem_filter.mp member).1⟩

theorem keepsTexts_onObject (change : Members → Members) :
    KeepsTexts (onObject change) := by
  intro value content same
  cases value with
  | scalar scalar => exact same
  | array items => exact same
  | object members => cases same

/-- A change of the objects at a path. -/
theorem Stable.everywhere_alterAt (stable : Stable holds)
    {path : List String} {tree : JsonTree} {change : Members → Members}
    (everywhere : Everywhere holds tree)
    (changed : ∀ members, Everywhere holds (.object members) →
      Everywhere holds (.object (change members))) :
    Everywhere holds (tree.alterAt path (onObject change)) := by
  apply JsonTree.everywhere_alterAt
    (fun members name step keeps =>
      stable.altered members name step fun _ => keeps)
    (keepsTexts_onObject change) everywhere
  intro value found
  have here : Everywhere holds value := by
    intro inner inside
    exact everywhere inner (inside_of_at? found inside)
  cases value with
  | scalar scalar => exact here
  | array items => exact here
  | object members => exact changed members here

/-- Members stay unrepeated. -/
theorem stable_unique :
    Stable fun inner => (memberNames inner).Nodup where
  empty := List.nodup_nil
  altered members name step _ distinct := by
    simpa only [memberNames, map_fst_alterMember] using distinct
  appended members name value absent _ distinct := by
    have disjoint : ∀ other ∈ memberNames members, other ≠ name := by
      rintro other member rfl
      exact absent member
    simpa [memberNames, List.nodup_append] using
      And.intro distinct disjoint
  popped members name _ distinct :=
    distinct.sublist (List.filter_sublist.map Prod.fst)

/-- References stay among the ones which there were. -/
theorem stable_references (allowed : String → Prop) :
    Stable fun inner =>
      ∀ target,
        inner.lookup "$ref" = some (.text (schemaReferenceStart ++ target)) →
          allowed target where
  empty target found := by cases found
  altered members name step keeps among target found := by
    by_cases same : name = "$ref"
    · subst same
      simp only [lookup_alterMember_self, Option.map_eq_some_iff] at found
      rcases found with ⟨value, present, changed⟩
      cases keeps (Eq.refl _) value _ changed
      exact among target present
    · exact among target
        ((lookup_alterMember_of_ne (Ne.symm same) members).symm.trans found)
  appended members name value _ noReference among target found := by
    have unequal : ("$ref" == name) = false := by
      simpa using Ne.symm noReference
    simp only [List.lookup_append, List.lookup_cons, unequal,
      List.lookup_nil, Option.or_none] at found
    exact among target found
  popped members name noReference among target found :=
    among target
      ((lookup_popMember_of_ne (Ne.symm noReference)).symm.trans found)
end Stable

end FastapiCore
