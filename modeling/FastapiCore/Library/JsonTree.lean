import Mathlib.Data.List.Basic
import FastapiCore.Library.FallibleLoop

/-!
# JSON documents and walks over them

`Inside value tree` says that a value occurs anywhere in a document, at any
depth.  A walk which checks every object it meets returns exactly when the
check passes for every object inside the document.
-/

namespace FastapiCore.Library

/-- The JSON values which hold no others. -/
inductive JsonScalar where
  | null
  | boolean (value : Bool)
  | integer (value : Int)
  | float (value : Rat)
  | text (value : String)
deriving DecidableEq, Repr

/-- A JSON value.  The members of an object keep their order. -/
inductive JsonTree where
  | scalar (value : JsonScalar)
  | array (items : List JsonTree)
  | object (members : List (String × JsonTree))
deriving Repr

namespace JsonTree

/-! ## Occurrence -/

/-- A text as a document of its own. -/
@[match_pattern]
abbrev text (value : String) : JsonTree :=
  .scalar (.text value)

/-- The first value is the second or occurs somewhere in it. -/
inductive Inside (value : JsonTree) : JsonTree → Prop where
  | self : Inside value value
  | item {items : List JsonTree} {child : JsonTree}
      (member : child ∈ items) (inside : Inside value child) :
      Inside value (.array items)
  | member {members : List (String × JsonTree)} {name : String}
      {child : JsonTree} (member : (name, child) ∈ members)
      (inside : Inside value child) : Inside value (.object members)

/-- The first value is inside one of the items of an array. -/
def InsideItems (value : JsonTree) (items : List JsonTree) : Prop :=
  ∃ child ∈ items, Inside value child

/-- The first value is inside the value of one of the members. -/
def InsideMembers (value : JsonTree) (members : List (String × JsonTree)) :
    Prop :=
  ∃ entry ∈ members, Inside value entry.2

variable {inner members : List (String × JsonTree)}

theorem inside_scalar_iff {value : JsonTree} {scalar : JsonScalar} :
    Inside value (.scalar scalar) ↔ value = .scalar scalar := by
  constructor
  · rintro ⟨⟩
    rfl
  · rintro rfl
    exact .self

theorem inside_array_iff {value : JsonTree} {items : List JsonTree} :
    Inside value (.array items) ↔
      value = .array items ∨ InsideItems value items := by
  constructor
  · rintro (_ | ⟨member, inside⟩)
    · exact Or.inl rfl
    · exact Or.inr ⟨_, member, inside⟩
  · rintro (rfl | ⟨child, member, inside⟩)
    · exact .self
    · exact .item member inside

theorem inside_object_iff {value : JsonTree} :
    Inside value (.object members) ↔
      value = .object members ∨ InsideMembers value members := by
  constructor
  · rintro (_ | _ | ⟨member, inside⟩)
    · exact Or.inl rfl
    · exact Or.inr ⟨_, member, inside⟩
  · rintro (rfl | ⟨⟨name, child⟩, member, inside⟩)
    · exact .self
    · exact .member member inside

/-! ## Walks -/

section Walk

variable {ε : Type}

mutual

/-- Check every object of a document, an object before its members. -/
def walkObjects (check : List (String × JsonTree) → Except ε Unit) :
    JsonTree → Except ε Unit
  | .scalar _ => .ok ()
  | .array items => walkItems check items
  | .object members => do
      check members
      walkMembers check members

/-- Check every object of the items of an array. -/
def walkItems (check : List (String × JsonTree) → Except ε Unit) :
    List JsonTree → Except ε Unit
  | [] => .ok ()
  | child :: rest => do
      walkObjects check child
      walkItems check rest

/-- Check every object of the members of an object. -/
def walkMembers (check : List (String × JsonTree) → Except ε Unit) :
    List (String × JsonTree) → Except ε Unit
  | [] => .ok ()
  | (_, child) :: rest => do
      walkObjects check child
      walkMembers check rest

end

variable {check : List (String × JsonTree) → Except ε Unit}

/-- The check passes for every object inside a document. -/
def PassesInside (check : List (String × JsonTree) → Except ε Unit)
    (tree : JsonTree) : Prop :=
  ∀ inner, Inside (.object inner) tree → check inner = .ok ()

mutual

/-- A walk returns exactly when the check passes everywhere. -/
theorem walkObjects_eq_ok_iff (tree : JsonTree) :
    walkObjects check tree = .ok () ↔ PassesInside check tree := by
  cases tree with
  | scalar value => simp [walkObjects, PassesInside, inside_scalar_iff]
  | array items =>
      rw [walkObjects, walkItems_eq_ok_iff items]
      constructor
      · intro passes inner inside
        rcases inside_array_iff.mp inside with same | deeper
        · cases same
        · rcases deeper with ⟨child, member, below⟩
          exact passes child member inner below
      · intro passes child member inner inside
        exact passes inner (.item member inside)
  | object members =>
      rw [walkObjects, check_bind_eq_ok_iff, walkMembers_eq_ok_iff members]
      constructor
      · rintro ⟨here, passes⟩ inner inside
        rcases inside_object_iff.mp inside with same | deeper
        · cases same
          exact here
        · rcases deeper with ⟨entry, member, below⟩
          exact passes entry member inner below
      · intro passes
        refine ⟨passes members .self, ?_⟩
        rintro ⟨name, child⟩ member inner inside
        exact passes inner (.member member inside)

theorem walkItems_eq_ok_iff (items : List JsonTree) :
    walkItems check items = .ok () ↔
      ∀ child ∈ items, PassesInside check child := by
  cases items with
  | nil => simp [walkItems]
  | cons child rest =>
      rw [walkItems, check_bind_eq_ok_iff, walkObjects_eq_ok_iff child,
        walkItems_eq_ok_iff rest, List.forall_mem_cons]

theorem walkMembers_eq_ok_iff (members : List (String × JsonTree)) :
    walkMembers check members = .ok () ↔
      ∀ entry ∈ members, PassesInside check entry.2 := by
  cases members with
  | nil => simp [walkMembers]
  | cons entry rest =>
      rcases entry with ⟨name, child⟩
      rw [walkMembers, check_bind_eq_ok_iff, walkObjects_eq_ok_iff child,
        walkMembers_eq_ok_iff rest, List.forall_mem_cons]

end

end Walk

end JsonTree

end FastapiCore.Library
