import Mathlib.Data.List.Sort
import Mathlib.Data.String.Basic
import FastapiCore.Library.JsonTree

/-!
# Documents whose members come in any order

The members of an object are a partial function from names to values: the
order in which a document lists them says nothing.  `meaning` forgets the
order and `sorted` chooses one.  The main result is that two documents have
one sorted form exactly when they mean the same value.
-/

namespace FastapiCore.Library

universe u v

/-! ## Lists which agree under two functions -/

section Agreement

variable {α : Type u} {β γ : Type v} {first : α → β} {second : α → γ}
variable {left right : List α}

/-- Two functions identify the same elements of two lists. -/
def Identify (first : α → β) (second : α → γ) (left right : List α) : Prop :=
  ∀ element ∈ left, ∀ other ∈ right,
    first element = first other ↔ second element = second other

theorem Identify.map_eq_map_iff (agree : Identify first second left right) :
    left.map first = right.map first ↔
      left.map second = right.map second := by
  induction left generalizing right with
  | nil => simp [eq_comm]
  | cons element left induction =>
      cases right with
      | nil => simp
      | cons other right =>
          rw [List.map_cons, List.map_cons, List.map_cons, List.map_cons,
            List.cons_eq_cons, List.cons_eq_cons,
            agree element (.head _) other (.head _),
            induction fun element member other among =>
              agree element (.tail _ member) other (.tail _ among)]

theorem Identify.mem_map_iff (agree : Identify first second left right) :
    (∀ value, value ∈ left.map first ↔ value ∈ right.map first) ↔
      ∀ value, value ∈ left.map second ↔ value ∈ right.map second := by
  have half {β γ : Type v} {first : α → β} {second : α → γ}
      (agree : Identify first second left right)
      (same : ∀ value, value ∈ left.map first ↔ value ∈ right.map first) :
      ∀ value, value ∈ left.map second ↔ value ∈ right.map second := by
    intro value
    simp only [List.mem_map]
    constructor
    · rintro ⟨element, member, rfl⟩
      rcases List.mem_map.mp ((same _).mp (List.mem_map_of_mem member)) with
        ⟨other, among, equal⟩
      exact ⟨other, among, ((agree element member other among).mp
        equal.symm).symm⟩
    · rintro ⟨other, among, rfl⟩
      rcases List.mem_map.mp ((same _).mpr (List.mem_map_of_mem among)) with
        ⟨element, member, equal⟩
      exact ⟨element, member, (agree element member other among).mp equal⟩
  exact ⟨half agree, half fun element member other among =>
    (agree element member other among).symm⟩

end Agreement

/-! ## Lists of members -/

section Members

variable {ν : Type u} {left right : List (String × ν)}

/-- No name is listed twice. -/
def DistinctNames (members : List (String × ν)) : Prop :=
  (members.map Prod.fst).Nodup

theorem lookup_eq_some_iff {members : List (String × ν)}
    (distinct : DistinctNames members) {name : String} {value : ν} :
    members.lookup name = some value ↔ (name, value) ∈ members := by
  induction members with
  | nil => simp
  | cons entry members induction =>
      rcases entry with ⟨first, found⟩
      rw [DistinctNames, List.map_cons, List.nodup_cons] at distinct
      rw [List.lookup_cons, List.mem_cons]
      by_cases same : name = first
      · subst same
        have absent : (name, value) ∉ members := fun member =>
          distinct.1 (List.mem_map.mpr ⟨_, member, rfl⟩)
        simp [absent, eq_comm]
      · have other : (name == first) = false := by simpa using same
        rw [other, Prod.mk.injEq]
        simp [same, induction distinct.2]

/-- Members in the order of their names. -/
def sortByName (members : List (String × ν)) : List (String × ν) :=
  members.insertionSort fun first second => first.1 ≤ second.1

theorem mem_sortByName {members : List (String × ν)} {entry : String × ν} :
    entry ∈ sortByName members ↔ entry ∈ members :=
  List.mem_insertionSort _

theorem DistinctNames.sortByName {members : List (String × ν)}
    (distinct : DistinctNames members) :
    DistinctNames (sortByName members) :=
  ((List.perm_insertionSort _ members).map _).nodup_iff.mpr distinct

theorem DistinctNames.eq_of_mem {members : List (String × ν)}
    (distinct : DistinctNames members) {name : String} {value other : ν}
    (member : (name, value) ∈ members) (among : (name, other) ∈ members) :
    value = other := by
  have found := (lookup_eq_some_iff distinct).mpr member
  rw [(lookup_eq_some_iff distinct).mpr among] at found
  exact (Option.some.inj found).symm

/-- The sorted members say which members there are, and nothing else. -/
theorem sortByName_eq_iff (distinct : DistinctNames left)
    (distinct' : DistinctNames right) :
    sortByName left = sortByName right ↔
      ∀ entry, entry ∈ left ↔ entry ∈ right := by
  constructor
  · intro same entry
    rw [← mem_sortByName, same, mem_sortByName]
  · intro same
    have perm : (sortByName left).Perm (sortByName right) := by
      apply (List.perm_ext_iff_of_nodup (distinct.sortByName.of_map _)
        (distinct'.sortByName.of_map _)).mpr
      intro entry
      rw [mem_sortByName, same, mem_sortByName]
    refine perm.eq_of_pairwise ?_ (List.pairwise_insertionSort _ _)
      (List.pairwise_insertionSort _ _)
    rintro ⟨name, value⟩ ⟨other, found⟩ inLeft inRight below above
    cases le_antisymm below above
    have among := (same _).mpr (mem_sortByName.mp inRight)
    rw [distinct.eq_of_mem (mem_sortByName.mp inLeft) among]

/-- Lookups say which members there are, and nothing else. -/
theorem lookup_eq_iff (distinct : DistinctNames left)
    (distinct' : DistinctNames right) :
    (fun name => left.lookup name) = (fun name => right.lookup name) ↔
      ∀ entry, entry ∈ left ↔ entry ∈ right := by
  constructor
  · rintro same ⟨name, value⟩
    rw [← lookup_eq_some_iff distinct, ← lookup_eq_some_iff distinct']
    exact iff_of_eq (congrArg (· = some value) (congrFun same name))
  · intro same
    ext name value
    rw [lookup_eq_some_iff distinct, lookup_eq_some_iff distinct', same]

end Members

/-! ## The value of a document -/

/-- A JSON value; an object is a partial function of its names. -/
inductive JsonData where
  | scalar (value : JsonScalar)
  | array (items : List JsonData)
  | object (members : String → Option JsonData)

namespace JsonTree

mutual

/-- The value which a document lists. -/
def meaning : JsonTree → JsonData
  | .scalar value => .scalar value
  | .array items => .array (itemMeanings items)
  | .object members =>
      .object fun name => (memberMeanings members).lookup name

/-- The values of the items of an array. -/
def itemMeanings : List JsonTree → List JsonData
  | [] => []
  | child :: rest => meaning child :: itemMeanings rest

/-- The values of the members of an object. -/
def memberMeanings : List (String × JsonTree) → List (String × JsonData)
  | [] => []
  | (name, child) :: rest => (name, meaning child) :: memberMeanings rest

end

mutual

/-- A document with the members of every object in the order of names. -/
def sorted : JsonTree → JsonTree
  | .scalar value => .scalar value
  | .array items => .array (sortedItems items)
  | .object members => .object (sortByName (sortedMembers members))

/-- The items of an array, each of them sorted. -/
def sortedItems : List JsonTree → List JsonTree
  | [] => []
  | child :: rest => sorted child :: sortedItems rest

/-- The members of an object, each of them sorted. -/
def sortedMembers : List (String × JsonTree) → List (String × JsonTree)
  | [] => []
  | (name, child) :: rest => (name, sorted child) :: sortedMembers rest

end

theorem itemMeanings_eq_map (items : List JsonTree) :
    itemMeanings items = items.map meaning := by
  induction items with
  | nil => rfl
  | cons child rest induction => rw [itemMeanings, induction, List.map_cons]

theorem memberMeanings_eq_map (members : List (String × JsonTree)) :
    memberMeanings members = members.map (Prod.map id meaning) := by
  induction members with
  | nil => rfl
  | cons entry rest induction =>
      rw [memberMeanings, induction, List.map_cons]
      rfl

theorem sortedItems_eq_map (items : List JsonTree) :
    sortedItems items = items.map sorted := by
  induction items with
  | nil => rfl
  | cons child rest induction => rw [sortedItems, induction, List.map_cons]

theorem sortedMembers_eq_map (members : List (String × JsonTree)) :
    sortedMembers members = members.map (Prod.map id sorted) := by
  induction members with
  | nil => rfl
  | cons entry rest induction =>
      rw [sortedMembers, induction, List.map_cons]
      rfl

/-- No object of a document lists a name twice. -/
def WellNamed (tree : JsonTree) : Prop :=
  ∀ members, Inside (.object members) tree → DistinctNames members

theorem WellNamed.item {items : List JsonTree} {child : JsonTree}
    (named : WellNamed (.array items)) (member : child ∈ items) :
    WellNamed child :=
  fun members inside => named members (.item member inside)

theorem WellNamed.member {members : List (String × JsonTree)}
    {entry : String × JsonTree} (named : WellNamed (.object members))
    (member : entry ∈ members) : WellNamed entry.2 :=
  fun inner inside => named inner (.member member inside)

theorem distinctNames_map {ν : Type} {change : JsonTree → ν}
    {members : List (String × JsonTree)} :
    DistinctNames (members.map (Prod.map id change)) ↔
      DistinctNames members := by
  rw [DistinctNames, DistinctNames, List.map_map]
  rfl

/-- Sorting and meaning identify the members with one name alike. -/
theorem identify_members {left right : List (String × JsonTree)}
    (agree : ∀ entry ∈ left, ∀ other ∈ right,
      sorted entry.2 = sorted other.2 ↔
        meaning entry.2 = meaning other.2) :
    Identify (Prod.map id sorted) (Prod.map id meaning) left right := by
  rintro ⟨name, child⟩ member ⟨other, found⟩ among
  simp only [Prod.map_apply, id_eq, Prod.mk.injEq]
  exact and_congr_right fun _ => agree _ member _ among

mutual

/-- Two documents have one sorted form exactly if they mean one value. -/
theorem sorted_eq_sorted_iff (left right : JsonTree)
    (named : WellNamed left) (named' : WellNamed right) :
    sorted left = sorted right ↔ meaning left = meaning right := by
  cases left with
  | scalar value =>
      cases right with
      | scalar other => simp [sorted, meaning]
      | array items => simp [sorted, meaning]
      | object members => simp [sorted, meaning]
  | array items =>
      cases right with
      | scalar other => simp [sorted, meaning]
      | array others =>
          rw [sorted, sorted, meaning, meaning, sortedItems_eq_map,
            sortedItems_eq_map, itemMeanings_eq_map, itemMeanings_eq_map,
            JsonTree.array.injEq, JsonData.array.injEq]
          exact Identify.map_eq_map_iff fun child member other among =>
            identify_items items (fun child member => named.item member)
              child member other (named'.item among)
      | object members => simp [sorted, meaning]
  | object members =>
      cases right with
      | scalar other => simp [sorted, meaning]
      | array items => simp [sorted, meaning]
      | object others =>
          have distinct := named members .self
          have distinct' := named' others .self
          rw [sorted, sorted, meaning, meaning, JsonTree.object.injEq,
            JsonData.object.injEq, sortedMembers_eq_map,
            sortedMembers_eq_map, memberMeanings_eq_map,
            memberMeanings_eq_map,
            sortByName_eq_iff (distinctNames_map.mpr distinct)
              (distinctNames_map.mpr distinct'),
            lookup_eq_iff (distinctNames_map.mpr distinct)
              (distinctNames_map.mpr distinct')]
          refine (identify_members ?_).mem_map_iff
          exact fun entry member other among =>
            identify_entries members (fun entry member => named.member member)
              entry member other.2 (named'.member among)

theorem identify_items (items : List JsonTree)
    (named : ∀ child ∈ items, WellNamed child) :
    ∀ child ∈ items, ∀ other, WellNamed other →
      (sorted child = sorted other ↔ meaning child = meaning other) := by
  cases items with
  | nil => exact List.forall_mem_nil _
  | cons child rest =>
      exact List.forall_mem_cons.mpr
        ⟨fun other named' =>
          sorted_eq_sorted_iff child other (named _ (.head _)) named',
          identify_items rest fun other member => named _ (.tail _ member)⟩

theorem identify_entries (members : List (String × JsonTree))
    (named : ∀ entry ∈ members, WellNamed entry.2) :
    ∀ entry ∈ members, ∀ other, WellNamed other →
      (sorted entry.2 = sorted other ↔ meaning entry.2 = meaning other) := by
  cases members with
  | nil => exact List.forall_mem_nil _
  | cons entry rest =>
      rcases entry with ⟨name, child⟩
      exact List.forall_mem_cons.mpr
        ⟨fun other named' =>
          sorted_eq_sorted_iff child other (named _ (.head _)) named',
          identify_entries rest fun other member => named _ (.tail _ member)⟩

end

mutual

/-- Sorting a document brings no scalar into it. -/
theorem inside_of_inside_sorted {scalar : JsonScalar} (tree : JsonTree)
    (inside : Inside (.scalar scalar) (sorted tree)) :
    Inside (.scalar scalar) tree := by
  cases tree with
  | scalar value => exact inside
  | array items =>
      rw [sorted, sortedItems_eq_map] at inside
      rcases inside_array_iff.mp inside with ⟨⟨⟩⟩ | ⟨child, member, inside⟩
      rcases List.mem_map.mp member with ⟨original, among, rfl⟩
      exact .item among (inside_of_inside_sortedItems items original among
        inside)
  | object members =>
      rw [sorted, sortedMembers_eq_map] at inside
      rcases inside_object_iff.mp inside with ⟨⟨⟩⟩ | ⟨entry, member, inside⟩
      rcases List.mem_map.mp (mem_sortByName.mp member) with
        ⟨original, among, rfl⟩
      exact .member among (inside_of_inside_sortedMembers members original
        among inside)

theorem inside_of_inside_sortedItems {scalar : JsonScalar}
    (items : List JsonTree) :
    ∀ child ∈ items, Inside (.scalar scalar) (sorted child) →
      Inside (.scalar scalar) child := by
  cases items with
  | nil => exact List.forall_mem_nil _
  | cons child rest =>
      exact List.forall_mem_cons.mpr
        ⟨inside_of_inside_sorted child, inside_of_inside_sortedItems rest⟩

theorem inside_of_inside_sortedMembers {scalar : JsonScalar}
    (members : List (String × JsonTree)) :
    ∀ entry ∈ members, Inside (.scalar scalar) (sorted entry.2) →
      Inside (.scalar scalar) entry.2 := by
  cases members with
  | nil => exact List.forall_mem_nil _
  | cons entry rest =>
      rcases entry with ⟨name, child⟩
      exact List.forall_mem_cons.mpr
        ⟨inside_of_inside_sorted child, inside_of_inside_sortedMembers rest⟩

end

end JsonTree

end FastapiCore.Library
