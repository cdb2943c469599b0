import FastapiCore.Library.OrderedDict
import Mathlib.Data.List.Induction
import Mathlib.Data.List.Perm.Subperm
import Mathlib.Data.List.Sort

/-!
# Comparing values by their meaning

The operator `==` of a dynamic language is a test on values; two values which
it identifies have the same meaning, but need not be the same.  A test which
compares meanings lifts to dictionaries and to the sorted items of a
dictionary, and a loop which collects the values not equal to an earlier one
finds a second value exactly if two values differ in their meaning.
-/

namespace FastapiCore.Library

universe u v w

/-- The test holds for two values exactly if they have the same meaning. -/
def Compares {α : Type u} {μ : Type v} (same : α → α → Bool)
    (meaning : α → μ) : Prop :=
  ∀ left right, same left right = true ↔ meaning left = meaning right

namespace OrderedDict

variable {κ : Type u} [DecidableEq κ] {ν : Type v} {μ : Type w}
variable {same : ν → ν → Bool} {meaning : ν → μ}
variable {left right : OrderedDict κ ν}

/-- The meaning of a dictionary, without the order of its keys. -/
def meaningOf (meaning : ν → μ) (dict : OrderedDict κ ν) (key : κ) :
    Option μ :=
  (dict.get? key).map meaning

theorem meaningOf_eq_some_iff {dict : OrderedDict κ ν} {key : κ}
    {value : μ} :
    dict.meaningOf meaning key = some value ↔
      (key, value) ∈ dict.entries.map (Prod.map id meaning) := by
  rw [meaningOf, Option.map_eq_some_iff, List.mem_map]
  constructor
  · rintro ⟨found, stored, rfl⟩
    exact ⟨(key, found), get?_eq_some_iff.mp stored, rfl⟩
  · rintro ⟨⟨other, found⟩, stored, equal⟩
    cases equal
    exact ⟨found, get?_eq_some_iff.mpr stored, rfl⟩

theorem mem_keys_iff_meaningOf {dict : OrderedDict κ ν} {key : κ} :
    key ∈ dict.keys ↔ (dict.meaningOf meaning key).isSome = true := by
  rw [meaningOf, Option.isSome_map, get?_isSome_iff]

theorem meaningOf_update (dict other : OrderedDict κ ν) (key : κ) :
    (dict.update other).meaningOf meaning key =
      (other.meaningOf meaning key).or (dict.meaningOf meaning key) := by
  rw [meaningOf, get?_update, Option.map_or]
  rfl

/-- A dictionary without meaning has no entries. -/
theorem entries_eq_nil_iff_meaningOf {dict : OrderedDict κ ν} :
    dict.entries = [] ↔ ∀ key, dict.meaningOf meaning key = none := by
  constructor
  · intro entries key
    rw [meaningOf, get?_eq_none_iff.mpr, Option.map_none]
    rw [OrderedDict.keys, entries]
    exact List.not_mem_nil
  · intro none_
    apply List.eq_nil_iff_forall_not_mem.mpr
    rintro ⟨key, value⟩ member
    have found := get?_eq_some_iff.mpr member
    have absent := none_ key
    rw [meaningOf, found] at absent
    cases absent

/-- Two dictionaries are equal exactly if their lookups are. -/
theorem compares_isEqual (compares : Compares same meaning) :
    Compares (fun left right : OrderedDict κ ν => left.isEqual same right)
      (meaningOf meaning) := by
  intro left right
  dsimp only
  rw [isEqual, Bool.and_eq_true, decide_eq_true_iff, List.all_eq_true]
  constructor
  · rintro ⟨lengths, entries⟩
    have found :
        ∀ key value, left.get? key = some value →
          right.meaningOf meaning key = some (meaning value) := by
      intro key value stored
      rcases Option.any_eq_true _ _ |>.mp
          (entries (key, value) (get?_eq_some_iff.mp stored)) with
        ⟨other, otherStored, equal⟩
      rw [meaningOf, otherStored, Option.map_some,
        (compares value other).mp equal]
    have subset : left.keys ⊆ right.keys := by
      intro key member
      rcases exists_mem_entries_of_mem_keys member with ⟨value, stored⟩
      rw [@mem_keys_iff_meaningOf _ _ _ _ meaning,
        found key value (get?_eq_some_iff.mpr stored),
        Option.isSome_some]
    have keys : left.keys.Perm right.keys := by
      apply (left.nodup_keys.subperm subset).perm_of_length_le
      rw [OrderedDict.keys, OrderedDict.keys, List.length_map,
        List.length_map, lengths]
    ext key : 1
    cases stored : left.get? key with
    | some value =>
        rw [found key value stored, meaningOf, stored, Option.map_some]
    | none =>
        have absent : key ∉ right.keys := by
          rw [← keys.mem_iff]
          exact get?_eq_none_iff.mp stored
        rw [meaningOf, meaningOf, stored, get?_eq_none_iff.mpr absent]
  · intro lookups
    have keys : left.keys.Perm right.keys := by
      apply (List.perm_ext_iff_of_nodup left.nodup_keys
        right.nodup_keys).mpr
      intro key
      rw [@mem_keys_iff_meaningOf _ _ _ _ meaning, lookups,
        ← mem_keys_iff_meaningOf]
    refine ⟨?_, ?_⟩
    · simpa [OrderedDict.keys] using keys.length_eq
    · rintro ⟨key, value⟩ member
      have stored : left.meaningOf meaning key = some (meaning value) := by
        rw [meaningOf, get?_eq_some_iff.mpr member]
        rfl
      rw [lookups, meaningOf] at stored
      rcases Option.map_eq_some_iff.mp stored with ⟨other, found, equal⟩
      dsimp only
      rw [found]
      exact (compares value other).mpr equal.symm

/-! ## Sorted items -/

/-- `tuple(sorted(dict.items(), key=lambda item: item[0]))`. -/
def sortedItems (dict : OrderedDict Nat ν) : List (Nat × ν) :=
  dict.entries.insertionSort fun first second => first.1 ≤ second.1

theorem sortedItems_perm (dict : OrderedDict Nat ν) :
    dict.sortedItems.Perm dict.entries :=
  List.perm_insertionSort _ _

theorem sortedItems_eq_nil_iff {dict : OrderedDict Nat ν} :
    dict.sortedItems = [] ↔ dict.entries = [] := by
  have perm := dict.sortedItems_perm
  constructor
  · intro none_
    rw [none_] at perm
    exact perm.nil_eq.symm
  · intro none_
    rw [none_] at perm
    exact perm.eq_nil

/-- The sorted items say the same as the lookups of a dictionary. -/
theorem map_sortedItems_eq_iff {left right : OrderedDict Nat ν} :
    left.sortedItems.map (Prod.map id meaning) =
        right.sortedItems.map (Prod.map id meaning) ↔
      left.meaningOf meaning = right.meaningOf meaning := by
  have members (dict : OrderedDict Nat ν) (key : Nat) (value : μ) :
      (key, value) ∈ dict.sortedItems.map (Prod.map id meaning) ↔
        dict.meaningOf meaning key = some value := by
    rw [meaningOf_eq_some_iff]
    exact (dict.sortedItems_perm.map _).mem_iff
  constructor
  · intro items
    ext key value
    rw [← members, ← members, items]
  · intro lookups
    have nodup (dict : OrderedDict Nat ν) :
        (dict.sortedItems.map (Prod.map id meaning)).Nodup := by
      apply List.Nodup.of_map Prod.fst
      rw [List.map_map]
      exact (dict.sortedItems_perm.map Prod.fst).nodup_iff.mpr dict.nodup
    have sorted (dict : OrderedDict Nat ν) :
        (dict.sortedItems.map (Prod.map id meaning)).Pairwise
          fun first second => first.1 ≤ second.1 := by
      rw [List.pairwise_map]
      exact List.pairwise_insertionSort _ _
    have perm :
        (left.sortedItems.map (Prod.map id meaning)).Perm
          (right.sortedItems.map (Prod.map id meaning)) := by
      apply (List.perm_ext_iff_of_nodup (nodup left) (nodup right)).mpr
      rintro ⟨key, value⟩
      rw [members, members, lookups]
    refine perm.eq_of_pairwise ?_ (sorted left) (sorted right)
    rintro ⟨key, value⟩ ⟨other, found⟩ inLeft inRight below above
    cases Nat.le_antisymm below above
    have stored := (members left key value).mp inLeft
    rw [lookups, (members right key found).mp inRight] at stored
    cases stored
    rfl

end OrderedDict

/-! ## Collecting distinct values -/

section Collect

variable {α : Type u} {μ : Type v}

/-- Append a value unless it is equal to an earlier one. -/
def addDistinct (same : α → α → Bool) (found : List α) (value : α) :
    List α :=
  if found.any (same value) then found else found ++ [value]

/-- The values which are not equal to an earlier one. -/
def collectDistinct (same : α → α → Bool) (values : List α) : List α :=
  values.foldl (addDistinct same) []

/-- What the loop has found: values which differ, one for each value. -/
structure Collected (meaning : α → μ) (seen found : List α) : Prop where
  subset : ∀ value ∈ found, value ∈ seen
  covers : ∀ value ∈ seen, ∃ other ∈ found, meaning value = meaning other
  differ :
    found.Pairwise fun first second => meaning first ≠ meaning second

variable {same : α → α → Bool} {meaning : α → μ}

theorem Collected.add (compares : Compares same meaning)
    {seen found : List α} (collected : Collected meaning seen found)
    (value : α) :
    Collected meaning (seen ++ [value]) (addDistinct same found value) := by
  rcases collected with ⟨subset, covers, differ⟩
  rw [addDistinct]
  split
  · next known =>
      rcases List.any_eq_true.mp known with ⟨other, member, equal⟩
      refine ⟨?_, ?_, differ⟩
      · exact fun old isFound => List.mem_append_left _ (subset old isFound)
      · refine List.forall_mem_append.mpr ⟨covers, ?_⟩
        exact
          List.forall_mem_singleton.mpr
            ⟨other, member, (compares value other).mp equal⟩
  · next new =>
      refine ⟨?_, ?_, ?_⟩
      · refine List.forall_mem_append.mpr ⟨?_, ?_⟩
        · exact fun old isFound =>
            List.mem_append_left _ (subset old isFound)
        · exact List.forall_mem_singleton.mpr (by simp)
      · refine List.forall_mem_append.mpr ⟨?_, ?_⟩
        · intro old isSeen
          rcases covers old isSeen with ⟨other, member, equal⟩
          exact ⟨other, List.mem_append_left _ member, equal⟩
        · exact List.forall_mem_singleton.mpr ⟨value, by simp, rfl⟩
      · refine List.pairwise_append.mpr
          ⟨differ, List.pairwise_singleton _ _, ?_⟩
        intro old isFound last isLast equal
        cases List.mem_singleton.mp isLast
        apply new
        exact
          List.any_eq_true.mpr
            ⟨old, isFound, (compares value old).mpr equal.symm⟩

theorem collected_collectDistinct (compares : Compares same meaning)
    (values : List α) :
    Collected meaning values (collectDistinct same values) := by
  induction values using List.reverseRecOn with
  | nil => exact ⟨by simp [collectDistinct], by simp, .nil⟩
  | append_singleton values value induction =>
      rw [collectDistinct, List.foldl_append]
      exact induction.add compares value

/-- A second value is found exactly if two values differ. -/
theorem one_lt_length_collectDistinct_iff (compares : Compares same meaning)
    {values : List α} :
    1 < (collectDistinct same values).length ↔
      ∃ left ∈ values, ∃ right ∈ values, meaning left ≠ meaning right := by
  rcases collected_collectDistinct compares values with
    ⟨subset, covers, differ⟩
  generalize collectDistinct same values = found at subset covers differ
  constructor
  · intro two
    match found, two with
    | first :: second :: rest, _ =>
        exact
          ⟨first, subset first (by simp), second, subset second (by simp),
            (List.pairwise_cons.mp differ).1 second (by simp)⟩
  · rintro ⟨left, leftMember, right, rightMember, different⟩
    rcases covers left leftMember with ⟨first, isFirst, sameLeft⟩
    rcases covers right rightMember with ⟨second, isSecond, sameRight⟩
    by_contra few
    match found, few with
    | [], _ => cases isFirst
    | [only], _ =>
        cases List.mem_singleton.mp isFirst
        cases List.mem_singleton.mp isSecond
        exact different (sameLeft.trans sameRight.symm)
    | _ :: _ :: rest, few => exact few (by simp)

end Collect

end FastapiCore.Library
