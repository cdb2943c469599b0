import Mathlib.Data.List.Nodup
import Mathlib.Data.List.Basic

/-!
# Insertion-ordered dictionaries

A Python `dict` is a finite map which remembers the order in which its keys
were first assigned.  Assigning an existing key replaces the value in place,
assigning a new key appends it, and deleting a key keeps the order of the
others.

`OrderedDict κ ν` carries the uniqueness of its keys as a field, so every
lookup has at most one answer and no later proof has to re-establish it.
-/

namespace FastapiCore.Library

universe u v

/-- A finite map in order of first assignment. -/
structure OrderedDict (κ : Type u) (ν : Type v) where
  entries : List (κ × ν)
  nodup : (entries.map Prod.fst).Nodup
deriving DecidableEq, Repr

namespace OrderedDict

variable {κ : Type u} {ν : Type v}

@[ext]
theorem ext
    {left right : OrderedDict κ ν}
    (equal : left.entries = right.entries) :
    left = right := by
  cases left
  cases right
  cases equal
  rfl

/-- The dictionary without entries. -/
def empty : OrderedDict κ ν :=
  ⟨[], List.nodup_nil⟩

/-- The keys in order of first assignment. -/
def keys (dict : OrderedDict κ ν) : List κ :=
  dict.entries.map Prod.fst

/-- The values in the order of their keys. -/
def values (dict : OrderedDict κ ν) : List ν :=
  dict.entries.map Prod.snd

@[simp]
theorem entries_empty : (empty : OrderedDict κ ν).entries = [] :=
  rfl

theorem nodup_keys (dict : OrderedDict κ ν) : dict.keys.Nodup :=
  dict.nodup

theorem mem_keys_of_mem_entries
    {dict : OrderedDict κ ν} {key : κ} {value : ν}
    (member : (key, value) ∈ dict.entries) :
    key ∈ dict.keys :=
  List.mem_map_of_mem (f := Prod.fst) member

theorem exists_mem_entries_of_mem_keys
    {dict : OrderedDict κ ν} {key : κ}
    (member : key ∈ dict.keys) :
    ∃ value, (key, value) ∈ dict.entries := by
  rcases List.mem_map.mp member with ⟨⟨found, value⟩, entryMember, rfl⟩
  exact ⟨value, entryMember⟩

/-- Two entries under one key hold the same value. -/
theorem value_unique
    (dict : OrderedDict κ ν) {key : κ} {first second : ν}
    (firstMember : (key, first) ∈ dict.entries)
    (secondMember : (key, second) ∈ dict.entries) :
    first = second := by
  have equal :=
    List.inj_on_of_nodup_map dict.nodup firstMember secondMember rfl
  exact (Prod.mk.inj equal).2

variable [DecidableEq κ]

/-! ## Lookup -/

/-- The value of a key, as `dict.get(key)`. -/
def get? (dict : OrderedDict κ ν) (key : κ) : Option ν :=
  (dict.entries.find? fun entry => entry.1 = key).map Prod.snd

@[simp]
theorem get?_empty (key : κ) :
    (empty : OrderedDict κ ν).get? key = none :=
  rfl

theorem get?_eq_some_iff
    {dict : OrderedDict κ ν} {key : κ} {value : ν} :
    dict.get? key = some value ↔ (key, value) ∈ dict.entries := by
  constructor
  · intro found
    rcases Option.map_eq_some_iff.mp found with
      ⟨⟨foundKey, foundValue⟩, search, rfl⟩
    have sameKey : foundKey = key := by
      simpa using List.find?_some search
    subst sameKey
    exact List.mem_of_find?_eq_some search
  · intro member
    cases search : dict.entries.find? (fun entry => entry.1 = key) with
    | none =>
        have absent := List.find?_eq_none.mp search _ member
        simp at absent
    | some entry =>
        have sameKey : entry.1 = key := by
          simpa using List.find?_some search
        have entryMember : (key, entry.2) ∈ dict.entries := by
          rw [← sameKey]
          exact List.mem_of_find?_eq_some search
        rw [get?, search]
        exact
          congrArg some
            (dict.value_unique entryMember member)

theorem get?_eq_none_iff
    {dict : OrderedDict κ ν} {key : κ} :
    dict.get? key = none ↔ key ∉ dict.keys := by
  constructor
  · intro missing member
    rcases exists_mem_entries_of_mem_keys member with ⟨value, entryMember⟩
    rw [get?_eq_some_iff.mpr entryMember] at missing
    cases missing
  · intro absent
    cases found : dict.get? key with
    | none => rfl
    | some value =>
        exact
          (absent
            (mem_keys_of_mem_entries (get?_eq_some_iff.mp found))).elim

theorem get?_isSome_iff
    {dict : OrderedDict κ ν} {key : κ} :
    (dict.get? key).isSome ↔ key ∈ dict.keys := by
  rw [← not_iff_not, Bool.not_eq_true, Option.isSome_eq_false_iff,
    Option.isNone_iff_eq_none]
  exact get?_eq_none_iff

/-- Lookup is determined by the entries without regard to their order. -/
theorem get?_eq_of_mem_iff
    {left right : OrderedDict κ ν} {key : κ}
    (agree :
      ∀ value, (key, value) ∈ left.entries ↔ (key, value) ∈ right.entries) :
    left.get? key = right.get? key := by
  ext value : 1
  rw [get?_eq_some_iff, get?_eq_some_iff]
  exact agree value

/-! ## Assignment -/

/-- Assign a value to a key, as `dict[key] = value`. -/
def insert (dict : OrderedDict κ ν) (key : κ) (value : ν) :
    OrderedDict κ ν :=
  if member : key ∈ dict.keys then
    { entries :=
        dict.entries.map fun entry =>
          if entry.1 = key then (key, value) else entry
      nodup := by
        have sameKeys :
            (dict.entries.map fun entry =>
                if entry.1 = key then (key, value) else entry).map Prod.fst =
              dict.entries.map Prod.fst := by
          rw [List.map_map]
          apply List.map_congr_left
          intro entry _
          by_cases sameKey : entry.1 = key <;> simp [sameKey]
        rw [sameKeys]
        exact dict.nodup }
  else
    { entries := dict.entries ++ [(key, value)]
      nodup := by
        rw [List.map_append]
        exact
          List.nodup_append.mpr
            ⟨dict.nodup, by simp, by
              rintro found foundMember other otherMember rfl
              have sameKey : found = key := by simpa using otherMember
              exact member (sameKey ▸ foundMember)⟩ }

theorem entries_insert_of_not_mem
    {dict : OrderedDict κ ν} {key : κ}
    (absent : key ∉ dict.keys) (value : ν) :
    (dict.insert key value).entries = dict.entries ++ [(key, value)] := by
  simp [insert, absent]

theorem keys_insert_of_not_mem
    {dict : OrderedDict κ ν} {key : κ}
    (absent : key ∉ dict.keys) (value : ν) :
    (dict.insert key value).keys = dict.keys ++ [key] := by
  simp [keys, entries_insert_of_not_mem absent]

theorem entries_insert_of_mem
    {dict : OrderedDict κ ν} {key : κ}
    (member : key ∈ dict.keys) (value : ν) :
    (dict.insert key value).entries =
      dict.entries.map fun entry =>
        if entry.1 = key then (key, value) else entry := by
  rw [insert, dif_pos member]

theorem keys_insert_of_mem
    {dict : OrderedDict κ ν} {key : κ}
    (member : key ∈ dict.keys) (value : ν) :
    (dict.insert key value).keys = dict.keys := by
  rw [keys, entries_insert_of_mem member, List.map_map]
  apply List.map_congr_left
  intro entry _
  by_cases sameKey : entry.1 = key <;> simp [sameKey]

/-- The entries after an assignment: the new pair, and the others. -/
theorem mem_entries_insert
    {dict : OrderedDict κ ν} {key other : κ} {value found : ν} :
    (other, found) ∈ (dict.insert key value).entries ↔
      (other = key ∧ found = value) ∨
        (other ≠ key ∧ (other, found) ∈ dict.entries) := by
  by_cases member : key ∈ dict.keys
  · rw [entries_insert_of_mem member, List.mem_map]
    constructor
    · rintro ⟨entry, entryMember, equal⟩
      by_cases sameKey : entry.1 = key
      · rw [if_pos sameKey] at equal
        cases equal
        exact Or.inl ⟨rfl, rfl⟩
      · rw [if_neg sameKey] at equal
        subst equal
        exact Or.inr ⟨sameKey, entryMember⟩
    · rintro (⟨rfl, rfl⟩ | ⟨different, entryMember⟩)
      · rcases exists_mem_entries_of_mem_keys member with ⟨old, oldMember⟩
        exact ⟨_, oldMember, by simp⟩
      · exact ⟨_, entryMember, by simp [different]⟩
  · rw [entries_insert_of_not_mem member, List.mem_append,
      List.mem_singleton]
    constructor
    · rintro (entryMember | equal)
      · exact
          Or.inr
            ⟨fun sameKey =>
                member (sameKey ▸ mem_keys_of_mem_entries entryMember),
              entryMember⟩
      · exact Or.inl (Prod.mk.inj equal)
    · rintro (⟨rfl, rfl⟩ | ⟨_, entryMember⟩)
      · exact Or.inr rfl
      · exact Or.inl entryMember

@[simp]
theorem get?_insert_self
    (dict : OrderedDict κ ν) (key : κ) (value : ν) :
    (dict.insert key value).get? key = some value :=
  get?_eq_some_iff.mpr (mem_entries_insert.mpr (Or.inl ⟨rfl, rfl⟩))

theorem get?_insert_of_ne
    {dict : OrderedDict κ ν} {key other : κ}
    (different : other ≠ key) (value : ν) :
    (dict.insert key value).get? other = dict.get? other := by
  apply get?_eq_of_mem_iff
  intro found
  rw [mem_entries_insert]
  simp [different]

theorem mem_keys_insert
    {dict : OrderedDict κ ν} {key other : κ} {value : ν} :
    other ∈ (dict.insert key value).keys ↔
      other = key ∨ other ∈ dict.keys := by
  by_cases member : key ∈ dict.keys
  · rw [keys_insert_of_mem member]
    constructor
    · exact Or.inr
    · rintro (rfl | present)
      · exact member
      · exact present
  · rw [keys_insert_of_not_mem member, List.mem_append,
      List.mem_singleton, or_comm]

/-- Assign a value to a new key, as `dict.setdefault(key, value)`. -/
def setDefault (dict : OrderedDict κ ν) (key : κ) (value : ν) :
    OrderedDict κ ν :=
  if key ∈ dict.keys then dict else dict.insert key value

theorem mem_keys_setDefault
    {dict : OrderedDict κ ν} {key other : κ} {value : ν} :
    other ∈ (dict.setDefault key value).keys ↔
      other = key ∨ other ∈ dict.keys := by
  rw [setDefault]
  split
  · next member =>
      constructor
      · exact Or.inr
      · rintro (rfl | present)
        · exact member
        · exact present
  · exact mem_keys_insert

/-- The key of a default has the default only if it has nothing else. -/
theorem get?_setDefault_self
    (dict : OrderedDict κ ν) (key : κ) (value : ν) :
    (dict.setDefault key value).get? key =
      some ((dict.get? key).getD value) := by
  rw [setDefault]
  split
  · next member =>
      rcases exists_mem_entries_of_mem_keys member with ⟨found, present⟩
      rw [get?_eq_some_iff.mpr present]
      rfl
  · next absent =>
      rw [get?_insert_self, get?_eq_none_iff.mpr absent]
      rfl

/-- A present key keeps its value. -/
theorem setDefault_of_mem
    {dict : OrderedDict κ ν} {key : κ} (member : key ∈ dict.keys)
    (value : ν) : dict.setDefault key value = dict :=
  if_pos member

/-! ## Assigning a list of pairs -/

/-- The last value which a list of pairs gives to a key. -/
def lastValue (pairs : List (κ × ν)) (key : κ) : Option ν :=
  match pairs with
  | [] => none
  | pair :: rest =>
      (lastValue rest key).or (if pair.1 = key then some pair.2 else none)

theorem lastValue_eq_none_iff {pairs : List (κ × ν)} {key : κ} :
    lastValue pairs key = none ↔ key ∉ pairs.map Prod.fst := by
  induction pairs with
  | nil => simp [lastValue]
  | cons pair rest induction =>
      rw [lastValue, Option.or_eq_none_iff, induction, List.map_cons,
        List.mem_cons, not_or, and_comm]
      by_cases same : pair.1 = key
      · simp [same]
      · simp [same, Ne.symm same]

/-- A pair whose key does not occur again gives the last value. -/
theorem lastValue_of_suffix
    {pairs after : List (κ × ν)} {key : κ} {value : ν}
    (suffix : (key, value) :: after <:+ pairs)
    (last : key ∉ after.map Prod.fst) :
    lastValue pairs key = some value := by
  rcases suffix with ⟨before, rfl⟩
  induction before with
  | nil =>
      rw [List.nil_append, lastValue, lastValue_eq_none_iff.mpr last]
      simp
  | cons pair rest induction =>
      rw [List.cons_append, lastValue, induction]
      rfl

theorem get?_foldl_insert (pairs : List (κ × ν))
    (dict : OrderedDict κ ν) (key : κ) :
    (pairs.foldl (fun current pair => current.insert pair.1 pair.2)
        dict).get? key =
      (lastValue pairs key).or (dict.get? key) := by
  induction pairs generalizing dict with
  | nil => rfl
  | cons pair rest induction =>
      rw [List.foldl_cons, induction, lastValue, Option.or_assoc]
      by_cases same : pair.1 = key
      · subst same
        simp
      · rw [get?_insert_of_ne (Ne.symm same)]
        simp [same]

/-- A pair of a list without a repeated key gives the last value. -/
theorem lastValue_of_mem {pairs : List (κ × ν)} {key : κ} {value : ν}
    (nodup : (pairs.map Prod.fst).Nodup) (member : (key, value) ∈ pairs) :
    lastValue pairs key = some value := by
  rcases List.append_of_mem member with ⟨before, after, rfl⟩
  refine lastValue_of_suffix (List.suffix_append before _) ?_
  rw [List.map_append, List.map_cons] at nodup
  exact (List.nodup_cons.mp (List.nodup_append.mp nodup).2.1).1

/-- Pairs under new keys are appended. -/
theorem entries_foldl_insert_of_nodup {pairs : List (κ × ν)}
    {dict : OrderedDict κ ν}
    (nodup : (dict.keys ++ pairs.map Prod.fst).Nodup) :
    (pairs.foldl (fun current pair => current.insert pair.1 pair.2)
        dict).entries =
      dict.entries ++ pairs := by
  induction pairs generalizing dict with
  | nil => simp
  | cons pair rest induction =>
      have absent : pair.1 ∉ dict.keys := by
        intro member
        exact (List.nodup_append.mp nodup).2.2 _ member _ (by simp) rfl
      have split :
          dict.keys ++ (pair :: rest).map Prod.fst =
            (dict.insert pair.1 pair.2).keys ++ rest.map Prod.fst := by
        simp [keys_insert_of_not_mem absent]
      rw [split] at nodup
      rw [List.foldl_cons, induction nodup,
        entries_insert_of_not_mem absent, List.append_assoc]
      rfl

theorem keys_foldl_insert_of_nodup {pairs : List (κ × ν)}
    {dict : OrderedDict κ ν}
    (nodup : (dict.keys ++ pairs.map Prod.fst).Nodup) :
    (pairs.foldl (fun current pair => current.insert pair.1 pair.2)
        dict).keys =
      dict.keys ++ pairs.map Prod.fst := by
  rw [keys, entries_foldl_insert_of_nodup nodup, List.map_append]
  rfl

/-- Assigning pairs keeps one key for each pair if no key is repeated. -/
theorem keys_foldl_insert_empty_eq_iff {pairs : List (κ × ν)} :
    (pairs.foldl (fun current pair => current.insert pair.1 pair.2)
        empty).keys =
        pairs.map Prod.fst ↔
      (pairs.map Prod.fst).Nodup := by
  constructor
  · intro keys
    rw [← keys]
    exact nodup_keys _
  · intro nodup
    have fresh :
        ((empty : OrderedDict κ ν).keys ++ pairs.map Prod.fst).Nodup :=
      nodup
    exact keys_foldl_insert_of_nodup fresh

theorem keys_foldl_insert_congr
    {left right : List (κ × ν)}
    (sameKeys : left.map Prod.fst = right.map Prod.fst)
    {first second : OrderedDict κ ν} (keys : first.keys = second.keys) :
    (left.foldl (fun current pair => current.insert pair.1 pair.2)
        first).keys =
      (right.foldl (fun current pair => current.insert pair.1 pair.2)
        second).keys := by
  induction left generalizing right first second with
  | nil =>
      rw [List.map_nil, eq_comm, List.map_eq_nil_iff] at sameKeys
      rw [sameKeys]
      exact keys
  | cons pair rest induction =>
      cases right with
      | nil => cases sameKeys
      | cons other others =>
          rw [List.map_cons, List.map_cons, List.cons.injEq] at sameKeys
          rcases sameKeys with ⟨sameKey, sameRest⟩
          refine induction sameRest ?_
          show
            (first.insert pair.1 pair.2).keys =
              (second.insert other.1 other.2).keys
          rw [← sameKey]
          by_cases member : pair.1 ∈ first.keys
          · rw [keys_insert_of_mem member,
              keys_insert_of_mem (keys ▸ member), keys]
          · rw [keys_insert_of_not_mem member,
              keys_insert_of_not_mem (keys ▸ member), keys]

/-- Two dictionaries with the same keys in order and the same lookups. -/
theorem ext_get? {left right : OrderedDict κ ν}
    (keys : left.keys = right.keys)
    (lookups : ∀ key, left.get? key = right.get? key) :
    left = right := by
  apply ext
  have entries :
      ∀ dict : OrderedDict κ ν,
        dict.entries.map (fun entry => (entry.1, some entry.2)) =
          dict.keys.map fun key => (key, dict.get? key) := by
    intro dict
    rw [OrderedDict.keys, List.map_map]
    apply List.map_congr_left
    rintro ⟨key, value⟩ member
    rw [Function.comp_apply, get?_eq_some_iff.mpr member]
  have mapped :
      left.entries.map (fun entry => (entry.1, some entry.2)) =
        right.entries.map fun entry => (entry.1, some entry.2) := by
    rw [entries, entries, keys]
    apply List.map_congr_left
    intro key _
    rw [lookups]
  refine List.map_injective_iff.mpr ?_ mapped
  rintro ⟨key, value⟩ ⟨other, found⟩ equal
  simpa using equal

/-- Assigning pairs leaves what the last pair of each key says. -/
theorem foldl_insert_empty_eq_iff
    {left right : List (κ × ν)}
    (sameKeys : left.map Prod.fst = right.map Prod.fst) :
    left.foldl (fun current pair => current.insert pair.1 pair.2) empty =
        right.foldl (fun current pair => current.insert pair.1 pair.2)
          empty ↔
      ∀ key, lastValue left key = lastValue right key := by
  constructor
  · intro equal key
    have lookups := congrArg (fun dict => dict.get? key) equal
    simpa [get?_foldl_insert] using lookups
  · intro values
    apply ext_get? (keys_foldl_insert_congr sameKeys rfl)
    intro key
    rw [get?_foldl_insert, get?_foldl_insert, values]

/-- Assign every entry of another dictionary, as `dict.update(other)`. -/
def update (dict other : OrderedDict κ ν) : OrderedDict κ ν :=
  other.entries.foldl
    (fun current pair => current.insert pair.1 pair.2) dict

/-- The entries of a dictionary give each key its value. -/
theorem lastValue_entries (dict : OrderedDict κ ν) (key : κ) :
    lastValue dict.entries key = dict.get? key := by
  cases found : dict.get? key with
  | none => exact lastValue_eq_none_iff.mpr (get?_eq_none_iff.mp found)
  | some value =>
      exact lastValue_of_mem dict.nodup (get?_eq_some_iff.mp found)

/-- After an update the other dictionary comes first. -/
theorem get?_update (dict other : OrderedDict κ ν) (key : κ) :
    (dict.update other).get? key =
      (other.get? key).or (dict.get? key) := by
  rw [update, get?_foldl_insert, lastValue_entries]

/-- Updating the empty dictionary copies the other one. -/
@[simp]
theorem empty_update (dict : OrderedDict κ ν) : empty.update dict = dict := by
  apply ext_get?
  · exact keys_foldl_insert_empty_eq_iff.mpr dict.nodup
  · intro key
    rw [get?_update, get?_empty, Option.or_none]

/-! ## Selecting entries by their keys -/

/-- The keys of a kind have one value if there is one key of the kind. -/
theorem map_filter_keys_eq_singleton_iff
    {dict : OrderedDict κ ν} {key : κ} {value other : ν}
    {kind : κ → Bool} (found : dict.get? key = some value)
    (self : kind key = true) :
    (dict.entries.filter fun entry => kind entry.1).map Prod.snd =
        [other] ↔
      other = value ∧ ∀ found ∈ dict.keys, kind found = true →
        found = key := by
  have member :
      (key, value) ∈ dict.entries.filter fun entry => kind entry.1 :=
    List.mem_filter.mpr ⟨get?_eq_some_iff.mp found, self⟩
  constructor
  · intro single
    rcases List.map_eq_singleton_iff.mp single with ⟨entry, only, rfl⟩
    rw [only, List.mem_singleton] at member
    subst member
    refine ⟨rfl, ?_⟩
    intro foundKey foundMember ofKind
    rcases exists_mem_entries_of_mem_keys foundMember with
      ⟨foundValue, present⟩
    have selected :
        (foundKey, foundValue) ∈
          dict.entries.filter fun entry => kind entry.1 :=
      List.mem_filter.mpr ⟨present, ofKind⟩
    rw [only, List.mem_singleton] at selected
    exact (Prod.mk.inj selected).1
  · rintro ⟨rfl, unique⟩
    have same :
        ∀ entry ∈ dict.entries.filter fun entry => kind entry.1,
          entry = (key, other) := by
      rintro ⟨foundKey, foundValue⟩ selected
      rcases List.mem_filter.mp selected with ⟨present, ofKind⟩
      have sameKey :=
        unique foundKey (mem_keys_of_mem_entries present) ofKind
      subst sameKey
      exact
        Prod.ext rfl
          (dict.value_unique present (get?_eq_some_iff.mp found))
    have distinct :
        (dict.entries.filter fun entry => kind entry.1).Nodup :=
      (List.Nodup.of_map Prod.fst dict.nodup).filter _
    rw [List.eq_replicate_of_mem same, List.nodup_replicate] at distinct
    have length :
        (dict.entries.filter fun entry => kind entry.1).length = 1 :=
      Nat.le_antisymm distinct (List.length_pos_of_mem member)
    rw [List.eq_replicate_of_mem same, length]
    rfl

/-- The operator `==` of dictionaries, which takes no account of order. -/
def isEqual (same : ν → ν → Bool) (left right : OrderedDict κ ν) : Bool :=
  left.entries.length = right.entries.length &&
    left.entries.all fun entry =>
      (right.get? entry.1).any fun found => same entry.2 found

/-! ## Deletion -/

/-- Delete a key if present, as `dict.pop(key, None)`. -/
def erase (dict : OrderedDict κ ν) (key : κ) : OrderedDict κ ν where
  entries := dict.entries.filter fun entry => entry.1 ≠ key
  nodup := dict.nodup.sublist (List.filter_sublist.map Prod.fst)

theorem entries_erase (dict : OrderedDict κ ν) (key : κ) :
    (dict.erase key).entries =
      dict.entries.filter fun entry => entry.1 ≠ key :=
  rfl

theorem entries_erase_sublist (dict : OrderedDict κ ν) (key : κ) :
    (dict.erase key).entries.Sublist dict.entries :=
  List.filter_sublist

theorem keys_erase (dict : OrderedDict κ ν) (key : κ) :
    (dict.erase key).keys = dict.keys.filter fun other => other ≠ key := by
  rw [keys, entries_erase, keys, List.filter_map]
  rfl

theorem mem_keys_erase
    {dict : OrderedDict κ ν} {key other : κ} :
    other ∈ (dict.erase key).keys ↔ other ≠ key ∧ other ∈ dict.keys := by
  simp [keys_erase, and_comm]

theorem mem_entries_erase
    {dict : OrderedDict κ ν} {key other : κ} {found : ν} :
    (other, found) ∈ (dict.erase key).entries ↔
      other ≠ key ∧ (other, found) ∈ dict.entries := by
  simp [erase, and_comm]

@[simp]
theorem get?_erase_self (dict : OrderedDict κ ν) (key : κ) :
    (dict.erase key).get? key = none := by
  apply get?_eq_none_iff.mpr
  intro member
  exact (mem_keys_erase.mp member).1 rfl

theorem get?_erase_of_ne
    {dict : OrderedDict κ ν} {key other : κ}
    (different : other ≠ key) :
    (dict.erase key).get? other = dict.get? other := by
  apply get?_eq_of_mem_iff
  intro found
  rw [mem_entries_erase]
  simp [different]

theorem erase_of_not_mem
    {dict : OrderedDict κ ν} {key : κ}
    (absent : key ∉ dict.keys) :
    dict.erase key = dict := by
  apply ext
  apply List.filter_eq_self.mpr
  rintro ⟨other, found⟩ member
  have different : other ≠ key := by
    rintro rfl
    exact absent (mem_keys_of_mem_entries member)
  simpa using different

/-- Deleting a freshly assigned key restores the dictionary. -/
theorem erase_insert_of_not_mem
    {dict : OrderedDict κ ν} {key : κ}
    (absent : key ∉ dict.keys) (value : ν) :
    (dict.insert key value).erase key = dict := by
  apply ext
  rw [entries_erase, entries_insert_of_not_mem absent, List.filter_append,
    ← entries_erase, erase_of_not_mem absent]
  simp

end OrderedDict

end FastapiCore.Library
