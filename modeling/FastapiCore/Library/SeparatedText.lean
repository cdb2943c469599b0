import Mathlib.Data.List.DropRight
import Mathlib.Data.List.TakeWhile

/-!
# Texts of values between separators

A text is split at a separator, each segment is read as a value, and the
values which are not kept are dropped.  `Interspersed` is the format which
such a reader accepts: segments which write the values in order, with blank
segments anywhere between them.  The values of a reader may be lists of values
which another reader finds in a segment.

`trim` removes padding from both ends of a list.
-/

namespace FastapiCore.Library

universe u v

/-! ## Padding -/

section Trim

variable {α : Type u} {space : α → Bool}

/-- The list without the padding at its ends. -/
def trim (space : α → Bool) (text : List α) : List α :=
  (text.dropWhile space).rdropWhile space

/-- What `trim` removes is padding on the left and on the right. -/
theorem exists_padding (space : α → Bool) (text : List α) :
    ∃ before after,
      (∀ char ∈ before, space char) ∧ (∀ char ∈ after, space char) ∧
        text = before ++ trim space text ++ after := by
  refine
    ⟨text.takeWhile space, (text.dropWhile space).rtakeWhile space,
      fun _ member => List.mem_takeWhile_imp member,
      fun _ member => List.mem_rtakeWhile_imp member, ?_⟩
  rw [trim, List.append_assoc, List.rdropWhile_append_rtakeWhile,
    List.takeWhile_append_dropWhile]

theorem rdropWhile_append_of_pos {text after : List α}
    (padding : ∀ char ∈ after, space char) :
    (text ++ after).rdropWhile space = text.rdropWhile space := by
  rw [List.rdropWhile, List.reverse_append, List.dropWhile_append_of_pos]
  · rfl
  · intro char member
    exact padding char (List.mem_reverse.mp member)

/-- Padding does not change what is left after trimming. -/
theorem trim_padding {before text after : List α}
    (left : ∀ char ∈ before, space char)
    (right : ∀ char ∈ after, space char) :
    trim space (before ++ text ++ after) = trim space text := by
  rw [trim, trim, List.append_assoc, List.dropWhile_append_of_pos left,
    List.dropWhile_append]
  split
  · next allSpaces =>
      rw [List.isEmpty_iff.mp allSpaces, List.dropWhile_eq_nil_iff.mpr right]
  · exact rdropWhile_append_of_pos right

theorem trim_trim (text : List α) :
    trim space (trim space text) = trim space text := by
  rcases exists_padding space text with ⟨before, after, left, right, parts⟩
  conv_rhs => rw [parts]
  exact (trim_padding left right).symm

theorem trim_eq_nil_iff {text : List α} :
    trim space text = [] ↔ ∀ char ∈ text, space char := by
  rcases exists_padding space text with ⟨before, after, left, right, parts⟩
  constructor
  · intro nothing char member
    rw [parts, nothing, List.append_nil] at member
    rcases List.mem_append.mp member with inBefore | inAfter
    · exact left char inBefore
    · exact right char inAfter
  · intro all
    have padded := @trim_padding α space text [] [] all (by simp)
    rw [List.append_nil, List.append_nil] at padded
    exact padded

theorem mem_of_mem_trim {text : List α} {char : α}
    (member : char ∈ trim space text) : char ∈ text := by
  rcases exists_padding space text with ⟨before, after, -, -, parts⟩
  rw [parts]
  simp [member]

end Trim

/-! ## Splitting a text at a separator -/

/-- The segments of a text between the occurrences of the separator. -/
def split (separator : Char) (text : String) : List String :=
  (text.toList.splitOn separator).map String.ofList

theorem split_empty (separator : Char) : split separator "" = [""] := by
  simp [split]

/-- Segments without separators are found again in the joined text. -/
theorem split_intercalate {separator : Char} {joint : String}
    (single : joint.toList = [separator]) {segments : List String}
    (nonempty : segments ≠ [])
    (free : ∀ segment ∈ segments, separator ∉ segment.toList) :
    split separator (joint.intercalate segments) = segments := by
  rw [split, String.toList_intercalate, single,
    List.splitOn_intercalate separator (by simpa using free)
      (by simpa using nonempty),
    List.map_map]
  simp [Function.comp_def]

/-- The segments of a text make up the text. -/
theorem intercalate_split {separator : Char} {joint : String}
    (single : joint.toList = [separator]) (text : String) :
    joint.intercalate (split separator text) = text := by
  rw [← String.toList_inj, String.toList_intercalate, single, split,
    List.map_map]
  simp [Function.comp_def]

/-- A character of a joined text is in the joint or in a segment. -/
theorem mem_intercalate {α : Type u} {joint : List α}
    {segments : List (List α)} {char : α}
    (member : char ∈ joint.intercalate segments) :
    char ∈ joint ∨ ∃ segment ∈ segments, char ∈ segment := by
  induction segments with
  | nil => cases member
  | cons first rest induction =>
      rcases rest with _ | ⟨second, rest⟩
      · rw [List.intercalate_singleton] at member
        exact Or.inr ⟨first, by simp, member⟩
      · rw [List.intercalate_cons_cons, List.mem_append,
          List.mem_append] at member
        rcases member with (inFirst | inJoint) | later
        · exact Or.inr ⟨first, by simp, inFirst⟩
        · exact Or.inl inJoint
        · rcases induction later with inJoint | ⟨segment, found, inside⟩
          · exact Or.inl inJoint
          · exact Or.inr ⟨segment, .tail _ found, inside⟩

/-- A segment has no separator, and its characters are those of the list. -/
theorem mem_splitOn {α : Type u} [DecidableEq α] (separator : α)
    (text : List α) :
    ∀ segment ∈ text.splitOn separator,
      separator ∉ segment ∧ ∀ char ∈ segment, char ∈ text := by
  induction text with
  | nil => simp
  | cons first rest induction =>
      rw [List.splitOn_cons_eq_if_modifyHead]
      split
      · intro segment member
        rcases List.mem_cons.mp member with rfl | later
        · simp
        · have found := induction segment later
          exact ⟨found.1, fun char inside => .tail _ (found.2 char inside)⟩
      · next different =>
          cases segments : rest.splitOn separator with
          | nil => exact (List.splitOn_ne_nil separator rest segments).elim
          | cons head tail =>
              rw [segments, List.forall_mem_cons] at induction
              rw [List.modifyHead_cons, List.forall_mem_cons]
              refine ⟨⟨?_, ?_⟩, fun segment member => ?_⟩
              · rintro (_ | ⟨_, inHead⟩)
                · exact different (beq_self_eq_true _)
                · exact induction.1.1 inHead
              · rintro char (_ | ⟨_, inHead⟩)
                · exact .head rest
                · exact .tail _ (induction.1.2 char inHead)
              · have found := induction.2 segment member
                exact
                  ⟨found.1, fun char inside => .tail _ (found.2 char inside)⟩

theorem mem_split {separator : Char} {text segment : String}
    (member : segment ∈ split separator text) :
    separator ∉ segment.toList ∧
      ∀ char ∈ segment.toList, char ∈ text.toList := by
  rcases List.mem_map.mp member with ⟨chars, found, rfl⟩
  rw [String.toList_ofList]
  exact mem_splitOn separator text.toList chars found

/-! ## Values written in a text, with blank segments between them -/

/-- Segments which write the values in order, and blank segments. -/
inductive Interspersed {β : Type u} {τ : Type v} (writes : β → τ → Prop)
    (blank : τ → Prop) : List β → List τ → Prop where
  | nil : Interspersed writes blank [] []
  | blank {values : List β} {segments : List τ} {segment : τ}
      (isBlank : blank segment)
      (rest : Interspersed writes blank values segments) :
      Interspersed writes blank values (segment :: segments)
  | value {value : β} {values : List β} {segments : List τ} {segment : τ}
      (written : writes value segment)
      (rest : Interspersed writes blank values segments) :
      Interspersed writes blank (value :: values) (segment :: segments)

namespace Interspersed

variable {β : Type u} {τ : Type v} {writes : β → τ → Prop}
  {blank : τ → Prop} {values : List β} {segments : List τ}

/-- The segments which write the values one by one. -/
theorem map {write : β → τ}
    (written : ∀ value ∈ values, writes value (write value)) :
    Interspersed writes blank values (values.map write) := by
  induction values with
  | nil => exact .nil
  | cons value rest induction =>
      rw [List.forall_mem_cons] at written
      exact .value written.1 (induction written.2)

/-- What holds of the segments of the values and of the blank ones. -/
theorem forall_mem {property : τ → Prop}
    (interspersed : Interspersed writes blank values segments)
    (ofValue :
      ∀ value ∈ values, ∀ segment, writes value segment → property segment)
    (ofBlank : ∀ segment, blank segment → property segment) :
    ∀ segment ∈ segments, property segment := by
  induction interspersed with
  | nil => simp
  | blank isBlank _ induction =>
      rw [List.forall_mem_cons]
      exact ⟨ofBlank _ isBlank, induction ofValue⟩
  | value written _ induction =>
      rw [List.forall_mem_cons] at ofValue ⊢
      exact ⟨ofValue.1 _ written, induction ofValue.2⟩

/-- Reading the segments gives the values and drops the blank segments. -/
theorem filter_map_read {read : τ → β} {kept : β → Bool}
    (interspersed : Interspersed writes blank values segments)
    (reads :
      ∀ value ∈ values,
        kept value = true ∧
          ∀ segment, writes value segment → read segment = value)
    (drops : ∀ segment, blank segment → kept (read segment) = false) :
    (segments.map read).filter kept = values := by
  induction interspersed with
  | nil => simp
  | blank isBlank _ induction =>
      rw [List.map_cons,
        List.filter_cons_of_neg (by simp [drops _ isBlank])]
      exact induction reads
  | value written _ induction =>
      rw [List.forall_mem_cons] at reads
      have same := reads.1.2 _ written
      rw [List.map_cons, same, List.filter_cons_of_pos reads.1.1,
        induction reads.2]

/-- Segments of which each is kept or blank write the values read. -/
theorem of_read {read : τ → β} {kept : β → Bool} {segments : List τ}
    (keeps :
      ∀ segment ∈ segments, kept (read segment) = true →
        writes (read segment) segment)
    (drops :
      ∀ segment ∈ segments, kept (read segment) = false →
        blank segment) :
    Interspersed writes blank ((segments.map read).filter kept)
      segments := by
  induction segments with
  | nil => exact .nil
  | cons segment rest induction =>
      rw [List.forall_mem_cons] at keeps drops
      have others := induction keeps.2 drops.2
      rw [List.map_cons]
      cases isKept : kept (read segment) with
      | true =>
          rw [List.filter_cons_of_pos isKept]
          exact .value (keeps.1 isKept) others
      | false =>
          rw [List.filter_cons_of_neg (by simp [isKept])]
          exact .blank (drops.1 isKept) others

end Interspersed

/-- The values which are read from the segments of a text and kept. -/
def readSegments {β : Type u} (separator : Char) (read : String → β)
    (kept : β → Bool) (text : String) : List β :=
  ((split separator text).map read).filter kept

/-- A text of values in their format is read as these values. -/
theorem readSegments_intercalate {β : Type u} {separator : Char}
    {joint : String} (single : joint.toList = [separator])
    {read : String → β} {kept : β → Bool} {writes : β → String → Prop}
    {blank : String → Prop} {values : List β} {segments : List String}
    (interspersed : Interspersed writes blank values segments)
    (reads :
      ∀ value ∈ values,
        kept value = true ∧
          ∀ segment, writes value segment →
            read segment = value ∧ separator ∉ segment.toList)
    (drops :
      ∀ segment, blank segment →
        kept (read segment) = false ∧ separator ∉ segment.toList)
    (dropsEmpty : kept (read "") = false) :
    readSegments separator read kept (joint.intercalate segments) =
      values := by
  have free : ∀ segment ∈ segments, separator ∉ segment.toList :=
    interspersed.forall_mem
      (fun value member segment written =>
        ((reads value member).2 segment written).2)
      fun segment isBlank => (drops segment isBlank).2
  have values_eq : (segments.map read).filter kept = values :=
    interspersed.filter_map_read
      (fun value member =>
        ⟨(reads value member).1, fun segment written =>
          ((reads value member).2 segment written).1⟩)
      fun segment isBlank => (drops segment isBlank).1
  rcases segments with _ | ⟨first, rest⟩
  · -- Without segments the text is empty and has one empty segment.
    rw [readSegments, String.intercalate_nil, split_empty, ← values_eq]
    simp [dropsEmpty]
  · rw [readSegments, split_intercalate single (by simp) free, values_eq]

/-- A value which is read comes from a segment and is kept. -/
theorem mem_readSegments {β : Type u} {separator : Char}
    {read : String → β} {kept : β → Bool} {text : String} {value : β}
    (member : value ∈ readSegments separator read kept text) :
    kept value = true ∧
      ∃ segment ∈ split separator text, read segment = value := by
  rcases List.mem_filter.mp member with ⟨inMap, isKept⟩
  exact ⟨isKept, List.mem_map.mp inMap⟩

end FastapiCore.Library
