import Mathlib.Data.List.Basic

/-!
# Words between spaces

The words of a text are its longest parts without spaces.  Words with one
space between them are found again, so a text may be replaced by its words
with single spaces between them without changing what is read from it.
-/

namespace FastapiCore.Library

universe u

variable {α : Type u} {space : α → Bool}

/-- The words of a text. -/
def words (space : α → Bool) (text : List α) : List (List α) :=
  (text.splitOnP space).filter fun word => !word.isEmpty

/-- A part which is not empty and has no space. -/
structure IsWord (space : α → Bool) (word : List α) : Prop where
  nonempty : word ≠ []
  free : ∀ char ∈ word, space char = false

theorem free_of_mem_splitOnP {text word : List α}
    (member : word ∈ text.splitOnP space) :
    ∀ char ∈ word, space char = false := by
  induction text generalizing word with
  | nil =>
      rw [List.splitOnP_nil, List.mem_singleton] at member
      subst member
      exact List.forall_mem_nil _
  | cons first rest induction =>
      rw [List.splitOnP_cons_eq_if_modifyHead] at member
      by_cases ends : space first = true
      · rw [if_pos ends] at member
        rcases List.mem_cons.mp member with rfl | member
        · exact List.forall_mem_nil _
        · exact induction member
      · rw [if_neg ends] at member
        rcases List.exists_cons_of_ne_nil
          (List.splitOnP_ne_nil space rest) with ⟨head, tail, parts⟩
        rw [parts, List.modifyHead_cons] at member
        rcases List.mem_cons.mp member with rfl | member
        · refine List.forall_mem_cons.mpr ⟨by simpa using ends, ?_⟩
          exact induction (by simp [parts])
        · exact induction (by simp [parts, member])

theorem isWord_of_mem_words {text word : List α}
    (member : word ∈ words space text) : IsWord space word := by
  rw [words, List.mem_filter] at member
  exact ⟨by simpa using member.2, free_of_mem_splitOnP member.1⟩

theorem words_of_isWord {word : List α} (isWord : IsWord space word) :
    words space word = [word] := by
  rw [words, List.splitOnP_eq_singleton isWord.free]
  simp [isWord.nonempty]

theorem words_append {word : List α} (isWord : IsWord space word)
    {joint : α} (separates : space joint) (rest : List α) :
    words space (word ++ joint :: rest) = word :: words space rest := by
  rw [words,
    List.splitOnP_append_cons_of_forall_mem isWord.free joint separates,
    List.filter_cons_of_pos (by simp [isWord.nonempty])]
  rfl

/-- Words with one space between them are read as they are. -/
theorem words_intercalate {joint : α} (separates : space joint)
    {parts : List (List α)} (all : ∀ part ∈ parts, IsWord space part) :
    words space ([joint].intercalate parts) = parts := by
  induction parts with
  | nil => rfl
  | cons part parts induction =>
      have first := all part (.head _)
      cases parts with
      | nil => rw [List.intercalate_singleton, words_of_isWord first]
      | cons next parts =>
          rw [List.intercalate_cons_cons, List.append_assoc,
            List.singleton_append, words_append first separates,
            induction fun other member => all other (.tail _ member)]

/-- Single spaces between the words of a text keep its words. -/
theorem words_intercalate_words {joint : α} (separates : space joint)
    (text : List α) :
    words space ([joint].intercalate (words space text)) =
      words space text :=
  words_intercalate separates fun _ member => isWord_of_mem_words member

end FastapiCore.Library
