import Mathlib.Data.List.DropRight
import Mathlib.Data.List.TakeWhile
import FastapiCore.PythonObjects

/-!
# Numbers as texts

`int(text)` reads what `str(number)` writes, among other texts.  No two
numbers are therefore written alike, which comparisons of response codes as
texts rely on.
-/

namespace FastapiCore

/-! ## Reading -/

/-- The value of decimal digits, with single underscores between them. -/
def digitsValue (value : Nat) : List Char → Option Nat
  | [] => some value
  | char :: rest =>
      if char.isDigit then
        digitsValue (10 * value + (char.toNat - '0'.toNat)) rest
      else if char = '_' ∧ rest.head?.any Char.isDigit then
        digitsValue value rest
      else none

/-- The value of a decimal number without a sign. -/
def naturalValue (digits : List Char) : Option Nat :=
  if digits.head?.any Char.isDigit then digitsValue 0 digits else none

/-- The characters of `text.strip()`. -/
def stripSpaces (chars : List Char) : List Char :=
  (chars.dropWhile isSpace).rdropWhile isSpace

/-- The value of `int(text)`, for texts with ASCII digits. -/
def integerValue (text : String) : Option Int :=
  match stripSpaces text.toList with
  | '-' :: digits => (naturalValue digits).map fun value => -(value : Int)
  | '+' :: digits => (naturalValue digits).map Int.ofNat
  | digits => (naturalValue digits).map Int.ofNat

theorem isSpace_of_isDigit {char : Char} (digit : char.isDigit) :
    isSpace char = false := by
  have bounds : 48 ≤ char.toNat ∧ char.toNat ≤ 57 := by
    simpa [Char.isDigit, UInt32.le_iff_toNat_le] using digit
  simp only [isSpace, decide_eq_false_iff_not]
  omega

theorem stripSpaces_eq_self {chars : List Char}
    (all : ∀ char ∈ chars, isSpace char = false) :
    stripSpaces chars = chars := by
  have left : chars.dropWhile isSpace = chars := by
    rw [List.dropWhile_eq_self_iff]
    intro positive
    simp [all _ (List.getElem_mem positive)]
  have right : chars.rdropWhile isSpace = chars := by
    rw [List.rdropWhile_eq_self_iff]
    intro nonempty
    simp [all _ (List.getLast_mem nonempty)]
  rw [stripSpaces, left, right]

/-- A first character which is no space stays in front. -/
theorem stripSpaces_cons {first : Char} (kept : isSpace first = false)
    (rest : List Char) :
    stripSpaces (first :: rest) = first :: rest.rdropWhile isSpace := by
  rw [stripSpaces, List.dropWhile_cons_of_neg (by simp [kept]),
    List.rdropWhile, List.reverse_cons, List.dropWhile_append]
  split
  · next spaces =>
      have empty : rest.rdropWhile isSpace = [] := by
        rw [List.rdropWhile, List.isEmpty_iff.mp spaces, List.reverse_nil]
      rw [empty, List.dropWhile_cons_of_neg (by simp [kept])]
      rfl
  · rw [List.reverse_append]
    rfl

/-! ## Reading what is written -/

theorem digitsValue_of_digits {digits : List Char}
    (all : ∀ char ∈ digits, char.isDigit) (value : Nat) :
    digitsValue value digits = some (Nat.ofDigitChars 10 digits value) := by
  induction digits generalizing value with
  | nil => simp [digitsValue]
  | cons char rest induction =>
      rw [digitsValue, if_pos (all char (by simp)), Nat.ofDigitChars_cons]
      exact induction (fun other member => all other (by simp [member])) _

theorem isDigit_of_mem_toDigits {number : Nat} {char : Char}
    (member : char ∈ Nat.toDigits 10 number) : char.isDigit :=
  Nat.isDigit_of_mem_toDigits (by decide) (by decide) member

theorem naturalValue_toDigits (number : Nat) :
    naturalValue (Nat.toDigits 10 number) = some number := by
  have starts : (Nat.toDigits 10 number).head?.any Char.isDigit = true := by
    cases digits : Nat.toDigits 10 number with
    | nil => exact (Nat.toDigits_ne_nil digits).elim
    | cons char rest =>
        exact @isDigit_of_mem_toDigits number char (by simp [digits])
  rw [naturalValue, if_pos starts,
    digitsValue_of_digits fun _ member => isDigit_of_mem_toDigits member,
    Nat.ofDigitChars_ten_toDigits]

theorem stripSpaces_toDigits (number : Nat) :
    stripSpaces (Nat.toDigits 10 number) = Nat.toDigits 10 number :=
  stripSpaces_eq_self fun _ member =>
    isSpace_of_isDigit (isDigit_of_mem_toDigits member)

theorem integerValue_natural (number : Nat) :
    integerValue (toString number) = some (number : Int) := by
  have written : (toString number).toList = Nat.toDigits 10 number :=
    Nat.toList_repr
  have read := naturalValue_toDigits number
  rw [integerValue, written, stripSpaces_toDigits]
  cases digits : Nat.toDigits 10 number with
  | nil => exact (Nat.toDigits_ne_nil digits).elim
  | cons first rest =>
      have digit : first.isDigit :=
        @isDigit_of_mem_toDigits number first (by simp [digits])
      rw [digits] at read
      split
      · next same =>
          cases same
          cases digit
      · next same =>
          cases same
          cases digit
      · rw [read]
        rfl

/-- `int(str(number)) == number`. -/
theorem integerValue_toString (number : Int) :
    integerValue (toString number) = some number := by
  cases number with
  | ofNat number => exact integerValue_natural number
  | negSucc number =>
      have written :
          (toString (Int.negSucc number)).toList =
            '-' :: Nat.toDigits 10 (number + 1) := by
        show ("-" ++ (number + 1).repr).toList = _
        rw [String.toList_append, Nat.toList_repr]
        rfl
      have kept :
          stripSpaces ('-' :: Nat.toDigits 10 (number + 1)) =
            '-' :: Nat.toDigits 10 (number + 1) := by
        refine stripSpaces_eq_self ?_
        rintro char (_ | ⟨_, member⟩)
        · decide
        · exact isSpace_of_isDigit (isDigit_of_mem_toDigits member)
      rw [integerValue, written, kept]
      show
        (naturalValue (Nat.toDigits 10 (number + 1))).map
            (fun value => -(value : Int)) = _
      rw [naturalValue_toDigits]
      rfl

theorem toString_natural_inj {first second : Nat} :
    toString first = toString second ↔ first = second := by
  constructor
  · intro same
    have read := integerValue_natural first
    rw [same, integerValue_natural] at read
    exact (Int.ofNat.inj (Option.some.inj read)).symm
  · rintro rfl
    rfl

end FastapiCore
