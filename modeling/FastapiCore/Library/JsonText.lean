import Mathlib.Data.List.Basic
import FastapiCore.Library.JsonTree
import FastapiCore.Library.SeparatedText

/-!
# JSON documents as texts

`write` gives the text of a document with `", "` and `": "` as separators,
and `readDocument` reads JSON texts, with any white space between their
tokens.  Reading takes two passes: an automaton cuts the characters into
tokens, and a recursive descent builds the document from them.  The main
result is that reading inverts writing, whatever characters the texts inside
the document have.  The texts of the floating-point numbers are a parameter.
-/

namespace FastapiCore.Library

/-! ## Tokens -/

/-- The parts of a JSON text. -/
inductive JsonToken where
  | openArray
  | closeArray
  | openObject
  | closeObject
  | comma
  | colon
  | word (chars : List Char)
  | text (chars : List Char)
deriving DecidableEq, Repr

namespace JsonText

/-- White space between the tokens. -/
def isSeparator (char : Char) : Bool :=
  char = ' ' || char = '\t' || char = '\n' || char = '\r'

/-- The characters of numbers. -/
def isNumeric (char : Char) : Bool :=
  char.isDigit || char = '-' || char = '+' || char = '.' || char = 'e' ||
    char = 'E'

/-- The characters of numbers and of the three names. -/
def isWordChar (char : Char) : Bool :=
  isNumeric char || (97 ≤ char.toNat && char.toNat ≤ 122)

/-- The token which is written with one character outside texts. -/
def punctuation (char : Char) : Option JsonToken :=
  if char = '[' then some .openArray
  else if char = ']' then some .closeArray
  else if char = '{' then some .openObject
  else if char = '}' then some .closeObject
  else if char = ',' then some .comma
  else if char = ':' then some .colon
  else none

/-- The value of a hexadecimal digit. -/
def hexValue (char : Char) : Option Nat :=
  if char.isDigit then some (char.toNat - 48)
  else if 97 ≤ char.toNat ∧ char.toNat ≤ 102 then some (char.toNat - 87)
  else if 65 ≤ char.toNat ∧ char.toNat ≤ 70 then some (char.toNat - 55)
  else none

/-- The character which an escape of two characters stands for. -/
def escaped (char : Char) : Option Char :=
  if char = '"' ∨ char = '\\' ∨ char = '/' then some char
  else if char = 'n' then some '\n'
  else if char = 'r' then some '\r'
  else if char = 't' then some '\t'
  else if char = 'f' then some (Char.ofNat 12)
  else if char = 'b' then some (Char.ofNat 8)
  else none

/-- What the automaton is inside of, with what it has read of it. -/
inductive Mode where
  | outside
  | word (chars : List Char)
  | text (chars : List Char)
  | escape (chars : List Char)
  | unicode (chars : List Char) (count value : Nat)
deriving DecidableEq, Repr

/-- What a character outside every token begins. -/
def enter (char : Char) : Option (List JsonToken × Mode) :=
  if isSeparator char then some ([], .outside)
  else if char = '"' then some ([], .text [])
  else if isWordChar char then some ([], .word [char])
  else (punctuation char).map fun token => ([token], .outside)

/-- The tokens which a character completes, and the mode after it. -/
def Mode.step : Mode → Char → Option (List JsonToken × Mode)
  | .outside, char => enter char
  | .word chars, char =>
      if isWordChar char then some ([], .word (chars ++ [char]))
      else
        (enter char).map fun result =>
          (.word chars :: result.1, result.2)
  | .text chars, char =>
      if char = '"' then some ([.text chars], .outside)
      else if char = '\\' then some ([], .escape chars)
      else if char.toNat < 32 then none
      else some ([], .text (chars ++ [char]))
  | .escape chars, char =>
      if char = 'u' then some ([], .unicode chars 0 0)
      else (escaped char).map fun plain => ([], .text (chars ++ [plain]))
  | .unicode chars count value, char =>
      (hexValue char).bind fun digit =>
        if count < 3 then
          some ([], .unicode chars (count + 1) (16 * value + digit))
        else if (16 * value + digit).isValidChar then
          some ([], .text (chars ++ [Char.ofNat (16 * value + digit)]))
        else none

/-- The tokens which the end of the text completes. -/
def Mode.finish : Mode → Option (List JsonToken)
  | .outside => some []
  | .word chars => some [.word chars]
  | _ => none

/-- The tokens of a text, read from a mode on. -/
def tokenize (mode : Mode) : List Char → Option (List JsonToken)
  | [] => mode.finish
  | char :: rest =>
      (mode.step char).bind fun result =>
        (tokenize result.2 rest).map fun later => result.1 ++ later

/-! ## Reading documents -/

/-- The number which a word of decimal digits writes, without zeros ahead. -/
def readNatural (chars : List Char) : Option Nat :=
  if Nat.toDigits 10 (Nat.ofDigitChars 10 chars 0) = chars then
    some (Nat.ofDigitChars 10 chars 0)
  else none

/-- The integer which a word writes. -/
def readInteger : List Char → Option Int
  | '-' :: digits => (readNatural digits).map fun value => -(value : Int)
  | digits => (readNatural digits).map Int.ofNat

section Documents

variable (readFloat : List Char → Option Rat)

/-- The number which a word writes. -/
def readNumber (chars : List Char) : Option JsonScalar :=
  match readInteger chars with
  | some value => some (.integer value)
  | none => (readFloat chars).map .float

/-- The value of a word. -/
def readWord (chars : List Char) : Option JsonScalar :=
  if chars = ['n', 'u', 'l', 'l'] then some .null
  else if chars = ['t', 'r', 'u', 'e'] then some (.boolean true)
  else if chars = ['f', 'a', 'l', 's', 'e'] then some (.boolean false)
  else readNumber readFloat chars

mutual

/-- A value at the head of the tokens, and the tokens behind it. -/
def readValue : Nat → List JsonToken → Option (JsonTree × List JsonToken)
  | 0, _ => none
  | _ + 1, .text chars :: rest =>
      some (.scalar (.text (String.ofList chars)), rest)
  | _ + 1, .word chars :: rest =>
      (readWord readFloat chars).map fun value => (.scalar value, rest)
  | _ + 1, .openArray :: .closeArray :: rest => some (.array [], rest)
  | fuel + 1, .openArray :: rest =>
      (readItems fuel rest).map fun result => (.array result.1, result.2)
  | _ + 1, .openObject :: .closeObject :: rest => some (.object [], rest)
  | fuel + 1, .openObject :: rest =>
      (readMembers fuel rest).map fun result => (.object result.1, result.2)
  | _ + 1, _ => none

/-- The items of an array, up to the bracket which closes it. -/
def readItems : Nat → List JsonToken →
    Option (List JsonTree × List JsonToken)
  | 0, _ => none
  | fuel + 1, tokens =>
      match readValue fuel tokens with
      | some (value, .closeArray :: rest) => some ([value], rest)
      | some (value, .comma :: rest) =>
          (readItems fuel rest).map fun result =>
            (value :: result.1, result.2)
      | _ => none

/-- The members of an object, up to the brace which closes it. -/
def readMembers : Nat → List JsonToken →
    Option (List (String × JsonTree) × List JsonToken)
  | fuel + 1, .text name :: .colon :: tokens =>
      match readValue fuel tokens with
      | some (value, .closeObject :: rest) =>
          some ([(String.ofList name, value)], rest)
      | some (value, .comma :: rest) =>
          (readMembers fuel rest).map fun result =>
            ((String.ofList name, value) :: result.1, result.2)
      | _ => none
  | _, _ => none

end

/-- The document which tokens make up. -/
def readTokens (tokens : List JsonToken) : Option JsonTree :=
  match readValue readFloat tokens.length tokens with
  | some (value, []) => some value
  | _ => none

/-- The document which a text writes. -/
def readDocument (text : List Char) : Option JsonTree :=
  (tokenize .outside text).bind (readTokens readFloat)

/-- The lines of a text which ends every line, behind part of a line. -/
def closedLines (line : List Char) : List Char → Option (List (List Char))
  | [] => if line = [] then some [] else none
  | char :: rest =>
      if char = '\n' then
        (closedLines [] rest).map fun lines => line :: lines
      else closedLines (line ++ [char]) rest

/-- The documents of a text with one document on each of its lines. -/
def readLines (text : List Char) : Option (List JsonTree) :=
  (closedLines [] text).bind fun lines =>
    lines.mapM (readDocument readFloat)

end Documents

/-! ## Writing documents -/

/-- A character inside a text. -/
def escapeChar (char : Char) : List Char :=
  if char = '"' then ['\\', '"']
  else if char = '\\' then ['\\', '\\']
  else if char = '\n' then ['\\', 'n']
  else if char = '\r' then ['\\', 'r']
  else if char = '\t' then ['\\', 't']
  else if char = Char.ofNat 12 then ['\\', 'f']
  else if char = Char.ofNat 8 then ['\\', 'b']
  else if char.toNat < 32 then
    ['\\', 'u', '0', '0', Nat.digitChar (char.toNat / 16),
      Nat.digitChar (char.toNat % 16)]
  else [char]

/-- A text between its quotation marks. -/
def writeText (chars : List Char) : List Char :=
  '"' :: (chars.flatMap escapeChar ++ ['"'])

/-- The decimal digits of an integer, with its sign. -/
def writeInteger : Int → List Char
  | .ofNat value => Nat.toDigits 10 value
  | .negSucc value => '-' :: Nat.toDigits 10 (value + 1)

section Documents

variable (writeFloat : Rat → List Char)

/-- The text of a value which holds no others. -/
def writeScalar : JsonScalar → List Char
  | .null => ['n', 'u', 'l', 'l']
  | .boolean true => ['t', 'r', 'u', 'e']
  | .boolean false => ['f', 'a', 'l', 's', 'e']
  | .integer value => writeInteger value
  | .float value => writeFloat value
  | .text value => writeText value.toList

mutual

/-- The text of a document. -/
def write : JsonTree → List Char
  | .scalar value => writeScalar writeFloat value
  | .array items =>
      '[' :: ([',', ' '].intercalate (writeItems items) ++ [']'])
  | .object members =>
      '\x7b' :: ([',', ' '].intercalate (writeMembers members) ++ ['\x7d'])

/-- The texts of the items of an array. -/
def writeItems : List JsonTree → List (List Char)
  | [] => []
  | child :: rest => write child :: writeItems rest

/-- The texts of the members of an object. -/
def writeMembers : List (String × JsonTree) → List (List Char)
  | [] => []
  | (name, child) :: rest =>
      (writeText name.toList ++ [':', ' '] ++ write child) ::
        writeMembers rest

end

mutual

/-- The tokens of a written document. -/
def tokens : JsonTree → List JsonToken
  | .scalar (.text value) => [.text value.toList]
  | .scalar value => [.word (writeScalar writeFloat value)]
  | .array items =>
      .openArray :: ([.comma].intercalate (itemTokens items) ++ [.closeArray])
  | .object members =>
      .openObject ::
        ([.comma].intercalate (memberTokens members) ++ [.closeObject])

/-- The tokens of the items of an array. -/
def itemTokens : List JsonTree → List (List JsonToken)
  | [] => []
  | child :: rest => tokens child :: itemTokens rest

/-- The tokens of the members of an object. -/
def memberTokens : List (String × JsonTree) → List (List JsonToken)
  | [] => []
  | (name, child) :: rest =>
      (.text name.toList :: .colon :: tokens child) :: memberTokens rest

end

end Documents

/-! ## Cutting texts into tokens -/

/-- What follows does not continue a word. -/
def WordEnd (rest : List Char) : Prop :=
  ∀ char ∈ rest.head?, isWordChar char = false

theorem tokenize_cons {mode next : Mode} {char : Char}
    {found : List JsonToken} (step : mode.step char = some (found, next))
    (rest : List Char) :
    tokenize mode (char :: rest) =
      (tokenize next rest).map fun later => found ++ later := by
  rw [tokenize, step, Option.bind_some]

/-- A character without a token of its own only changes the mode. -/
theorem tokenize_cons_silent (next : Mode) {mode : Mode} {char : Char}
    (step : mode.step char = some ([], next)) (rest : List Char) :
    tokenize mode (char :: rest) = tokenize next rest := by
  rw [tokenize_cons step]
  exact Option.map_id'

theorem hexValue_digitChar :
    ∀ digit < 16, hexValue (Nat.digitChar digit) = some digit := by
  decide

/-- An escape of two characters is read as the character it stands for. -/
theorem tokenize_escape {mark plain : Char} (other : mark ≠ 'u')
    (same : escaped mark = some plain) (chars rest : List Char) :
    tokenize (.text chars) ('\\' :: mark :: rest) =
      tokenize (.text (chars ++ [plain])) rest := by
  rw [tokenize_cons_silent (.escape chars) (by simp [Mode.step]),
    tokenize_cons_silent (.text (chars ++ [plain]))]
  simp [Mode.step, other, same]

/-- A numeric escape is read as the control character it stands for. -/
theorem tokenize_unicode {char : Char} (control : char.toNat < 32)
    (chars rest : List Char) :
    tokenize (.text chars)
        ('\\' :: 'u' :: '0' :: '0' :: Nat.digitChar (char.toNat / 16) ::
          Nat.digitChar (char.toNat % 16) :: rest) =
      tokenize (.text (chars ++ [char])) rest := by
  have zero : hexValue '0' = some 0 := by decide
  have high := hexValue_digitChar (char.toNat / 16) (by omega)
  have low := hexValue_digitChar (char.toNat % 16) (by omega)
  have value : 16 * (char.toNat / 16) + char.toNat % 16 = char.toNat := by
    omega
  rw [tokenize_cons_silent (.escape chars) (by simp [Mode.step]),
    tokenize_cons_silent (.unicode chars 0 0) (by simp [Mode.step]),
    tokenize_cons_silent (.unicode chars 1 0)
      (by simp [Mode.step, zero]),
    tokenize_cons_silent (.unicode chars 2 0)
      (by simp [Mode.step, zero]),
    tokenize_cons_silent (.unicode chars 3 (char.toNat / 16))
      (by simp [Mode.step, high]),
    tokenize_cons_silent (.text (chars ++ [char]))]
  have valid : char.toNat.isValidChar := char.valid
  simp [Mode.step, low, value, valid]

/-- A written character is read as itself. -/
theorem tokenize_escapeChar (char : Char) (chars rest : List Char) :
    tokenize (.text chars) (escapeChar char ++ rest) =
      tokenize (.text (chars ++ [char])) rest := by
  rw [escapeChar]
  split
  · next same => exact tokenize_escape (by decide) (by simp [same, escaped]) ..
  split
  · next same => exact tokenize_escape (by decide) (by simp [same, escaped]) ..
  split
  · next same => exact tokenize_escape (by decide) (by simp [same, escaped]) ..
  split
  · next same => exact tokenize_escape (by decide) (by simp [same, escaped]) ..
  split
  · next same => exact tokenize_escape (by decide) (by simp [same, escaped]) ..
  split
  · next same => exact tokenize_escape (by decide) (by simp [same, escaped]) ..
  split
  · next same => exact tokenize_escape (by decide) (by simp [same, escaped]) ..
  split
  · next control => exact tokenize_unicode control chars rest
  · next quote backslash _ _ _ _ _ printable =>
      refine tokenize_cons_silent _ ?_ rest
      simp [Mode.step, quote, backslash, printable]

theorem tokenize_chars (chars start rest : List Char) :
    tokenize (.text start) (chars.flatMap escapeChar ++ '"' :: rest) =
      (tokenize .outside rest).map fun later =>
        .text (start ++ chars) :: later := by
  induction chars generalizing start with
  | nil =>
      have ends :
          (Mode.text start).step '"' = some ([.text start], .outside) := by
        simp [Mode.step]
      rw [List.append_nil]
      exact tokenize_cons ends rest
  | cons char chars induction =>
      rw [List.flatMap_cons, List.append_assoc, tokenize_escapeChar, induction,
        List.append_assoc]
      rfl

/-- A written text is one token. -/
theorem tokenize_writeText (chars rest : List Char) :
    tokenize .outside (writeText chars ++ rest) =
      (tokenize .outside rest).map fun later => .text chars :: later := by
  have entered : Mode.outside.step '"' = some ([], .text []) := by decide
  rw [writeText, List.cons_append, tokenize_cons_silent _ entered,
    List.append_assoc]
  exact tokenize_chars chars [] rest

theorem plain_of_isWordChar {char : Char} (word : isWordChar char) :
    isSeparator char = false ∧ char ≠ '"' := by
  constructor
  · cases separator : isSeparator char with
    | false => rfl
    | true =>
        simp only [isSeparator, Bool.or_eq_true, decide_eq_true_eq] at separator
        rcases separator with ((rfl | rfl) | rfl) | rfl
        all_goals exact absurd word (by decide)
  · rintro rfl
    exact absurd word (by decide)

/-- A word is one token, up to a character which cannot continue it. -/
theorem tokenize_word {chars : List Char}
    (all : ∀ char ∈ chars, isWordChar char) (start : List Char)
    {rest : List Char} (ends : WordEnd rest) :
    tokenize (.word start) (chars ++ rest) =
      (tokenize .outside rest).map fun later =>
        .word (start ++ chars) :: later := by
  induction chars generalizing start with
  | nil =>
      cases rest with
      | nil => simp [tokenize, Mode.finish]
      | cons char rest =>
          have stops : isWordChar char = false := ends char rfl
          simp only [List.nil_append, List.append_nil, tokenize, Mode.step,
            stops]
          cases enter char with
          | none => rfl
          | some result => cases h : tokenize result.2 rest <;> simp [h]
  | cons char chars induction =>
      have continued :
          (Mode.word start).step char = some ([], .word (start ++ [char])) := by
        simp [Mode.step, all char]
      rw [List.cons_append, tokenize_cons_silent _ continued,
        induction fun other member => all other (.tail _ member)]
      simp

/-- A word outside the tokens is read as a whole. -/
theorem tokenize_outside_word {chars : List Char} (nonempty : chars ≠ [])
    (all : ∀ char ∈ chars, isWordChar char) {rest : List Char}
    (ends : WordEnd rest) :
    tokenize .outside (chars ++ rest) =
      (tokenize .outside rest).map fun later => .word chars :: later := by
  cases chars with
  | nil => exact absurd rfl nonempty
  | cons char chars =>
      have word := all char (.head _)
      have entered : Mode.outside.step char = some ([], .word [char]) := by
        have plain := plain_of_isWordChar word
        simp [Mode.step, enter, plain, word]
      rw [List.cons_append, tokenize_cons_silent _ entered,
        tokenize_word (fun other member => all other (.tail _ member)) _ ends]
      rfl

/-! ## Words -/

theorem readNatural_toDigits (value : Nat) :
    readNatural (Nat.toDigits 10 value) = some value := by
  rw [readNatural, Nat.ofDigitChars_ten_toDigits, if_pos rfl]

theorem isDigit_of_readNatural {chars : List Char} {value : Nat}
    (read : readNatural chars = some value) {char : Char}
    (member : char ∈ chars) : char.isDigit := by
  unfold readNatural at read
  split at read
  · next same =>
      rw [← same] at member
      exact Nat.isDigit_of_mem_toDigits (by decide) (by decide) member
  · cases read

theorem readInteger_of_digits {chars : List Char}
    (all : ∀ char ∈ chars, char.isDigit) :
    readInteger chars = (readNatural chars).map Int.ofNat := by
  unfold readInteger
  split
  · exact absurd (all '-' (.head _)) (by decide)
  · rfl

/-- Reading inverts writing for integers. -/
theorem readInteger_writeInteger (value : Int) :
    readInteger (writeInteger value) = some value := by
  cases value with
  | ofNat value =>
      rw [writeInteger, readInteger_of_digits, readNatural_toDigits]
      · rfl
      · exact fun _ member =>
          Nat.isDigit_of_mem_toDigits (by decide) (by decide) member
  | negSucc value =>
      rw [writeInteger, readInteger, readNatural_toDigits]
      rfl

theorem mem_writeInteger {value : Int} {char : Char}
    (member : char ∈ writeInteger value) : char = '-' ∨ char.isDigit := by
  cases value with
  | ofNat value =>
      exact .inr (Nat.isDigit_of_mem_toDigits (by decide) (by decide) member)
  | negSucc value =>
      rcases List.mem_cons.mp member with sign | member
      · exact .inl sign
      · exact .inr (Nat.isDigit_of_mem_toDigits (by decide) (by decide) member)

theorem writeInteger_ne_nil (value : Int) : writeInteger value ≠ [] := by
  cases value with
  | ofNat value => exact Nat.toDigits_ne_nil
  | negSucc value => simp [writeInteger]

/-- A word of an integer has nothing but digits and a sign. -/
theorem readInteger_eq_none {chars : List Char} {char : Char}
    (member : char ∈ chars) (sign : char ≠ '-')
    (other : char.isDigit = false) : readInteger chars = none := by
  have refused (digits : List Char) (member : char ∈ digits) :
      readNatural digits = none := by
    cases read : readNatural digits with
    | none => rfl
    | some value =>
        rw [isDigit_of_readNatural read member] at other
        cases other
  unfold readInteger
  split
  · next digits =>
      rw [refused digits ((List.mem_cons.mp member).resolve_left sign)]
      rfl
  · rw [refused chars member]
    rfl

section Documents

variable (writeFloat : Rat → List Char)
variable (readFloat : List Char → Option Rat)

/-- The text of a floating-point number is read as that number. -/
structure FloatWord (value : Rat) : Prop where
  numeric : ∀ char ∈ writeFloat value, isNumeric char
  fractional : '.' ∈ writeFloat value ∨ 'e' ∈ writeFloat value
  read : readFloat (writeFloat value) = some value

/-- Every floating-point number in a document is read as it is written. -/
def FloatWords (tree : JsonTree) : Prop :=
  ∀ value, JsonTree.Inside (.scalar (.float value)) tree →
    FloatWord writeFloat readFloat value

/-- What the written form of a scalar must be for it to be read again. -/
structure ScalarWord (value : JsonScalar) : Prop where
  nonempty : writeScalar writeFloat value ≠ []
  word : ∀ char ∈ writeScalar writeFloat value, isWordChar char
  read : readWord readFloat (writeScalar writeFloat value) = some value

variable {writeFloat readFloat}

/-- A word of numeric characters is read as a number. -/
theorem readWord_of_numeric {chars : List Char} (nonempty : chars ≠ [])
    (numeric : ∀ char ∈ chars, isNumeric char) :
    readWord readFloat chars = readNumber readFloat chars := by
  cases chars with
  | nil => exact absurd rfl nonempty
  | cons char chars =>
      have first := numeric char (.head _)
      have noNull : char ≠ 'n' := by
        rintro rfl
        exact absurd first (by decide)
      have noTrue : char ≠ 't' := by
        rintro rfl
        exact absurd first (by decide)
      have noFalse : char ≠ 'f' := by
        rintro rfl
        exact absurd first (by decide)
      simp [readWord, noNull, noTrue, noFalse]

theorem ScalarWord.of_number {value : JsonScalar}
    (nonempty : writeScalar writeFloat value ≠ [])
    (numeric : ∀ char ∈ writeScalar writeFloat value, isNumeric char)
    (read :
      readNumber readFloat (writeScalar writeFloat value) = some value) :
    ScalarWord writeFloat readFloat value where
  nonempty := nonempty
  word char member := by simp [isWordChar, numeric char member]
  read := (readWord_of_numeric nonempty numeric).trans read

theorem ScalarWord.integer (value : Int) :
    ScalarWord writeFloat readFloat (.integer value) := by
  refine .of_number (writeInteger_ne_nil value) ?_ ?_
  · intro char member
    rcases mem_writeInteger member with rfl | digit
    · decide
    · simp [isNumeric, digit]
  · rw [readNumber, writeScalar, readInteger_writeInteger]

theorem ScalarWord.float {value : Rat}
    (word : FloatWord writeFloat readFloat value) :
    ScalarWord writeFloat readFloat (.float value) := by
  refine .of_number ?_ word.numeric ?_
  · rcases word.fractional with member | member
    · exact List.ne_nil_of_mem member
    · exact List.ne_nil_of_mem member
  · have noInteger : readInteger (writeFloat value) = none := by
      rcases word.fractional with member | member
      · exact readInteger_eq_none member (by decide) (by decide)
      · exact readInteger_eq_none member (by decide) (by decide)
    rw [readNumber, writeScalar, noInteger, word.read]
    rfl

theorem ScalarWord.name {value : JsonScalar}
    (name : value = .null ∨ ∃ flag, value = .boolean flag) :
    ScalarWord writeFloat readFloat value := by
  rcases name with rfl | ⟨_ | _, rfl⟩
  all_goals exact ⟨by simp [writeScalar], by simp [writeScalar]; decide, rfl⟩

/-- The written forms of all scalars but the texts are words. -/
theorem scalarWord {value : JsonScalar}
    (floats : FloatWords writeFloat readFloat (.scalar value))
    (other : ∀ text, value ≠ .text text) :
    ScalarWord writeFloat readFloat value := by
  cases value with
  | null => exact .name (.inl rfl)
  | boolean flag => exact .name (.inr ⟨flag, rfl⟩)
  | integer value => exact .integer value
  | float value => exact .float (floats value .self)
  | text text => exact absurd rfl (other text)

/-! ## Cutting written documents into tokens -/

theorem FloatWords.item {items : List JsonTree} {child : JsonTree}
    (floats : FloatWords writeFloat readFloat (.array items))
    (member : child ∈ items) : FloatWords writeFloat readFloat child :=
  fun value inside => floats value (.item member inside)

theorem FloatWords.member {members : List (String × JsonTree)}
    {entry : String × JsonTree}
    (floats : FloatWords writeFloat readFloat (.object members))
    (member : entry ∈ members) : FloatWords writeFloat readFloat entry.2 :=
  fun value inside => floats value (.member member inside)

theorem tokenize_punctuation {char : Char} {token : JsonToken}
    (mark : Mode.outside.step char = some ([token], .outside))
    (rest : List Char) :
    tokenize .outside (char :: rest) =
      (tokenize .outside rest).map fun later => token :: later :=
  tokenize_cons mark rest

theorem tokenize_space (rest : List Char) :
    tokenize .outside (' ' :: rest) = tokenize .outside rest :=
  tokenize_cons_silent .outside (by decide) rest

theorem tokenize_comma (rest : List Char) :
    tokenize .outside ([',', ' '] ++ rest) =
      (tokenize .outside rest).map fun later => .comma :: later := by
  have comma : Mode.outside.step ',' = some ([.comma], .outside) := by decide
  rw [List.cons_append, tokenize_punctuation comma]
  exact congrArg _ (tokenize_space rest)

theorem tokenize_colon (rest : List Char) :
    tokenize .outside ([':', ' '] ++ rest) =
      (tokenize .outside rest).map fun later => .colon :: later := by
  have colon : Mode.outside.step ':' = some ([.colon], .outside) := by decide
  rw [List.cons_append, tokenize_punctuation colon]
  exact congrArg _ (tokenize_space rest)

/-- A text is cut into its tokens wherever a word ends behind it. -/
def Cuts (written : List Char) (found : List JsonToken) : Prop :=
  ∀ rest, WordEnd rest →
    tokenize .outside (written ++ rest) =
      (tokenize .outside rest).map fun later => found ++ later

/-- Texts with commas between them are cut into tokens one by one. -/
theorem Cuts.intercalate {written : List (List Char)}
    {found : List (List JsonToken)} (cuts : List.Forall₂ Cuts written found) :
    Cuts ([',', ' '].intercalate written) ([.comma].intercalate found) := by
  induction cuts with
  | nil =>
      intro rest ends
      simp
  | @cons first tokens written found cut cuts induction =>
      cases cuts with
      | nil => simpa using cut
      | cons cut' cuts =>
          intro rest ends
          rw [List.intercalate_cons_cons, List.intercalate_cons_cons,
            List.append_assoc, List.append_assoc,
            cut _ (by rintro _ ⟨⟩; decide), List.append_assoc, tokenize_comma,
            induction rest ends]
          simp [Function.comp_def]

theorem wordEnd_of_head {char : Char} (ends : isWordChar char = false)
    (rest : List Char) : WordEnd (char :: rest) := by
  rintro _ ⟨⟩
  exact ends

/-- Brackets around texts are tokens of their own. -/
theorem Cuts.bracket {written : List Char} {found : List JsonToken}
    (cuts : Cuts written found) {opening closing : Char}
    {openToken closeToken : JsonToken}
    (opens : Mode.outside.step opening = some ([openToken], .outside))
    (closes : Mode.outside.step closing = some ([closeToken], .outside))
    (ends : isWordChar closing = false) :
    Cuts (opening :: (written ++ [closing]))
      (openToken :: (found ++ [closeToken])) := by
  intro rest _
  rw [List.cons_append, tokenize_punctuation opens, List.append_assoc,
    List.singleton_append, cuts _ (wordEnd_of_head ends rest),
    tokenize_punctuation closes]
  simp [Function.comp_def]

theorem tokens_scalar {value : JsonScalar}
    (other : ¬∃ chars, value = .text chars) :
    tokens writeFloat (.scalar value) =
      [.word (writeScalar writeFloat value)] := by
  cases value with
  | text chars => exact absurd ⟨chars, rfl⟩ other
  | _ => rw [tokens]; rintro _ ⟨⟩

mutual

/-- A written document is cut into the tokens of its parts. -/
theorem cuts_write (tree : JsonTree)
    (floats : FloatWords writeFloat readFloat tree) :
    Cuts (write writeFloat tree) (tokens writeFloat tree) := by
  cases tree with
  | scalar value =>
      by_cases text : ∃ chars, value = .text chars
      · rcases text with ⟨chars, rfl⟩
        intro rest _
        rw [write, writeScalar, tokenize_writeText, tokens]
        rfl
      · have word := scalarWord floats fun chars same => text ⟨chars, same⟩
        intro rest ends
        rw [write, tokens_scalar text,
          tokenize_outside_word word.nonempty word.word ends]
        rfl
  | array items =>
      rw [write, tokens]
      exact (Cuts.intercalate (cuts_writeItems items fun child member =>
        floats.item member)).bracket (by decide) (by decide) (by decide)
  | object members =>
      rw [write, tokens]
      exact (Cuts.intercalate (cuts_writeMembers members fun entry member =>
        floats.member member)).bracket (by decide) (by decide) (by decide)

theorem cuts_writeItems (items : List JsonTree)
    (floats : ∀ child ∈ items, FloatWords writeFloat readFloat child) :
    List.Forall₂ Cuts (writeItems writeFloat items)
      (itemTokens writeFloat items) := by
  cases items with
  | nil => exact .nil
  | cons child rest =>
      exact .cons (cuts_write child (floats child (.head _)))
        (cuts_writeItems rest fun other member =>
          floats other (.tail _ member))

theorem cuts_writeMembers (members : List (String × JsonTree))
    (floats : ∀ entry ∈ members, FloatWords writeFloat readFloat entry.2) :
    List.Forall₂ Cuts (writeMembers writeFloat members)
      (memberTokens writeFloat members) := by
  cases members with
  | nil => exact .nil
  | cons entry rest =>
      rcases entry with ⟨name, child⟩
      refine .cons ?_ (cuts_writeMembers rest fun other member =>
        floats other (.tail _ member))
      intro after ends
      rw [List.append_assoc, List.append_assoc, tokenize_writeText,
        tokenize_colon, cuts_write child (floats _ (.head _)) after ends]
      simp [Function.comp_def]

end

/-! ## Reading the tokens of a document -/

/-- The first token of a document never closes an array. -/
theorem exists_tokens_eq_cons (tree : JsonTree) :
    ∃ token rest,
      tokens writeFloat tree = token :: rest ∧ token ≠ .closeArray := by
  cases tree with
  | scalar value =>
      cases value with
      | text chars => exact ⟨_, _, by rw [tokens], by simp⟩
      | null => exact ⟨_, _, by rw [tokens]; rintro _ ⟨⟩, by simp⟩
      | boolean flag => exact ⟨_, _, by rw [tokens]; rintro _ ⟨⟩, by simp⟩
      | integer value => exact ⟨_, _, by rw [tokens]; rintro _ ⟨⟩, by simp⟩
      | float value => exact ⟨_, _, by rw [tokens]; rintro _ ⟨⟩, by simp⟩
  | array items => exact ⟨_, _, by rw [tokens], by simp⟩
  | object members => exact ⟨_, _, by rw [tokens], by simp⟩

variable (writeFloat readFloat) in
/-- What a reader of values does with the tokens of a document. -/
def Reads (tree : JsonTree) : Prop :=
  ∀ fuel rest, (tokens writeFloat tree).length ≤ fuel →
    readValue readFloat fuel (tokens writeFloat tree ++ rest) =
      some (tree, rest)

theorem readItems_itemTokens {items : List JsonTree} (nonempty : items ≠ [])
    (reads : ∀ child ∈ items, Reads writeFloat readFloat child) {fuel : Nat}
    (enough :
      ([.comma].intercalate (itemTokens writeFloat items)).length < fuel)
    (rest : List JsonToken) :
    readItems readFloat fuel
        ([.comma].intercalate (itemTokens writeFloat items) ++
          .closeArray :: rest) =
      some (items, rest) := by
  induction items generalizing fuel with
  | nil => exact absurd rfl nonempty
  | cons child items induction =>
      rcases fuel with _ | fuel
      · omega
      have read := reads child (.head _)
      cases items with
      | nil =>
          simp only [itemTokens, List.intercalate_singleton] at enough ⊢
          rw [readItems, read _ _ (by omega)]
      | cons next items =>
          simp only [itemTokens, List.intercalate_cons_cons,
            List.length_append, List.length_cons, List.length_nil] at enough
          have later :=
            @induction (by simp) (fun other member =>
              reads other (.tail _ member)) fuel (by
                simp only [itemTokens]
                omega)
          simp only [itemTokens, List.intercalate_cons_cons,
            List.append_assoc, List.cons_append, List.nil_append] at later ⊢
          rw [readItems, read _ _ (by omega)]
          simp only
          rw [later]
          rfl

theorem readMembers_memberTokens {members : List (String × JsonTree)}
    (nonempty : members ≠ [])
    (reads : ∀ entry ∈ members, Reads writeFloat readFloat entry.2)
    {fuel : Nat}
    (enough :
      ([.comma].intercalate (memberTokens writeFloat members)).length < fuel)
    (rest : List JsonToken) :
    readMembers readFloat fuel
        ([.comma].intercalate (memberTokens writeFloat members) ++
          .closeObject :: rest) =
      some (members, rest) := by
  induction members generalizing fuel with
  | nil => exact absurd rfl nonempty
  | cons entry members induction =>
      rcases entry with ⟨name, child⟩
      rcases fuel with _ | fuel
      · omega
      have read : Reads writeFloat readFloat child :=
        reads (name, child) (.head _)
      cases members with
      | nil =>
          simp only [memberTokens, List.intercalate_singleton,
            List.length_cons] at enough ⊢
          rw [List.cons_append, List.cons_append, readMembers,
            read _ _ (by omega)]
          simp
      | cons next members =>
          rcases next with ⟨nextName, nextChild⟩
          simp only [memberTokens, List.intercalate_cons_cons,
            List.length_append, List.length_cons, List.length_nil] at enough
          have later :=
            @induction (by simp) (fun other member =>
              reads other (.tail _ member)) fuel (by
                simp only [memberTokens]
                omega)
          simp only [memberTokens, List.intercalate_cons_cons,
            List.append_assoc, List.cons_append, List.nil_append] at later ⊢
          rw [readMembers, read _ _ (by omega)]
          simp only
          rw [later]
          simp

/-- The items of an array are read when its first token closes nothing. -/
theorem readValue_openArray {fuel : Nat} {token : JsonToken}
    (other : token ≠ .closeArray) (rest : List JsonToken) :
    readValue readFloat (fuel + 1) (.openArray :: token :: rest) =
      (readItems readFloat fuel (token :: rest)).map fun result =>
        (.array result.1, result.2) := by
  rw [readValue]
  rintro _ ⟨⟩
  exact other rfl

theorem reads_scalar {value : JsonScalar}
    (floats : FloatWords writeFloat readFloat (.scalar value)) :
    Reads writeFloat readFloat (.scalar value) := by
  intro fuel rest enough
  by_cases text : ∃ chars, value = .text chars
  · rcases text with ⟨chars, rfl⟩
    rw [tokens, List.length_singleton] at enough
    rcases fuel with _ | fuel
    · omega
    · simp [tokens, readValue]
  · have word := scalarWord floats fun chars same => text ⟨chars, same⟩
    rw [tokens_scalar text, List.length_singleton] at enough
    rcases fuel with _ | fuel
    · omega
    · rw [tokens_scalar text, List.singleton_append, readValue, word.read]
      rfl

theorem reads_array {items : List JsonTree}
    (reads : ∀ child ∈ items, Reads writeFloat readFloat child) :
    Reads writeFloat readFloat (.array items) := by
  intro fuel rest enough
  simp only [tokens, List.length_cons, List.length_append,
    List.length_nil] at enough
  rcases fuel with _ | fuel
  · omega
  cases items with
  | nil => simp [tokens, itemTokens, readValue]
  | cons child items =>
      have later := @readItems_itemTokens _ _ _ (List.cons_ne_nil child items)
        reads fuel (by omega) rest
      rcases @exists_tokens_eq_cons writeFloat child with
        ⟨token, others, same, opens⟩
      rw [itemTokens, same, List.intercalate_cons_cons_left,
        List.cons_append] at later
      rw [tokens, itemTokens, same, List.intercalate_cons_cons_left,
        List.cons_append, List.cons_append, List.cons_append,
        List.append_assoc, List.singleton_append, readValue_openArray opens,
        later]
      rfl

theorem reads_object {members : List (String × JsonTree)}
    (reads : ∀ entry ∈ members, Reads writeFloat readFloat entry.2) :
    Reads writeFloat readFloat (.object members) := by
  intro fuel rest enough
  simp only [tokens, List.length_cons, List.length_append,
    List.length_nil] at enough
  rcases fuel with _ | fuel
  · omega
  cases members with
  | nil => simp [tokens, memberTokens, readValue]
  | cons entry members =>
      rcases entry with ⟨name, child⟩
      have later := @readMembers_memberTokens _ _ _
        (List.cons_ne_nil (name, child) members) reads fuel (by omega) rest
      rw [memberTokens, List.intercalate_cons_cons_left,
        List.cons_append] at later
      rw [tokens, memberTokens, List.intercalate_cons_cons_left,
        List.cons_append, List.cons_append, List.cons_append,
        List.append_assoc, List.singleton_append, readValue, later]
      · rfl
      · rintro _ ⟨⟩

mutual

/-- The tokens of a document are read as the document. -/
theorem reads_tokens (tree : JsonTree)
    (floats : FloatWords writeFloat readFloat tree) :
    Reads writeFloat readFloat tree := by
  cases tree with
  | scalar value => exact reads_scalar floats
  | array items =>
      exact reads_array (reads_itemTokens items fun child member =>
        floats.item member)
  | object members =>
      exact reads_object (reads_memberTokens members fun entry member =>
        floats.member member)

theorem reads_itemTokens (items : List JsonTree)
    (floats : ∀ child ∈ items, FloatWords writeFloat readFloat child) :
    ∀ child ∈ items, Reads writeFloat readFloat child := by
  cases items with
  | nil => exact List.forall_mem_nil _
  | cons child rest =>
      exact List.forall_mem_cons.mpr ⟨reads_tokens child (floats _ (.head _)),
        reads_itemTokens rest fun other member =>
          floats other (.tail _ member)⟩

theorem reads_memberTokens (members : List (String × JsonTree))
    (floats : ∀ entry ∈ members, FloatWords writeFloat readFloat entry.2) :
    ∀ entry ∈ members, Reads writeFloat readFloat entry.2 := by
  cases members with
  | nil => exact List.forall_mem_nil _
  | cons entry rest =>
      rcases entry with ⟨name, child⟩
      exact List.forall_mem_cons.mpr ⟨reads_tokens child (floats _ (.head _)),
        reads_memberTokens rest fun other member =>
          floats other (.tail _ member)⟩

end

/-- Reading inverts writing. -/
theorem readDocument_write {tree : JsonTree}
    (floats : FloatWords writeFloat readFloat tree) :
    readDocument readFloat (write writeFloat tree) = some tree := by
  have cut := cuts_write tree floats [] (by rintro _ ⟨⟩)
  have read := reads_tokens tree floats _ [] (Nat.le_refl _)
  rw [List.append_nil] at cut read
  rw [readDocument, cut, tokenize, Mode.finish, Option.map_some,
    List.append_nil, Option.bind_some, readTokens, read]

/-! ## The characters of written documents -/

/-- A character which is not a control character. -/
def Printable (char : Char) : Prop :=
  32 ≤ char.toNat

instance (char : Char) : Decidable (Printable char) :=
  inferInstanceAs (Decidable (32 ≤ char.toNat))

theorem printable_of_isWordChar {char : Char} (word : isWordChar char) :
    Printable char := by
  simp only [isWordChar, isNumeric, Char.isDigit, Bool.or_eq_true,
    Bool.and_eq_true, decide_eq_true_eq, UInt32.le_iff_toNat_le, ge_iff_le]
    at word
  rcases word with (((((digit | rfl) | rfl) | rfl) | rfl) | rfl) | letter
  case inl.inl.inl.inl.inl.inl => exact Nat.le_trans (by decide) digit.1
  case inr => exact Nat.le_trans (by decide) letter.1
  all_goals decide

theorem printable_digitChar :
    ∀ digit < 16, Printable (Nat.digitChar digit) := by
  decide

/-- No control character is left in a written character. -/
theorem printable_of_mem_escapeChar {char written : Char}
    (member : written ∈ escapeChar char) : Printable written := by
  have pair {first second : Char} (member : written ∈ [first, second])
      (printable : Printable first ∧ Printable second) :
      Printable written := by
    simp only [List.mem_cons, List.not_mem_nil, or_false] at member
    rcases member with rfl | rfl
    · exact printable.1
    · exact printable.2
  unfold escapeChar at member
  split at member
  · exact pair member (by decide)
  split at member
  · exact pair member (by decide)
  split at member
  · exact pair member (by decide)
  split at member
  · exact pair member (by decide)
  split at member
  · exact pair member (by decide)
  split at member
  · exact pair member (by decide)
  split at member
  · exact pair member (by decide)
  split at member
  · simp only [List.mem_cons, List.not_mem_nil, or_false] at member
    rcases member with rfl | rfl | rfl | rfl | rfl | rfl
    case inr.inr.inr.inr.inl => exact printable_digitChar _ (by omega)
    case inr.inr.inr.inr.inr => exact printable_digitChar _ (by omega)
    all_goals decide
  · next printable =>
      rw [List.mem_singleton.mp member]
      exact Nat.le_of_not_lt printable

theorem printable_of_mem_writeText {chars : List Char} {char : Char}
    (member : char ∈ writeText chars) : Printable char := by
  simp only [writeText, List.mem_cons, List.mem_append, List.mem_flatMap,
    List.not_mem_nil, or_false] at member
  rcases member with rfl | ⟨original, _, written⟩ | rfl
  · decide
  · exact printable_of_mem_escapeChar written
  · decide

theorem printable_of_mem_intercalate {written : List (List Char)}
    (all : ∀ part ∈ written, ∀ char ∈ part, Printable char) {char : Char}
    (member : char ∈ [',', ' '].intercalate written) : Printable char := by
  rcases mem_intercalate member with joint | ⟨part, among, member⟩
  · simp only [List.mem_cons, List.not_mem_nil, or_false] at joint
    rcases joint with rfl | rfl
    all_goals decide
  · exact all part among char member

mutual

/-- A written document has no control characters, so it is a single line. -/
theorem printable_of_mem_write (tree : JsonTree)
    (floats : FloatWords writeFloat readFloat tree) {char : Char}
    (member : char ∈ write writeFloat tree) : Printable char := by
  cases tree with
  | scalar value =>
      rw [write] at member
      by_cases text : ∃ chars, value = .text chars
      · rcases text with ⟨chars, rfl⟩
        exact printable_of_mem_writeText member
      · have word := scalarWord floats fun chars same => text ⟨chars, same⟩
        exact printable_of_isWordChar (word.word char member)
  | array items =>
      simp only [write, List.mem_cons, List.mem_append, List.not_mem_nil,
        or_false] at member
      rcases member with rfl | member | rfl
      · decide
      · exact printable_of_mem_intercalate
          (printable_of_mem_writeItems items fun child among =>
            floats.item among) member
      · decide
  | object members =>
      simp only [write, List.mem_cons, List.mem_append, List.not_mem_nil,
        or_false] at member
      rcases member with rfl | member | rfl
      · decide
      · exact printable_of_mem_intercalate
          (printable_of_mem_writeMembers members fun entry among =>
            floats.member among) member
      · decide

theorem printable_of_mem_writeItems (items : List JsonTree)
    (floats : ∀ child ∈ items, FloatWords writeFloat readFloat child) :
    ∀ part ∈ writeItems writeFloat items, ∀ char ∈ part, Printable char := by
  cases items with
  | nil => exact List.forall_mem_nil _
  | cons child rest =>
      exact List.forall_mem_cons.mpr
        ⟨fun _ member =>
          printable_of_mem_write child (floats _ (.head _)) member,
          printable_of_mem_writeItems rest fun other among =>
            floats other (.tail _ among)⟩

theorem printable_of_mem_writeMembers (members : List (String × JsonTree))
    (floats : ∀ entry ∈ members, FloatWords writeFloat readFloat entry.2) :
    ∀ part ∈ writeMembers writeFloat members,
      ∀ char ∈ part, Printable char := by
  cases members with
  | nil => exact List.forall_mem_nil _
  | cons entry rest =>
      rcases entry with ⟨name, child⟩
      refine List.forall_mem_cons.mpr ⟨?_,
        printable_of_mem_writeMembers rest fun other among =>
          floats other (.tail _ among)⟩
      intro char member
      simp only [List.mem_append, List.mem_cons, List.not_mem_nil,
        or_false] at member
      rcases member with (name | rfl | rfl) | value
      · exact printable_of_mem_writeText name
      · decide
      · decide
      · exact printable_of_mem_write child (floats _ (.head _)) value

end

/-! ## One document on each line -/

theorem closedLines_line {line : List Char} (single : '\n' ∉ line)
    (start rest : List Char) :
    closedLines start (line ++ '\n' :: rest) =
      (closedLines [] rest).map fun lines => (start ++ line) :: lines := by
  induction line generalizing start with
  | nil => simp [closedLines]
  | cons char line induction =>
      rw [List.mem_cons, not_or] at single
      rw [List.cons_append, closedLines, if_neg (Ne.symm single.1),
        induction single.2, List.append_assoc]
      rfl

theorem closedLines_append {text : List Char} {start : List Char}
    {lines : List (List Char)}
    (closed : closedLines start text = some lines) (rest : List Char) :
    closedLines start (text ++ rest) =
      (closedLines [] rest).map fun later => lines ++ later := by
  induction text generalizing start lines with
  | nil =>
      rw [closedLines] at closed
      split at closed
      · next empty =>
          cases closed
          subst empty
          exact Option.map_id'.symm
      · cases closed
  | cons char text induction =>
      rw [closedLines] at closed
      rw [List.cons_append, closedLines]
      by_cases ends : char = '\n'
      · rw [if_pos ends] at closed ⊢
        rcases Option.map_eq_some_iff.mp closed with ⟨others, found, rfl⟩
        rw [induction found, Option.map_map]
        rfl
      · rw [if_neg ends] at closed ⊢
        exact induction closed

/-- A text stays readable when a document is written on a new line. -/
theorem readLines_append_write {text : List Char} {earlier : List JsonTree}
    (read : readLines readFloat text = some earlier) {tree : JsonTree}
    (floats : FloatWords writeFloat readFloat tree) :
    readLines readFloat (text ++ (write writeFloat tree ++ ['\n'])) =
      some (earlier ++ [tree]) := by
  have single : '\n' ∉ write writeFloat tree := fun member =>
    absurd (printable_of_mem_write tree floats member) (by decide)
  rcases Option.bind_eq_some_iff.mp read with ⟨lines, closed, each⟩
  rw [readLines, closedLines_append closed, closedLines_line single,
    closedLines, if_pos rfl, Option.map_some, Option.map_some,
    Option.bind_some, List.mapM_append, each]
  simp [readDocument_write floats]

end Documents

end JsonText

end FastapiCore.Library
