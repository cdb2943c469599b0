import FastapiCore.IntegerText
import FastapiCore.Library.SeparatedText

/-!
# Settings which are lists

Three fields of `AppConfig` are lists of names, written between commas, and
one is a list of such lists, written between semicolons.  White space around
an item and items or groups without anything in them do not count.  `CsvText`
and `AlternativesText` are the two formats: a text is parsed as the values in
whose format it is, and as no others.

The environment source turns an empty text into an empty list before the field
validator sees it, since the validator rejects blank texts.
-/

namespace FastapiCore

open Library

/-! ## The parsers -/

/-- `text.strip()`. -/
def strip (text : String) : String :=
  String.ofList (stripSpaces text.toList)

/-- `_CSV_LIST_FIELDS`. -/
def csvListFields : List Name :=
  ["cors_origins", "enabled_services", "required_services"]

/-- `_parse_csv_env(raw)`. -/
def parseCsvEnv (raw : String) : List String :=
  ((split ',' raw).filter fun value => strip value ≠ "").map strip

/-- What a settings source hands to a field, and a validator passes on. -/
inductive SettingValue where
  | pyNone
  | text (value : String)
  | names (items : List Name)
  | groups (groups : List (List Name))
  | other (object : PyObject)
deriving DecidableEq, Repr

/-- `AppConfig._parse_csv_or_sequence(value)`. -/
def parseCsvOrSequence : SettingValue → Except PyExc SettingValue
  | .text value =>
      if strip value = "" then
        .error
          (PyExc.valueError
            "empty strings are only supported through environment variables")
      else .ok (.names (parseCsvEnv value))
  | value => .ok value

/-- `AppConfig._parse_service_alternatives(value)`. -/
def parseServiceAlternatives : SettingValue → SettingValue
  | .pyNone => .groups []
  | .text value =>
      if value = "" then .groups []
      else
        .groups
          (((split ';' value).map parseCsvEnv).filter
            fun services => services ≠ [])
  | value => value

/--
`_AppEnvSettingsSource.prepare_field_value`, where `inherited` is the method
of the superclass.
-/
def prepareFieldValue
    (inherited : SettingValue → Except PyExc SettingValue)
    (fieldName : Name) (value : SettingValue) :
    Except PyExc SettingValue :=
  if fieldName ∈ csvListFields ∧ value = .text "" then .ok (.names [])
  else inherited value

/-- The field validators of `AppConfig` with `mode="before"`. -/
def validateBefore (fieldName : Name) (value : SettingValue) :
    Except PyExc SettingValue :=
  if fieldName ∈ csvListFields then parseCsvOrSequence value
  else if fieldName = "service_alternatives" then
    .ok (parseServiceAlternatives value)
  else .ok value

/-- The value of a field whose environment variable is set. -/
def readEnvironmentField
    (inherited : SettingValue → Except PyExc SettingValue)
    (fieldName : Name) (raw : String) : Except PyExc SettingValue := do
  let prepared ← prepareFieldValue inherited fieldName (.text raw)
  validateBefore fieldName prepared

/-! ## The textual format -/

/-- An item with white space around it. -/
def Pads (item segment : String) : Prop :=
  ∃ before after,
    isBlank before = true ∧ isBlank after = true ∧
      segment = before ++ item ++ after

/-- Items joined by commas, padded and with blank items among them. -/
def CsvText (items : List String) (text : String) : Prop :=
  ∃ segments,
    Interspersed Pads (fun segment => isBlank segment = true) items
        segments ∧
      text = ",".intercalate segments

/-- Groups joined by semicolons, with groups of blank items among them. -/
def AlternativesText (groups : List (List String)) (text : String) : Prop :=
  ∃ segments,
    Interspersed CsvText (CsvText []) groups segments ∧
      text = ";".intercalate segments

/-- A string which can be an item of a list setting. -/
structure IsItem (item : String) : Prop where
  nonempty : item ≠ ""
  trimmed : strip item = item
  noComma : ',' ∉ item.toList

/-- A list of items which can be a group of alternatives. -/
structure IsGroup (group : List String) : Prop where
  nonempty : group ≠ []
  items : ∀ item ∈ group, IsItem item
  noSemicolon : ∀ item ∈ group, ';' ∉ item.toList

theorem isItem_iff {item : String} :
    IsItem item ↔ item ≠ "" ∧ strip item = item ∧ ',' ∉ item.toList :=
  ⟨fun isItem => ⟨isItem.nonempty, isItem.trimmed, isItem.noComma⟩,
    fun ⟨nonempty, trimmed, noComma⟩ => ⟨nonempty, trimmed, noComma⟩⟩

theorem isGroup_iff {group : List String} :
    IsGroup group ↔
      group ≠ [] ∧ (∀ item ∈ group, IsItem item) ∧
        ∀ item ∈ group, ';' ∉ item.toList :=
  ⟨fun isGroup => ⟨isGroup.nonempty, isGroup.items, isGroup.noSemicolon⟩,
    fun ⟨nonempty, items, noSemicolon⟩ => ⟨nonempty, items, noSemicolon⟩⟩

instance (item : String) : Decidable (IsItem item) :=
  decidable_of_iff' _ isItem_iff

instance (group : List String) : Decidable (IsGroup group) :=
  decidable_of_iff' _ isGroup_iff

/-! ## White space -/

theorem isBlank_iff {text : String} :
    isBlank text = true ↔ ∀ char ∈ text.toList, isSpace char = true := by
  rw [isBlank, List.all_eq_true]

@[simp]
theorem strip_strip (text : String) : strip (strip text) = strip text := by
  rw [strip, strip, String.toList_ofList]
  exact congrArg String.ofList (trim_trim text.toList)

/-- `not text.strip()` is `isBlank text`. -/
theorem strip_eq_empty_iff {text : String} :
    strip text = "" ↔ isBlank text = true := by
  rw [strip, isBlank_iff, ← String.toList_inj, String.toList_ofList]
  exact trim_eq_nil_iff

theorem mem_of_mem_strip {text : String} {char : Char}
    (member : char ∈ (strip text).toList) : char ∈ text.toList := by
  rw [strip, String.toList_ofList] at member
  exact mem_of_mem_trim member

/-- Stripping removes exactly the padding of an item. -/
theorem Pads.strip_eq {item segment : String} (pads : Pads item segment)
    (trimmed : strip item = item) : strip segment = item := by
  rcases pads with ⟨before, after, left, right, rfl⟩
  have unpadded := @trim_padding Char isSpace before.toList item.toList
    after.toList (isBlank_iff.mp left) (isBlank_iff.mp right)
  calc
    strip (before ++ item ++ after) = strip item := by
      rw [strip, String.toList_append, String.toList_append]
      exact congrArg String.ofList unpadded
    _ = item := trimmed

theorem pads_self (item : String) : Pads item item :=
  ⟨"", "", rfl, rfl, by simp⟩

/-- A character which is no space occurs in padding only if in the item. -/
theorem Pads.not_mem {item segment : String} {char : Char}
    (pads : Pads item segment) (visible : isSpace char = false)
    (absent : char ∉ item.toList) : char ∉ segment.toList := by
  rcases pads with ⟨before, after, left, right, rfl⟩
  rw [String.toList_append, String.toList_append]
  intro member
  rcases List.mem_append.mp member with inFront | inAfter
  · rcases List.mem_append.mp inFront with inBefore | inItem
    · simp [isBlank_iff.mp left char inBefore] at visible
    · exact absent inItem
  · simp [isBlank_iff.mp right char inAfter] at visible

theorem not_mem_of_isBlank {text : String} {char : Char}
    (blank : isBlank text = true) (visible : isSpace char = false) :
    char ∉ text.toList := by
  intro member
  simp [isBlank_iff.mp blank char member] at visible

/-! ## Items between commas -/

theorem parseCsvEnv_eq (raw : String) :
    parseCsvEnv raw =
      readSegments ',' strip (fun item => decide (item ≠ "")) raw := by
  rw [readSegments, List.filter_map]
  rfl

/-- A text of items in their format is parsed as these items. -/
theorem parseCsvEnv_of_csvText {items : List String} {text : String}
    (all : ∀ item ∈ items, IsItem item) (written : CsvText items text) :
    parseCsvEnv text = items := by
  rcases written with ⟨segments, interspersed, rfl⟩
  rw [parseCsvEnv_eq]
  refine readSegments_intercalate rfl interspersed ?_ ?_ rfl
  · intro item member
    have isItem := all item member
    refine ⟨by simp [isItem.nonempty], fun segment pads => ?_⟩
    exact
      ⟨pads.strip_eq isItem.trimmed, pads.not_mem rfl isItem.noComma⟩
  · intro segment blank
    exact
      ⟨by simp [strip_eq_empty_iff.mpr blank],
        not_mem_of_isBlank blank rfl⟩

/-- Every parsed item could have been written as it is. -/
theorem isItem_of_mem_parseCsvEnv {raw item : String}
    (member : item ∈ parseCsvEnv raw) : IsItem item := by
  rw [parseCsvEnv_eq] at member
  rcases mem_readSegments member with ⟨kept, segment, inSplit, rfl⟩
  constructor
  case nonempty => simpa using kept
  case trimmed => exact strip_strip segment
  case noComma =>
    exact fun comma => (mem_split inSplit).1 (mem_of_mem_strip comma)

theorem mem_of_mem_parseCsvEnv {raw item : String}
    (member : item ∈ parseCsvEnv raw) {char : Char}
    (inside : char ∈ item.toList) : char ∈ raw.toList := by
  rw [parseCsvEnv_eq] at member
  rcases mem_readSegments member with ⟨-, segment, inSplit, rfl⟩
  exact (mem_split inSplit).2 char (mem_of_mem_strip inside)

/-- Items joined by commas alone are in the format. -/
theorem csvText_intercalate (items : List String) :
    CsvText items (",".intercalate items) := by
  refine ⟨items, ?_, rfl⟩
  have written :=
    @Interspersed.map String String Pads
      (fun segment => isBlank segment = true) items id
      fun item _ => pads_self item
  rwa [List.map_id] at written

theorem pads_strip (segment : String) : Pads (strip segment) segment := by
  rcases exists_padding isSpace segment.toList with
    ⟨before, after, left, right, parts⟩
  refine ⟨String.ofList before, String.ofList after, ?_, ?_, ?_⟩
  · rw [isBlank_iff, String.toList_ofList]
    exact left
  · rw [isBlank_iff, String.toList_ofList]
    exact right
  · rw [← String.toList_inj, String.toList_append, String.toList_append,
      String.toList_ofList, String.toList_ofList, strip,
      String.toList_ofList]
    exact parts

/-- Every text is in the format of the items which are parsed from it. -/
theorem csvText_parseCsvEnv (raw : String) :
    CsvText (parseCsvEnv raw) raw := by
  refine ⟨split ',' raw, ?_, (intercalate_split rfl raw).symm⟩
  rw [parseCsvEnv_eq]
  apply Interspersed.of_read
  · intro segment _ _
    exact pads_strip segment
  · intro segment _ dropped
    exact strip_eq_empty_iff.mp (by simpa using dropped)

/-- The items of a text are those in whose format it is. -/
theorem parseCsvEnv_eq_iff {raw : String} {items : List String} :
    parseCsvEnv raw = items ↔
      (∀ item ∈ items, IsItem item) ∧ CsvText items raw := by
  constructor
  · rintro rfl
    exact
      ⟨fun item member => isItem_of_mem_parseCsvEnv member,
        csvText_parseCsvEnv raw⟩
  · rintro ⟨all, written⟩
    exact parseCsvEnv_of_csvText all written

/-! ## Groups between semicolons -/

/-- The format adds only spaces and commas to the items. -/
theorem CsvText.not_mem {items : List String} {text : String} {char : Char}
    (written : CsvText items text) (visible : isSpace char = false)
    (noComma : char ≠ ',') (absent : ∀ item ∈ items, char ∉ item.toList) :
    char ∉ text.toList := by
  rcases written with ⟨segments, interspersed, rfl⟩
  have free : ∀ segment ∈ segments, char ∉ segment.toList :=
    interspersed.forall_mem
      (fun item member segment pads =>
        pads.not_mem visible (absent item member))
      fun segment blank => not_mem_of_isBlank blank visible
  rw [String.toList_intercalate]
  intro member
  rcases mem_intercalate member with inComma | ⟨chars, inSegments, inside⟩
  · exact noComma (List.mem_singleton.mp inComma)
  · rcases List.mem_map.mp inSegments with ⟨segment, found, rfl⟩
    exact free segment found inside

theorem parseServiceAlternatives_text (text : String) :
    parseServiceAlternatives (.text text) =
      .groups
        (readSegments ';' parseCsvEnv
          (fun services => decide (services ≠ [])) text) := by
  rw [parseServiceAlternatives]
  split
  · next empty =>
      subst empty
      rfl
  · rfl

/-- A text of groups in their format is parsed as these groups. -/
theorem parseServiceAlternatives_of_alternativesText
    {groups : List (List String)} {text : String}
    (all : ∀ group ∈ groups, IsGroup group)
    (written : AlternativesText groups text) :
    parseServiceAlternatives (.text text) = .groups groups := by
  rcases written with ⟨segments, interspersed, rfl⟩
  rw [parseServiceAlternatives_text]
  apply congrArg SettingValue.groups
  refine readSegments_intercalate rfl interspersed ?_ ?_ rfl
  · intro group member
    have isGroup := all group member
    refine ⟨by simp [isGroup.nonempty], fun segment inFormat => ?_⟩
    exact
      ⟨parseCsvEnv_of_csvText isGroup.items inFormat,
        inFormat.not_mem rfl (by decide) isGroup.noSemicolon⟩
  · intro segment inFormat
    have none : parseCsvEnv segment = [] :=
      parseCsvEnv_of_csvText (by simp) inFormat
    exact ⟨by simp [none], inFormat.not_mem rfl (by decide) (by simp)⟩

/-- Every parsed group could have been written as it is. -/
theorem isGroup_of_mem {text : String} {group : List String}
    (member :
      group ∈
        readSegments ';' parseCsvEnv
          (fun services => decide (services ≠ [])) text) :
    IsGroup group := by
  rcases mem_readSegments member with ⟨kept, segment, inSplit, rfl⟩
  constructor
  case nonempty => simpa using kept
  case items => exact fun item inside => isItem_of_mem_parseCsvEnv inside
  case noSemicolon =>
    intro item inside semicolon
    exact (mem_split inSplit).1 (mem_of_mem_parseCsvEnv inside semicolon)

/-- The groups of a text are those in whose format it is. -/
theorem parseServiceAlternatives_eq_iff {text : String}
    {groups : List (List String)} :
    parseServiceAlternatives (.text text) = .groups groups ↔
      (∀ group ∈ groups, IsGroup group) ∧ AlternativesText groups text := by
  constructor
  · rw [parseServiceAlternatives_text, SettingValue.groups.injEq]
    rintro rfl
    refine
      ⟨fun group member => isGroup_of_mem member,
        split ';' text, ?_, (intercalate_split rfl text).symm⟩
    apply Interspersed.of_read
    · intro segment _ _
      exact csvText_parseCsvEnv segment
    · intro segment _ dropped
      have none : parseCsvEnv segment = [] := by simpa using dropped
      rw [← none]
      exact csvText_parseCsvEnv segment
  · rintro ⟨all, written⟩
    exact parseServiceAlternatives_of_alternativesText all written

theorem alternativesText_intercalate (groups : List (List String)) :
    AlternativesText groups
      (";".intercalate (groups.map fun group => ",".intercalate group)) :=
  ⟨_, Interspersed.map fun group _ => csvText_intercalate group, rfl⟩

/-! ## The environment -/

/-- An empty variable gives an empty list, whatever the superclass does. -/
theorem readEnvironmentField_empty
    (inherited : SettingValue → Except PyExc SettingValue)
    {fieldName : Name} (isCsv : fieldName ∈ csvListFields) :
    readEnvironmentField inherited fieldName "" = .ok (.names []) := by
  rw [readEnvironmentField, prepareFieldValue, if_pos ⟨isCsv, rfl⟩]
  exact if_pos isCsv

/-- A text which the superclass does not decode is parsed unless blank. -/
theorem readEnvironmentField_csv
    {inherited : SettingValue → Except PyExc SettingValue}
    {fieldName : Name} {raw : String}
    (isCsv : fieldName ∈ csvListFields)
    (undecoded : inherited (.text raw) = .ok (.text raw)) :
    readEnvironmentField inherited fieldName raw =
      if isBlank raw = true ∧ raw ≠ "" then
        .error
          (PyExc.valueError
            "empty strings are only supported through environment variables")
      else .ok (.names (parseCsvEnv raw)) := by
  by_cases empty : raw = ""
  · subst empty
    rw [readEnvironmentField_empty inherited isCsv,
      if_neg fun both => both.2 rfl]
    rfl
  · rw [readEnvironmentField, prepareFieldValue,
      if_neg fun both => empty (SettingValue.text.inj both.2), undecoded]
    change validateBefore fieldName (.text raw) = _
    simp only [validateBefore, if_pos isCsv, parseCsvOrSequence,
      strip_eq_empty_iff, ne_eq, empty, not_false_eq_true, and_true]

/-- The groups of alternatives are parsed from a text which is not decoded. -/
theorem readEnvironmentField_alternatives
    {inherited : SettingValue → Except PyExc SettingValue} {raw : String}
    (undecoded : inherited (.text raw) = .ok (.text raw)) :
    readEnvironmentField inherited "service_alternatives" raw =
      .ok (parseServiceAlternatives (.text raw)) := by
  rw [readEnvironmentField, prepareFieldValue,
    if_neg fun both => absurd both.1 (by decide), undecoded]
  rfl

/--
How a variable with this text is read: as exactly the values in whose format
the text is.  A list of names is refused if its text is blank but not empty.
-/
structure ReadsFormat
    (inherited : SettingValue → Except PyExc SettingValue)
    (raw : String) : Prop where
  csv :
    ∀ fieldName ∈ csvListFields, ∀ value,
      readEnvironmentField inherited fieldName raw = .ok value ↔
        (isBlank raw = true → raw = "") ∧
          ∃ items, value = .names items ∧
            (∀ item ∈ items, IsItem item) ∧ CsvText items raw
  refused :
    ∀ fieldName ∈ csvListFields,
      (∃ exception,
          readEnvironmentField inherited fieldName raw =
            .error exception) ↔
        isBlank raw = true ∧ raw ≠ ""
  alternatives :
    ∀ value,
      readEnvironmentField inherited "service_alternatives" raw =
          .ok value ↔
        ∃ groups, value = .groups groups ∧
          (∀ group ∈ groups, IsGroup group) ∧ AlternativesText groups raw
  total :
    ∃ groups,
      readEnvironmentField inherited "service_alternatives" raw =
        .ok (.groups groups)

/--
Every text of an environment variable which the superclass does not decode is
read as the one value in whose format it is.
-/
theorem readEnvironmentField_readsFormat
    {inherited : SettingValue → Except PyExc SettingValue} {raw : String}
    (undecoded : inherited (.text raw) = .ok (.text raw)) :
    ReadsFormat inherited raw := by
  have grouped := parseServiceAlternatives_text raw
  constructor
  case csv =>
    intro fieldName isCsv value
    rw [readEnvironmentField_csv isCsv undecoded]
    split
    · next blank =>
        constructor
        · rintro ⟨⟩
        · rintro ⟨visible, -⟩
          exact absurd (visible blank.1) blank.2
    · next visible =>
        rw [Except.ok.injEq]
        constructor
        · rintro rfl
          rw [not_and_not_right] at visible
          exact ⟨visible, _, rfl, parseCsvEnv_eq_iff.mp rfl⟩
        · rintro ⟨-, items, rfl, written⟩
          rw [parseCsvEnv_eq_iff.mpr written]
  case refused =>
    intro fieldName isCsv
    rw [readEnvironmentField_csv isCsv undecoded]
    split
    · next blank => exact iff_of_true ⟨_, rfl⟩ blank
    · next visible => exact iff_of_false (by rintro ⟨_, ⟨⟩⟩) visible
  case alternatives =>
    intro value
    rw [readEnvironmentField_alternatives undecoded, Except.ok.injEq]
    constructor
    · rintro rfl
      exact ⟨_, grouped, parseServiceAlternatives_eq_iff.mp grouped⟩
    · rintro ⟨groups, rfl, written⟩
      exact parseServiceAlternatives_eq_iff.mpr written
  case total =>
    exact
      ⟨_, (readEnvironmentField_alternatives undecoded).trans
        (congrArg Except.ok grouped)⟩

/-- Two services, with a blank item between them. -/
theorem readsFormat_enabledServices :
    readEnvironmentField .ok "enabled_services" " postgres,, redis" =
      .ok (.names ["postgres", "redis"]) := by
  have reads : ReadsFormat .ok " postgres,, redis" :=
    readEnvironmentField_readsFormat rfl
  refine (reads.csv "enabled_services" (by decide) _).mpr ?_
  refine ⟨by decide, _, rfl, by decide, [" postgres", "", " redis"], ?_, rfl⟩
  exact
    .value ⟨" ", "", rfl, rfl, rfl⟩
      (.blank rfl (.value ⟨" ", "", rfl, rfl, rfl⟩ .nil))

/--
List settings parse exactly their textual format: what is written in the
format is read back, and what is read is a normal form of the text.
-/
theorem list_settings_parse_their_format :
    (∀ items text, (∀ item ∈ items, IsItem item) → CsvText items text →
      parseCsvEnv text = items) ∧
    (∀ groups text, (∀ group ∈ groups, IsGroup group) →
      AlternativesText groups text →
        parseServiceAlternatives (.text text) = .groups groups) ∧
    (∀ raw, (∀ item ∈ parseCsvEnv raw, IsItem item) ∧
      parseCsvEnv (",".intercalate (parseCsvEnv raw)) =
        parseCsvEnv raw) ∧
    (∀ raw, ∃ groups,
      parseServiceAlternatives (.text raw) = .groups groups ∧
        (∀ group ∈ groups, IsGroup group) ∧
        parseServiceAlternatives
            (.text
              (";".intercalate
                (groups.map fun group => ",".intercalate group))) =
          .groups groups) ∧
    (∀ inherited, ∀ fieldName ∈ csvListFields,
      readEnvironmentField inherited fieldName "" = .ok (.names [])) := by
  refine ⟨?csv, ?alternatives, ?csvNormal, ?alternativesNormal, ?empty⟩
  case csv =>
    intro items text all written
    exact parseCsvEnv_of_csvText all written
  case alternatives =>
    intro groups text all written
    exact parseServiceAlternatives_of_alternativesText all written
  case csvNormal =>
    intro raw
    have all : ∀ item ∈ parseCsvEnv raw, IsItem item :=
      fun item member => isItem_of_mem_parseCsvEnv member
    exact ⟨all, parseCsvEnv_of_csvText all (csvText_intercalate _)⟩
  case alternativesNormal =>
    intro raw
    have all :
        ∀ group ∈ readSegments ';' parseCsvEnv
            (fun services => decide (services ≠ [])) raw,
          IsGroup group :=
      fun group member => isGroup_of_mem member
    exact
      ⟨_, parseServiceAlternatives_text raw, all,
        parseServiceAlternatives_of_alternativesText all
          (alternativesText_intercalate _)⟩
  case empty =>
    intro inherited fieldName isCsv
    exact readEnvironmentField_empty inherited isCsv

/-- Two groups, with a blank item in the first and a blank group between. -/
theorem list_settings_parse_two_groups :
    parseServiceAlternatives (.text " a,,b ; ,;c") =
      .groups [["a", "b"], ["c"]] := by
  have first : CsvText ["a", "b"] " a,,b " :=
    ⟨[" a", "", "b "],
      .value ⟨" ", "", rfl, rfl, rfl⟩
        (.blank rfl (.value ⟨"", " ", rfl, rfl, rfl⟩ .nil)),
      rfl⟩
  have between : CsvText [] " ," :=
    ⟨[" ", ""], .blank rfl (.blank rfl .nil), rfl⟩
  have last : CsvText ["c"] "c" :=
    ⟨["c"], .value (pads_self "c") .nil, rfl⟩
  exact
    list_settings_parse_their_format.2.1 [["a", "b"], ["c"]]
      " a,,b ; ,;c" (by decide)
      ⟨[" a,,b ", " ,", "c"],
        .value first (.blank between (.value last .nil)), rfl⟩

end FastapiCore
