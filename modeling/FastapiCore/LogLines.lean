import FastapiCore.Library.JsonMeaning
import FastapiCore.Library.JsonText

/-!
# Log records as lines of JSON

`JsonLogFormatter.format` writes a record as one JSON object with sorted
members, and a handler ends every record with a line feed.  A stream may
refuse a line which it cannot encode, and then the record is lost.  The file
is read back as the records whose lines were written, one document a line,
and two records are written alike exactly when they agree on what the
formatter reads of them.
-/

namespace FastapiCore

open Library Library.JsonTree

/-! ## Records -/

/--
What the formatter reads of a record.  An attribute which the record lacks is
`null`; the exception is the text of `formatException`, for a record with an
`exc_info`.
-/
structure FormattedRecord where
  formatTime : String
  name : String
  levelname : String
  getMessage : String
  functionEvent : JsonTree := .scalar .null
  event : JsonTree := .scalar .null
  formatException : Option String := none

namespace FormattedRecord

/-- `value in (None, "-")`. -/
def noneOrDash : JsonTree → Bool
  | .scalar .null => true
  | .scalar (.text value) => value = "-"
  | _ => false

/-- `value is None`. -/
def isNone : JsonTree → Bool
  | .scalar .null => true
  | _ => false

variable (record : FormattedRecord)

/-- The function event of the payload, if it has one. -/
def shownFunctionEvent : Option JsonTree :=
  if noneOrDash record.functionEvent then none else some record.functionEvent

/-- The event of the payload, if it has one. -/
def shownEvent : Option JsonTree :=
  if isNone record.event then none else some record.event

/-- The payload of a record, in the order in which it is filled. -/
def payload : List (String × JsonTree) :=
  [ ("timestamp", .text record.formatTime),
    ("logger", .text record.name),
    ("level", .text record.levelname),
    ("message", .text record.getMessage) ] ++
  (record.shownFunctionEvent.map (Prod.mk "function_event")).toList ++
  (record.shownEvent.map (Prod.mk "event")).toList ++
  (record.formatException.map fun text =>
    ("exception", JsonTree.text text)).toList

end FormattedRecord

/-! ## Formatting -/

section Formatter

variable (floatRepr : Rat → List Char)

/-- `json.dumps(value, ensure_ascii=False, sort_keys=True)`. -/
def dumps (value : JsonTree) : List Char :=
  JsonText.write floatRepr value.sorted

/-- `JsonLogFormatter.format`. -/
def JsonLogFormatter.format (record : FormattedRecord) : List Char :=
  dumps floatRepr (.object record.payload)

/--
A handler of the root logger, with what it has written.  The stream takes a
text or refuses it as a whole, as one with a strict encoding does.
-/
structure LogHandler where
  accepts : FormattedRecord → Bool
  format : FormattedRecord → List Char
  encodes : List Char → Bool
  stream : List Char := []

/-- The settings of the log. -/
structure LogConfig where
  logLevel : Option String := some "WARNING"
  logPath : Option String := none
  logJson : Bool := true
  logForce : Bool := false

/--
`configure_application_logging`: the handlers of the root logger which
`configure_logging` sets up, with the formatter on each of them.
-/
def configureApplicationLogging
    (configureLogging :
      Option String → Option String → Bool → List LogHandler)
    (config : LogConfig) : List LogHandler :=
  let handlers :=
    configureLogging config.logLevel config.logPath config.logForce
  if config.logJson then
    handlers.map fun handler =>
      { handler with format := JsonLogFormatter.format floatRepr }
  else handlers

/-- The record with its terminator. -/
def LogHandler.line (handler : LogHandler) (record : FormattedRecord) :
    List Char :=
  handler.format record ++ ['\n']

/-- The handler accepts the record, and the stream its line. -/
def LogHandler.writes (handler : LogHandler) (record : FormattedRecord) :
    Bool :=
  handler.accepts record && handler.encodes (handler.line record)

/--
`handler.handle(record)`.  The error of a stream which refuses the line goes
to `handleError`, and the record is lost.
-/
def LogHandler.handle (handler : LogHandler) (record : FormattedRecord) :
    LogHandler :=
  if handler.writes record then
    { handler with stream := handler.stream ++ handler.line record }
  else handler

end Formatter

/-! ## Reading a log -/

section Reading

variable {floatRepr : Rat → List Char} {readFloat : List Char → Option Rat}

namespace FormattedRecord

/-- What a line of JSON says about a record. -/
def document (record : FormattedRecord) : JsonTree :=
  sorted (.object record.payload)

variable (floatRepr readFloat) in
/-- A value which a Python dictionary or text can hold. -/
structure Serializable (value : JsonTree) : Prop where
  floats : JsonText.FloatWords floatRepr readFloat value
  named : WellNamed value

variable (floatRepr readFloat) in
/-- The structured data of a record can be written. -/
def Loggable (record : FormattedRecord) : Prop :=
  Serializable floatRepr readFloat record.functionEvent ∧
    Serializable floatRepr readFloat record.event

variable {record : FormattedRecord}

/-- What is inside a payload is a text or comes from the structured data. -/
theorem inside_payload {value : JsonTree}
    (inside : Inside value (.object record.payload)) :
    value = .object record.payload ∨ (∃ text, value = .text text) ∨
      Inside value record.functionEvent ∨ Inside value record.event := by
  rcases inside_object_iff.mp inside with same | ⟨entry, member, below⟩
  · exact .inl same
  right
  simp only [payload, List.mem_append, List.mem_cons, List.not_mem_nil,
    or_false, Option.mem_toList, Option.map_eq_some_iff] at member
  rcases member with
    ((texts | ⟨shown, found, rfl⟩) | ⟨shown, found, rfl⟩) |
      ⟨text, _, rfl⟩
  · rcases texts with rfl | rfl | rfl | rfl
    all_goals exact .inl ⟨_, inside_scalar_iff.mp below⟩
  · rw [shownFunctionEvent, Option.ite_none_left_eq_some] at found
    cases found.2
    exact .inr (.inl below)
  · rw [shownEvent, Option.ite_none_left_eq_some] at found
    cases found.2
    exact .inr (.inr below)
  · exact .inl ⟨_, inside_scalar_iff.mp below⟩

theorem distinctNames_payload (record : FormattedRecord) :
    DistinctNames record.payload := by
  have optional {ν : Type} (name : String) (value : Option ν) :
      ((value.map (Prod.mk name)).toList.map Prod.fst).Sublist [name] := by
    cases value with
    | none => exact List.nil_sublist _
    | some value => exact List.Sublist.refl _
  have names :
      (record.payload.map Prod.fst).Sublist
        (["timestamp", "logger", "level", "message"] ++ ["function_event"] ++
          ["event"] ++ ["exception"]) := by
    rw [payload, List.map_append, List.map_append, List.map_append,
      ← Function.comp_def, ← Option.map_map]
    exact (((List.Sublist.refl _).append (optional _ _)).append
      (optional _ _)).append (optional _ _)
  exact names.nodup (by decide)

theorem Loggable.serializable_payload
    (loggable : record.Loggable floatRepr readFloat) :
    Serializable floatRepr readFloat (.object record.payload) where
  floats value inside := by
    rcases inside_payload inside with ⟨⟨⟩⟩ | ⟨_, ⟨⟩⟩ | below | below
    · exact loggable.1.floats value below
    · exact loggable.2.floats value below
  named members inside := by
    rcases inside_payload inside with same | ⟨_, ⟨⟩⟩ | below | below
    · cases same
      exact record.distinctNames_payload
    · exact loggable.1.named members below
    · exact loggable.2.named members below

end FormattedRecord

/-- The event of a request which took 12.5 milliseconds. -/
def requestEvent : JsonTree :=
  .object
    [ ("route", .text "/items"),
      ("duration_ms", .scalar (.float (25 / 2))) ]

/-- `repr` and `float` for that number. -/
def shortRepr (value : Rat) : List Char :=
  if value = 25 / 2 then ['1', '2', '.', '5'] else ['0', '.', '0']

@[inherit_doc shortRepr]
def shortFloat (chars : List Char) : Option Rat :=
  if chars = ['1', '2', '.', '5'] then some (25 / 2)
  else if chars = ['0', '.', '0'] then some 0
  else none

/-- A record whose message tries to begin a record of its own. -/
def requestRecord : FormattedRecord where
  formatTime := "12:00:00,000"
  name := "fastapi_core.http"
  levelname := "INFO"
  getMessage := "request\n\x7b\"level\": \"ERROR\"\x7d"
  event := requestEvent

theorem requestRecord_loggable :
    requestRecord.Loggable shortRepr shortFloat := by
  refine ⟨⟨?_, ?_⟩, ⟨?_, ?_⟩⟩
  · rintro _ ⟨⟩
  · rintro _ ⟨⟩
  · intro value inside
    rcases inside_object_iff.mp inside with ⟨⟨⟩⟩ | ⟨entry, member, below⟩
    rcases List.mem_cons.mp member with rfl | member
    · cases below
    · cases List.mem_singleton.mp member
      cases below
      have written : shortRepr (25 / 2) = ['1', '2', '.', '5'] := if_pos rfl
      exact ⟨by simp [written, JsonText.isNumeric],
        .inl (by simp [written]), by simp [written, shortFloat]⟩
  · intro members inside
    rcases inside_object_iff.mp inside with same | ⟨entry, member, below⟩
    · cases same
      rw [DistinctNames]
      decide
    · rcases List.mem_cons.mp member with rfl | member
      · cases below
      · cases List.mem_singleton.mp member
        cases below

theorem floatWords_sorted {tree : JsonTree}
    (floats : JsonText.FloatWords floatRepr readFloat tree) :
    JsonText.FloatWords floatRepr readFloat (sorted tree) :=
  fun value inside => floats value (inside_of_inside_sorted tree inside)

/-- One record adds one document to a log, or nothing. -/
theorem readLines_handle {handler : LogHandler}
    (json : handler.format = JsonLogFormatter.format floatRepr)
    {earlier : List JsonTree}
    (read : JsonText.readLines readFloat handler.stream = some earlier)
    {record : FormattedRecord}
    (loggable : record.Loggable floatRepr readFloat) :
    JsonText.readLines readFloat (handler.handle record).stream =
      some (earlier ++
        ([record].filter handler.writes).map FormattedRecord.document) := by
  rw [LogHandler.handle]
  split
  · next written =>
      rw [List.filter_cons_of_pos written]
      dsimp only [LogHandler.line]
      rw [json]
      exact JsonText.readLines_append_write read
        (floatWords_sorted loggable.serializable_payload.floats)
  · next lost =>
      rw [List.filter_cons_of_neg lost]
      simpa using read

/-- Only the stream of a handler changes. -/
theorem handle_eq (handler : LogHandler) (record : FormattedRecord) :
    ∃ stream, handler.handle record = { handler with stream } := by
  rw [LogHandler.handle]
  split
  · exact ⟨_, rfl⟩
  · exact ⟨handler.stream, rfl⟩

/-- A log which can be read stays one, and grows by the written records. -/
theorem readLines_foldl_handle {handler : LogHandler}
    (json : handler.format = JsonLogFormatter.format floatRepr)
    {earlier : List JsonTree}
    (read : JsonText.readLines readFloat handler.stream = some earlier)
    {records : List FormattedRecord}
    (loggable : ∀ record ∈ records, record.Loggable floatRepr readFloat) :
    JsonText.readLines readFloat
        (records.foldl LogHandler.handle handler).stream =
      some (earlier ++
        (records.filter handler.writes).map FormattedRecord.document) := by
  induction records generalizing handler earlier with
  | nil => simpa using read
  | cons record records induction =>
      have first := readLines_handle json read (loggable record (.head _))
      rcases handle_eq handler record with ⟨stream, same⟩
      rw [same] at first
      have rest :=
        @induction { handler with stream } json _ first fun other member =>
          loggable other (.tail _ member)
      have writes :
          LogHandler.writes { handler with stream } = handler.writes :=
        Eq.refl _
      rw [List.foldl_cons, same, rest, writes, List.append_assoc,
        ← List.map_append, ← List.filter_append]
      rfl

/--
With the JSON formatter a log is read back as the records which were written:
those which the handler accepts and whose lines the stream takes.
-/
theorem readLines_configureApplicationLogging
    {configureLogging :
      Option String → Option String → Bool → List LogHandler}
    {config : LogConfig} (json : config.logJson = true)
    {handler : LogHandler}
    (configured :
      handler ∈ configureApplicationLogging floatRepr configureLogging config)
    {earlier : List JsonTree}
    (read : JsonText.readLines readFloat handler.stream = some earlier)
    {records : List FormattedRecord}
    (loggable : ∀ record ∈ records, record.Loggable floatRepr readFloat) :
    JsonText.readLines readFloat
        (records.foldl LogHandler.handle handler).stream =
      some (earlier ++
        (records.filter handler.writes).map FormattedRecord.document) := by
  rw [configureApplicationLogging, if_pos json] at configured
  rcases List.mem_map.mp configured with ⟨original, _, rfl⟩
  exact readLines_foldl_handle rfl read loggable

/--
The handler which `configure_logging` sets up, for all but one level and with
a stream for ASCII.
-/
def plainHandler : LogHandler where
  accepts record := record.levelname != "DEBUG"
  format record := record.getMessage.toList
  encodes line := line.all fun char => char.toNat < 128

/-- The records of a run: one is refused by the handler, one by the stream. -/
def requestRecords : List FormattedRecord :=
  [ requestRecord, { requestRecord with levelname := "DEBUG" },
    { requestRecord with getMessage := "café" } ]

theorem requestRecords_loggable :
    ∀ record ∈ requestRecords, record.Loggable shortRepr shortFloat :=
  List.forall_mem_cons.mpr ⟨requestRecord_loggable,
    List.forall_mem_cons.mpr ⟨requestRecord_loggable,
      List.forall_mem_singleton.mpr requestRecord_loggable⟩⟩

/-- The handler with the JSON formatter. -/
def jsonHandler : LogHandler :=
  { plainHandler with format := JsonLogFormatter.format shortRepr }

theorem filter_requestRecords :
    requestRecords.filter jsonHandler.writes = [requestRecord] := by
  rw [requestRecords, List.filter_cons_of_pos (by decide +kernel),
    List.filter_cons_of_neg (by decide +kernel),
    List.filter_cons_of_neg (by decide +kernel), List.filter_nil]

theorem readLines_requestRecord :
    JsonText.readLines shortFloat
        (requestRecords.foldl LogHandler.handle jsonHandler).stream =
      some [requestRecord.document] := by
  have read :=
    @readLines_configureApplicationLogging shortRepr shortFloat
      (fun _ _ _ => [plainHandler]) {} rfl jsonHandler
      (List.mem_singleton.mpr rfl) [] rfl requestRecords
      requestRecords_loggable
  rw [filter_requestRecords] at read
  exact read

/-! ## Records which are written alike -/

namespace FormattedRecord

/-- What the payload of a record holds under a name. -/
def member (record : FormattedRecord) (name : String) : Option JsonTree :=
  if name = "timestamp" then some (.text record.formatTime)
  else if name = "logger" then some (.text record.name)
  else if name = "level" then some (.text record.levelname)
  else if name = "message" then some (.text record.getMessage)
  else if name = "function_event" then record.shownFunctionEvent
  else if name = "event" then record.shownEvent
  else if name = "exception" then record.formatException.map .text
  else none

theorem mem_payload_iff {record : FormattedRecord} {name : String}
    {value : JsonTree} :
    (name, value) ∈ record.payload ↔ record.member name = some value := by
  simp only [payload, List.mem_append, List.mem_cons, List.not_mem_nil,
    or_false, Option.mem_toList, Option.map_eq_some_iff, Prod.mk.injEq]
  constructor
  · rintro (((texts | ⟨shown, found, rfl, rfl⟩) | ⟨shown, found, rfl, rfl⟩) |
      ⟨text, found, rfl, rfl⟩)
    · rcases texts with ⟨rfl, rfl⟩ | ⟨rfl, rfl⟩ | ⟨rfl, rfl⟩ | ⟨rfl, rfl⟩
      all_goals rfl
    · exact found
    · exact found
    · exact congrArg (Option.map JsonTree.text) found
  · intro found
    unfold member at found
    repeat' split at found
    all_goals simp_all

theorem lookup_memberMeanings_payload (record : FormattedRecord)
    (name : String) :
    (memberMeanings record.payload).lookup name =
      (record.member name).map meaning := by
  have distinct := record.distinctNames_payload
  ext value
  rw [memberMeanings_eq_map,
    lookup_eq_some_iff (distinctNames_map.mpr distinct), List.mem_map,
    Option.map_eq_some_iff]
  constructor
  · rintro ⟨⟨name, found⟩, member, same⟩
    cases same
    exact ⟨found, mem_payload_iff.mp member, rfl⟩
  · rintro ⟨found, member, rfl⟩
    exact ⟨(name, found), mem_payload_iff.mpr member, rfl⟩

/-- The payloads of two records mean the same, member by member. -/
theorem meaning_payload_eq_iff {record other : FormattedRecord} :
    meaning (.object record.payload) = meaning (.object other.payload) ↔
      ∀ name,
        (record.member name).map meaning = (other.member name).map meaning := by
  rw [meaning, meaning, JsonData.object.injEq, funext_iff]
  simp only [lookup_memberMeanings_payload]

theorem map_meaning_text_inj {first second : Option String} :
    (first.map JsonTree.text).map meaning =
        (second.map JsonTree.text).map meaning ↔
      first = second := by
  rw [Option.map_map, Option.map_map]
  refine (Option.map_injective fun left right same => ?_).eq_iff
  simpa [meaning] using same

/-- The data of two records which the formatter reads is the same. -/
structure Agree (record other : FormattedRecord) : Prop where
  formatTime : record.formatTime = other.formatTime
  name : record.name = other.name
  levelname : record.levelname = other.levelname
  getMessage : record.getMessage = other.getMessage
  functionEvent :
    record.shownFunctionEvent.map meaning =
      other.shownFunctionEvent.map meaning
  event : record.shownEvent.map meaning = other.shownEvent.map meaning
  formatException : record.formatException = other.formatException

theorem agree_iff {record other : FormattedRecord} :
    Agree record other ↔
      ∀ name,
        (record.member name).map meaning =
          (other.member name).map meaning := by
  constructor
  · intro agree name
    unfold member
    repeat' split
    · rw [agree.formatTime]
    · rw [agree.name]
    · rw [agree.levelname]
    · rw [agree.getMessage]
    · exact agree.functionEvent
    · exact agree.event
    · rw [agree.formatException]
    · rfl
  · intro same
    have text {first second : String}
        (equal : (some (JsonTree.text first)).map meaning =
          (some (JsonTree.text second)).map meaning) : first = second :=
      Option.some.inj (map_meaning_text_inj.mp equal)
    exact
      { formatTime := text (same "timestamp")
        name := text (same "logger")
        levelname := text (same "level")
        getMessage := text (same "message")
        functionEvent := same "function_event"
        event := same "event"
        formatException := map_meaning_text_inj.mp (same "exception") }

end FormattedRecord

/-- Two records have one line exactly when the formatter reads the same. -/
theorem format_eq_format_iff {record other : FormattedRecord}
    (loggable : record.Loggable floatRepr readFloat)
    (loggable' : other.Loggable floatRepr readFloat) :
    JsonLogFormatter.format floatRepr record =
        JsonLogFormatter.format floatRepr other ↔
      FormattedRecord.Agree record other := by
  have serializable := loggable.serializable_payload
  have serializable' := loggable'.serializable_payload
  rw [FormattedRecord.agree_iff, ← FormattedRecord.meaning_payload_eq_iff,
    ← sorted_eq_sorted_iff _ _ serializable.named serializable'.named]
  constructor
  · intro same
    have read :=
      JsonText.readDocument_write (floatWords_sorted serializable.floats)
    have read' :=
      JsonText.readDocument_write (floatWords_sorted serializable'.floats)
    rw [JsonLogFormatter.format, JsonLogFormatter.format, dumps,
      dumps] at same
    rw [same, read'] at read
    exact (Option.some.inj read).symm
  · intro same
    rw [JsonLogFormatter.format, JsonLogFormatter.format, dumps, dumps, same]

theorem format_requestRecord_ne :
    JsonLogFormatter.format shortRepr requestRecord ≠
      JsonLogFormatter.format shortRepr
        { requestRecord with getMessage := "request" } := by
  intro same
  have agree :=
    (@format_eq_format_iff shortRepr shortFloat requestRecord
      { requestRecord with getMessage := "request" } requestRecord_loggable
      requestRecord_loggable).mp same
  exact absurd agree.getMessage (by decide)

end Reading

end FastapiCore
