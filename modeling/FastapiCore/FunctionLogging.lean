import FastapiCore.PythonObjects

/-!
# Log records at function boundaries

Every application function is wrapped by `log_function_boundary`: the wrapper
writes a record before the call, and one after it which says whether the call
returned or raised.  The record of a raise carries the formatted exception.

`Logged ε α` is a call together with the records which the package writes
during it.  A call which never completes has no outcome.
-/

namespace FastapiCore

/-! ## Records -/

inductive LogLevel where
  | info
  | warning
  | error
deriving DecidableEq, Repr

/-- The structured data of a record. -/
abbrev LogEvent := List (String × String)

/-- One record, with the data which the formatter writes. -/
structure LogRecord where
  logger : String
  level : LogLevel
  message : String
  functionEvent : Option String := none
  event : Option LogEvent := none
  exception : Option String := none
deriving DecidableEq, Repr

/--
The state of the logging system: which levels each logger is enabled for, and
the traceback lines above the last line of a formatted exception, by the
function which logs it and the check it serves.
-/
structure LogSettings where
  isEnabledFor : String → LogLevel → Bool
  traceback : String → Name → String

/-- The last lines of a formatted exception: class, message and notes. -/
def formatExceptionOnly (exception : PyExc) : String :=
  exception.cls.name ++
    (if exception.message = "" then "" else ": " ++ exception.message) ++
      String.join (exception.notes.map fun note => "\n" ++ note)

/-! ## Calls with their records -/

/-- A call with its records; the outcome is missing if it never completes. -/
structure Logged (ε α : Type) where
  records : List LogRecord
  outcome : Option (Except ε α)

namespace Logged

variable {ε α β : Type}

@[ext]
theorem ext {left right : Logged ε α}
    (records : left.records = right.records)
    (outcome : left.outcome = right.outcome) :
    left = right := by
  cases left
  cases right
  cases records
  cases outcome
  rfl

/-- A call outside the package, which writes no record of ours. -/
def ofOutcome (outcome : Option (Except ε α)) : Logged ε α :=
  ⟨[], outcome⟩

/-- Write one record. -/
def emit (record : LogRecord) : Logged ε Unit :=
  ⟨[record], some (.ok ())⟩

/-- Sequential composition. -/
def andThen (first : Logged ε α) (next : α → Logged ε β) : Logged ε β :=
  match first.outcome with
  | none => ⟨first.records, none⟩
  | some (.error exception) => ⟨first.records, some (.error exception)⟩
  | some (.ok value) =>
      ⟨first.records ++ (next value).records, (next value).outcome⟩

instance : Monad (Logged ε) where
  pure value := ⟨[], some (.ok value)⟩
  bind := andThen

theorem bind_eq_of_ok {first : Logged ε α} {next : α → Logged ε β}
    {value : α} (returned : first.outcome = some (.ok value)) :
    first >>= next =
      ⟨first.records ++ (next value).records, (next value).outcome⟩ := by
  show first.andThen next = _
  rw [andThen, returned]

theorem bind_eq_of_error {first : Logged ε α} {next : α → Logged ε β}
    {exception : ε} (raised : first.outcome = some (.error exception)) :
    first >>= next = ⟨first.records, some (.error exception)⟩ := by
  show first.andThen next = _
  rw [andThen, raised]

theorem bind_eq_of_none {first : Logged ε α} {next : α → Logged ε β}
    (pending : first.outcome = none) :
    first >>= next = ⟨first.records, none⟩ := by
  show first.andThen next = _
  rw [andThen, pending]

end Logged

/-! ## The wrapper -/

/-- A function of the package, by its module and qualified name. -/
structure PackageFunction where
  module : String
  qualname : String

/-- `f"{func.__module__}.{func.__qualname__}"`. -/
def PackageFunction.eventName (function : PackageFunction) : String :=
  function.module ++ "." ++ function.qualname

namespace LogSettings

variable (settings : LogSettings) (function : PackageFunction)

/-- The records before the call. -/
def started : List LogRecord :=
  if settings.isEnabledFor function.module .info then
    [{ logger := function.module
       level := .info
       message := "function_start"
       functionEvent := some function.eventName }]
  else []

/-- The records after a return. -/
def ended : List LogRecord :=
  if settings.isEnabledFor function.module .info then
    [{ logger := function.module
       level := .info
       message := "function_end"
       functionEvent := some function.eventName }]
  else []

/-- The records after a raise of an `Exception` with this formatted text. -/
def failed (exception : String) : List LogRecord :=
  if settings.isEnabledFor function.module .error then
    [{ logger := function.module
       level := .error
       message := "function_error"
       functionEvent := some function.eventName
       exception := some exception }]
  else []

/--
The records after a call with this outcome.  `format` gives the text of an
`Exception`; it is `none` for other instances of `BaseException`, which the
wrapper lets pass.
-/
def finished {ε α : Type} (format : ε → Option String) :
    Option (Except ε α) → List LogRecord
  | none => []
  | some (.ok _) => settings.ended function
  | some (.error exception) =>
      match format exception with
      | none => []
      | some text => settings.failed function text

/-- `log_function_boundary`. -/
def logFunctionBoundary {ε α : Type} (format : ε → Option String)
    (body : Logged ε α) : Logged ε α where
  records :=
    settings.started function ++ body.records ++
      settings.finished function format body.outcome
  outcome := body.outcome

/-- `formatException` for a raise in a function which serves a check. -/
def formatException (origin : Name) (exception : PyExc) : Option String :=
  if exception.cls.isException then
    some
      (settings.traceback function.eventName origin ++
        formatExceptionOnly exception)
  else none

/-- The wrapper around a call which raises Python exceptions. -/
def boundary {α : Type} (origin : Name) (body : Logged PyExc α) :
    Logged PyExc α :=
  settings.logFunctionBoundary function
    (settings.formatException function origin) body

@[simp]
theorem outcome_boundary {α : Type} (origin : Name)
    (body : Logged PyExc α) :
    (settings.boundary function origin body).outcome = body.outcome :=
  rfl

end LogSettings

end FastapiCore
