import Mathlib.Data.List.Basic
import Mathlib.Data.List.TakeWhile

/-!
# The Python values which the application code compares and passes on

Exceptions are records of the data the code reads from them: the class, the
message, the notes added by `add_note`, and the members of an exception group.
Objects made by user code are opaque, apart from their identity and the two
closer attributes which resource shutdown looks for.

A callable is either a function, bound method or callable object, which the
code compares by identity only, or a `functools.partial`.  CPython flattens
nested `partial` objects, so the function inside one is never itself a
`partial`; `Callable` has no value for the excluded case.
-/

namespace FastapiCore

/-- Names of checks, resources and services. -/
abbrev Name := String

/-! ## Exceptions -/

/-- The exception classes which the application code raises or catches. -/
inductive ExcClass where
  | attributeError
  | baseExceptionGroup
  | cancelledError
  | exceptionGroup
  | healthCheckError
  | httpException
  | keyError
  | runtimeError
  | serviceCloseError
  | timeoutError
  | typeError
  | valueError
  | other (name : String)
deriving DecidableEq, Repr

/-- `type(exception).__name__`. -/
def ExcClass.name : ExcClass → String
  | .attributeError => "AttributeError"
  | .baseExceptionGroup => "BaseExceptionGroup"
  | .cancelledError => "CancelledError"
  | .exceptionGroup => "ExceptionGroup"
  | .healthCheckError => "HealthCheckError"
  | .httpException => "HTTPException"
  | .keyError => "KeyError"
  | .runtimeError => "RuntimeError"
  | .serviceCloseError => "ServiceCloseError"
  | .timeoutError => "TimeoutError"
  | .typeError => "TypeError"
  | .valueError => "ValueError"
  | .other name => name

/-- The class is a subclass of `Exception`, not only of `BaseException`. -/
def ExcClass.isException : ExcClass → Bool
  | .baseExceptionGroup => false
  | .cancelledError => false
  | .other name =>
      name ∉ ["GeneratorExit", "KeyboardInterrupt", "SystemExit"]
  | _ => true

/-- An exception object. -/
structure PyExc where
  cls : ExcClass
  message : String
  notes : List String := []
  members : List PyExc := []
deriving Repr

namespace PyExc

def valueError (message : String) : PyExc :=
  { cls := .valueError, message }

/-- The text of a `KeyError` is the representation of the key. -/
def keyError (key : String) : PyExc :=
  { cls := .keyError, message := "'" ++ key ++ "'" }

def attributeError (message : String) : PyExc :=
  { cls := .attributeError, message }

def runtimeError (message : String) : PyExc :=
  { cls := .runtimeError, message }

def timeoutError : PyExc :=
  { cls := .timeoutError, message := "" }

def cancelledError : PyExc :=
  { cls := .cancelledError, message := "" }

/-- `exception.add_note(note)`. -/
def addNote (exception : PyExc) (note : String) : PyExc :=
  { exception with notes := exception.notes ++ [note] }

/--
`BaseExceptionGroup(message, members)`, which makes an `ExceptionGroup` when
every member is an `Exception`.
-/
def group (message : String) (members : List PyExc) : PyExc :=
  { cls :=
      if members.all fun member => member.cls.isException then
        .exceptionGroup
      else .baseExceptionGroup
    message := message
    members := members }

/-- `str(exception)`: a group also counts its members. -/
def str (exception : PyExc) : String :=
  if exception.cls = .baseExceptionGroup ∨
      exception.cls = .exceptionGroup then
    exception.message ++ " (" ++ toString exception.members.length ++
      (if exception.members.length = 1 then " sub-exception)"
      else " sub-exceptions)")
  else exception.message

end PyExc

/-! ## Objects and callables -/

/--
An object made by user code.  `aclose` and `close` say whether the object has
a callable attribute of that name.
-/
structure PyObject where
  ref : Nat
  aclose : Bool := false
  close : Bool := false
deriving DecidableEq, Repr

/-- Object identity, the Python operator `is`. -/
def PyObject.isSame (left right : PyObject) : Bool :=
  left.ref = right.ref

@[simp]
theorem PyObject.isSame_self (object : PyObject) :
    object.isSame object = true := by
  simp [isSame]

/-- A callable, as far as the code tells callables apart. -/
inductive Callable where
  | function (ref : Nat)
  | functoolsPartial
      (func : Nat) (args : List PyObject)
      (keywords : List (String × PyObject))
deriving DecidableEq, Repr

namespace Callable

/-- `functools.partial(callable, value)`, flattened as CPython does. -/
def applyPartial (callable : Callable) (value : PyObject) : Callable :=
  match callable with
  | .function ref => .functoolsPartial ref [value] []
  | .functoolsPartial func args keywords =>
      .functoolsPartial func (args ++ [value]) keywords

/-- `isinstance(callable, partial)`. -/
def isFunctoolsPartial : Callable → Bool
  | .function _ => false
  | .functoolsPartial _ _ _ => true

/-- `func is callable`, for the function inside a `partial`. -/
def isFunction (callable : Callable) (func : Nat) : Bool :=
  match callable with
  | .function ref => ref = func
  | .functoolsPartial _ _ _ => false

theorem isFunction_iff {callable : Callable} {func : Nat} :
    callable.isFunction func = true ↔ callable = .function func := by
  cases callable <;> simp [isFunction]

end Callable

/-! ## Text -/

/-- `str.isspace` on one character. -/
def isSpace (char : Char) : Bool :=
  let code := char.toNat
  (9 ≤ code ∧ code ≤ 13) ∨ (28 ≤ code ∧ code ≤ 32) ∨ code = 0x85 ∨
    code = 0xa0 ∨ code = 0x1680 ∨ (0x2000 ≤ code ∧ code ≤ 0x200a) ∨
    code = 0x2028 ∨ code = 0x2029 ∨ code = 0x202f ∨ code = 0x205f ∨
    code = 0x3000

/-- `not text.strip()`. -/
def isBlank (text : String) : Bool :=
  text.toList.all isSpace

/-- `text.upper()`, for the ASCII names of methods. -/
def upper (text : String) : String :=
  String.ofList (text.toList.map Char.toUpper)

/-- `text.lower()`, for the ASCII names of methods and headers. -/
def lower (text : String) : String :=
  String.ofList (text.toList.map Char.toLower)

theorem val_toLower {char : Char}
    (isUpper : char.val ≥ 'A'.val ∧ char.val ≤ 'Z'.val) :
    char.toLower.val = char.val + 32 :=
  congrArg Char.val (dif_pos isUpper)

theorem val_toUpper {char : Char}
    (isLower : 'a'.val ≤ char.val ∧ char.val ≤ 'z'.val) :
    char.toUpper.val = char.val + ('A'.val - 'a'.val) := by
  delta Char.toUpper
  rw [dif_pos isLower]

theorem toUpper_toLower_char (char : Char) :
    char.toLower.toUpper = char.toUpper := by
  by_cases upper : char.val ≥ 'A'.val ∧ char.val ≤ 'Z'.val
  · have lowered : char.toLower.val = char.val + 32 := val_toLower upper
    have bounds : 65 ≤ char.val.toNat ∧ char.val.toNat ≤ 90 := upper
    have notLower : ¬('a'.val ≤ char.val ∧ char.val ≤ 'z'.val) := by
      rintro ⟨low, -⟩
      have first : 97 ≤ char.val.toNat := UInt32.le_iff_toNat_le.mp low
      omega
    have isLower :
        'a'.val ≤ char.toLower.val ∧ char.toLower.val ≤ 'z'.val := by
      rw [lowered, UInt32.le_iff_toNat_le, UInt32.le_iff_toNat_le,
        UInt32.toNat_add]
      show
        97 ≤ (char.val.toNat + 32) % 2 ^ 32 ∧
          (char.val.toNat + 32) % 2 ^ 32 ≤ 122
      omega
    have kept : char.toUpper = char := dif_neg notLower
    ext : 1
    rw [val_toUpper isLower, lowered, kept, ← UInt32.toNat_inj,
      UInt32.toNat_add, UInt32.toNat_add]
    show
      ((char.val.toNat + 32) % 2 ^ 32 + 4294967264) % 2 ^ 32 =
        char.val.toNat
    omega
  · have kept : char.toLower = char := dif_neg upper
    rw [kept]

theorem upper_lower (text : String) : upper (lower text) = upper text := by
  rw [upper, lower, upper, String.toList_ofList, List.map_map]
  apply congrArg String.ofList
  apply List.map_congr_left
  intro char _
  exact toUpper_toLower_char char

/-- Upper-case methods are told apart by their spelling in lower case. -/
theorem eq_of_lower_eq {first second : String}
    (firstUpper : upper first = first) (secondUpper : upper second = second)
    (same : lower first = lower second) : first = second := by
  rw [← firstUpper, ← secondUpper, ← upper_lower first, same, upper_lower]

/-- `text.split(".", 1)[0]`. -/
def firstSegment (text : String) : String :=
  String.ofList (text.toList.takeWhile (· ≠ '.'))

/-- `f"{parent}.{child}"`. -/
def childName (parent child : Name) : Name :=
  parent ++ "." ++ child

theorem firstSegment_eq_self_iff {text : String} :
    firstSegment text = text ↔ '.' ∉ text.toList := by
  rw [firstSegment, ← String.toList_inj, String.toList_ofList,
    List.takeWhile_eq_self_iff]
  constructor
  · intro dotFree member
    simpa using dotFree '.' member
  · intro absent char member
    have different : char ≠ '.' := by
      rintro rfl
      exact absent member
    simpa using different

/-- The name of a child starts with the first segment of its parent. -/
@[simp]
theorem firstSegment_childName (parent child : Name) :
    firstSegment (childName parent child) = firstSegment parent := by
  rw [firstSegment, firstSegment, childName, ← String.toList_inj,
    String.toList_ofList, String.toList_ofList, String.toList_append,
    String.toList_append, List.append_assoc]
  induction parent.toList with
  | nil => simp
  | cons char rest induction =>
      by_cases dot : char = '.'
      · simp [dot]
      · simpa [List.takeWhile_cons, dot] using induction

end FastapiCore
