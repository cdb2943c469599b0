import FastapiCore.Library.OrderedDict
import FastapiCore.Library.Effect
import Mathlib.Data.Finset.Dedup

/-!
# The environment of the process and the settings read from it

`os.environ` may refuse to assign a value to a name, for example a name with
an equals sign or a value with a null character.  A `Refusal` says which
assignments raise which exception, and an `Environ` holds only variables which
are not refused, so that whatever it once held can be assigned again.

`load_app_config` and `load_docmesh_settings` read the environment through a
cache of one call.
-/

namespace FastapiCore

open Library

variable {ε : Type}

/-- The exception with which `os.environ` refuses an assignment, if it does. -/
abbrev Refusal (ε : Type) :=
  String → String → Option ε

/-- `os.environ`. -/
structure Environ (refusal : Refusal ε) where
  data : OrderedDict String String
  accepted :
    ∀ name value, data.get? name = some value → refusal name value = none

namespace Environ

variable {refusal : Refusal ε}

/-- `os.environ.get(name)`. -/
def get (environ : Environ refusal) (name : String) : Option String :=
  environ.data.get? name

/-- The environment without a variable. -/
def pop (environ : Environ refusal) (name : String) : Environ refusal where
  data := environ.data.erase name
  accepted := by
    intro other value found
    by_cases same : other = name
    · subst same
      rw [OrderedDict.get?_erase_self] at found
      cases found
    · rw [OrderedDict.get?_erase_of_ne same] at found
      exact environ.accepted other value found

/-- The environment with an accepted assignment. -/
def insert (environ : Environ refusal) (name value : String)
    (accepts : refusal name value = none) : Environ refusal where
  data := environ.data.insert name value
  accepted := by
    intro other found present
    by_cases same : other = name
    · subst same
      rw [OrderedDict.get?_insert_self] at present
      cases present
      exact accepts
    · rw [OrderedDict.get?_insert_of_ne same] at present
      exact environ.accepted other found present

/-- The environment after an assignment, or the reason of the refusal. -/
def assign (environ : Environ refusal) (name value : String) :
    Except ε (Environ refusal) :=
  match accepts : refusal name value with
  | none => .ok (environ.insert name value accepts)
  | some exception => .error exception

@[simp]
theorem get_pop_self (environ : Environ refusal) (name : String) :
    (environ.pop name).get name = none :=
  OrderedDict.get?_erase_self environ.data name

theorem get_pop_of_ne {name other : String} (different : other ≠ name)
    (environ : Environ refusal) :
    (environ.pop name).get other = environ.get other :=
  OrderedDict.get?_erase_of_ne different

@[simp]
theorem get_insert_self (environ : Environ refusal) (name value : String)
    (accepts : refusal name value = none) :
    (environ.insert name value accepts).get name = some value :=
  OrderedDict.get?_insert_self environ.data name value

theorem get_insert_of_ne {name other value : String}
    (different : other ≠ name) (environ : Environ refusal)
    (accepts : refusal name value = none) :
    (environ.insert name value accepts).get other = environ.get other :=
  OrderedDict.get?_insert_of_ne different value

theorem assign_of_accepted (environ : Environ refusal)
    {name value : String} (accepts : refusal name value = none) :
    environ.assign name value =
      .ok (environ.insert name value accepts) := by
  rw [assign]
  split
  · rfl
  · next refused =>
      rw [accepts] at refused
      cases refused

theorem assign_of_refused (environ : Environ refusal)
    {name value : String} {exception : ε}
    (refuses : refusal name value = some exception) :
    environ.assign name value = .error exception := by
  rw [assign]
  split
  · next accepts =>
      rw [refuses] at accepts
      cases accepts
  · next refused =>
      rw [refuses] at refused
      cases refused
      rfl

end Environ

/-! ## A cache of one call -/

/-- What `lru_cache(maxsize=1)` keeps: the last argument and its result. -/
abbrev LastCall (κ α : Type) :=
  Option (κ × α)

/-- The result of a call which is still in the cache. -/
def LastCall.result? {κ α : Type} [DecidableEq κ] (cache : LastCall κ α)
    (argument : κ) : Option α :=
  cache.bind fun call => if call.1 = argument then some call.2 else none

/-- `lru_cache(maxsize=1)(function)(argument)`. -/
def cachedCall {σ κ α : Type} [DecidableEq κ]
    (cache : σ → LastCall κ α) (store : LastCall κ α → σ → σ)
    (function : κ → Effect σ ε α) (argument : κ) : Effect σ ε α := do
  let state ← Effect.read
  match (cache state).result? argument with
  | some result => pure result
  | none => do
      let result ← function argument
      Effect.update (store (some (argument, result)))
      pure result

/-- An empty cache leaves the outcome to the function. -/
theorem outcome_cachedCall_of_empty {σ κ α : Type} [DecidableEq κ]
    {cache : σ → LastCall κ α} (store : LastCall κ α → σ → σ)
    (function : κ → Effect σ ε α) (argument : κ) {state : σ}
    (empty : cache state = none) :
    ((cachedCall cache store function argument).run state).1 =
      ((function argument).run state).1 := by
  rw [cachedCall, Effect.run_read_bind, empty]
  show ((function argument >>= _).run state).1 = _
  rw [Effect.run_bind]
  rcases (function argument).run state with ⟨outcome, later⟩
  cases outcome <;> rfl

/-! ## The state of the process -/

/-- The environment, and the caches of the two settings loaders. -/
structure Process (refusal : Refusal ε) (Config ServiceConfigs : Type) where
  environ : Environ refusal
  appConfigCache : LastCall Unit Config
  docmeshSettingsCache : LastCall (Option (List String)) ServiceConfigs

namespace Process

variable {refusal : Refusal ε} {Config ServiceConfigs : Type}

/-- The value of a variable of the process, if it is set. -/
def getVariable (name : String)
    (process : Process refusal Config ServiceConfigs) : Option String :=
  process.environ.get name

/-- `load_app_config()`, for the constructor `AppConfig`. -/
def loadAppConfig (appConfig : Environ refusal → Except ε Config) :
    Effect (Process refusal Config ServiceConfigs) ε Config :=
  cachedCall Process.appConfigCache
    (fun cache process => { process with appConfigCache := cache })
    (fun _ => do
      let process ← Effect.read
      Effect.ofExcept (appConfig process.environ))
    ()

/-- `load_docmesh_settings(enabled_services)`. -/
def loadDocmeshSettings
    (loadServiceConfigs :
      Environ refusal → Option (Finset String) → Except ε ServiceConfigs)
    (enabledServices : Option (List String)) :
    Effect (Process refusal Config ServiceConfigs) ε ServiceConfigs :=
  cachedCall Process.docmeshSettingsCache
    (fun cache process => { process with docmeshSettingsCache := cache })
    (fun services => do
      let process ← Effect.read
      Effect.ofExcept
        (loadServiceConfigs process.environ (services.map List.toFinset)))
    enabledServices

/-- The process with two empty caches. -/
def withoutCaches (process : Process refusal Config ServiceConfigs) :
    Process refusal Config ServiceConfigs :=
  { process with appConfigCache := none, docmeshSettingsCache := none }

/-- `load_app_config.cache_clear(); load_docmesh_settings.cache_clear()`. -/
def clearCaches :
    Effect (Process refusal Config ServiceConfigs) ε PUnit :=
  Effect.update withoutCaches

/-- `os.environ.pop(name, None)`. -/
def popVariable (name : String) :
    Effect (Process refusal Config ServiceConfigs) ε PUnit :=
  Effect.update fun process =>
    { process with environ := process.environ.pop name }

/-- `os.environ[name] = value`. -/
def assignVariable (name value : String) :
    Effect (Process refusal Config ServiceConfigs) ε PUnit := do
  let process ← Effect.read
  let environ ← Effect.ofExcept (process.environ.assign name value)
  Effect.update fun process => { process with environ }

theorem run_assignVariable_of_accepted {name value : String}
    (accepts : refusal name value = none)
    (process : Process refusal Config ServiceConfigs) :
    (assignVariable name value).run process =
      (.ok ⟨⟩,
        { process with
          environ := process.environ.insert name value accepts }) := by
  rw [assignVariable, Effect.run_read_bind,
    process.environ.assign_of_accepted accepts]
  rfl

/-- A refused assignment raises and changes nothing. -/
theorem run_assignVariable_of_refused {name value : String}
    {exception : ε} (refuses : refusal name value = some exception)
    (process : Process refusal Config ServiceConfigs) :
    (assignVariable name value).run process =
      (.error exception, process) := by
  rw [assignVariable, Effect.run_read_bind,
    process.environ.assign_of_refused refuses]
  rfl

theorem preserves_popVariable {name other : String}
    (different : other ≠ name) :
    Effect.Preserves (getVariable other)
      (popVariable name :
        Effect (Process refusal Config ServiceConfigs) ε PUnit) :=
  Effect.Preserves.update fun process =>
    Environ.get_pop_of_ne different process.environ

/-- An assignment changes no other variable, also when it is refused. -/
theorem preserves_assignVariable {name other : String}
    (different : other ≠ name) (value : String) :
    Effect.Preserves (getVariable other)
      (assignVariable name value :
        Effect (Process refusal Config ServiceConfigs) ε PUnit) := by
  intro process
  cases answer : refusal name value with
  | none =>
      rw [run_assignVariable_of_accepted answer]
      exact Environ.get_insert_of_ne different process.environ answer
  | some exception =>
      rw [run_assignVariable_of_refused answer]

/-- With an empty cache the settings are those of the environment. -/
theorem outcome_loadAppConfig_of_empty
    (appConfig : Environ refusal → Except ε Config)
    {process : Process refusal Config ServiceConfigs}
    (empty : process.appConfigCache = none) :
    ((loadAppConfig appConfig).run process).1 =
      appConfig process.environ :=
  outcome_cachedCall_of_empty _ _ _ empty

theorem outcome_loadDocmeshSettings_of_empty
    (loadServiceConfigs :
      Environ refusal → Option (Finset String) → Except ε ServiceConfigs)
    (enabledServices : Option (List String))
    {process : Process refusal Config ServiceConfigs}
    (empty : process.docmeshSettingsCache = none) :
    ((loadDocmeshSettings loadServiceConfigs enabledServices).run
        process).1 =
      loadServiceConfigs process.environ
        (enabledServices.map List.toFinset) :=
  outcome_cachedCall_of_empty _ _ _ empty

end Process

end FastapiCore
