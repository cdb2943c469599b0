import FastapiCore.Library.ContextManager
import FastapiCore.ProcessEnvironment

/-!
# Overriding the environment for a block of code

`test_environment` saves the variables which it is about to override, assigns
or deletes them one after the other, and empties both settings caches.  Its
`finally` block assigns the saved values and empties the caches again.  It
runs after the body, and also after an override which `os.environ` refuses.

The body is any computation on the process, so it may open further blocks.  It
starts with the overrides in place or not at all, and its outcome is that of
the block.
-/

namespace FastapiCore

open Library Process

variable {ε Config ServiceConfigs : Type} {refusal : Refusal ε}

/-- One step of the loops over `overrides` and over `previous`. -/
def setVariable (name : String) :
    Option String → Effect (Process refusal Config ServiceConfigs) ε PUnit
  | none => popVariable name
  | some value => assignVariable name value

/-- The loops over `overrides` and over `previous`. -/
def setVariables (changes : List (String × Option String)) :
    Effect (Process refusal Config ServiceConfigs) ε PUnit :=
  forM changes fun change => setVariable change.1 change.2

/-- The pairs of `previous`: `_MISSING` is the absence of a value. -/
def previousValues (names : List String)
    (process : Process refusal Config ServiceConfigs) :
    List (String × Option String) :=
  names.map fun name => (name, process.environ.get name)

/-- `test_environment`. -/
def testEnvironment :
    ContextManager (Process refusal Config ServiceConfigs)
      (OrderedDict String (Option String))
      (List (String × Option String)) ε where
  save overrides process := previousValues overrides.keys process
  enter overrides := do
    setVariables overrides.entries
    clearCaches
  leave previous := do
    setVariables previous
    clearCaches

/-! ## What the loops change -/

theorem preserves_setVariable {name other : String}
    (different : other ≠ name) (value : Option String) :
    Effect.Preserves (getVariable other)
      (setVariable name value :
        Effect (Process refusal Config ServiceConfigs) ε PUnit) := by
  cases value with
  | none => exact preserves_popVariable different
  | some value => exact preserves_assignVariable different value

/-- A loop changes only the variables which it names. -/
theorem preserves_setVariables {name : String}
    {changes : List (String × Option String)}
    (absent : name ∉ changes.map Prod.fst) :
    Effect.Preserves (getVariable name)
      (setVariables changes :
        Effect (Process refusal Config ServiceConfigs) ε PUnit) := by
  refine Effect.Preserves.forM fun change member => ?_
  refine preserves_setVariable ?_ change.2
  rintro rfl
  exact absent (List.mem_map_of_mem member)

theorem preserves_clearCaches (name : String) :
    Effect.Preserves (getVariable name)
      (clearCaches :
        Effect (Process refusal Config ServiceConfigs) ε PUnit) :=
  Effect.Preserves.update fun _ => rfl

/-- A change deletes its variable or assigns a value which is not refused. -/
def Accepted (refusal : Refusal ε) (change : String × Option String) :
    Prop :=
  ∀ value, change.2 = some value → refusal change.1 value = none

/-- The first of the changes which is not accepted, and its exception. -/
def FirstRefusal (refusal : Refusal ε)
    (changes : List (String × Option String)) (exception : ε) : Prop :=
  ∃ earlier change rest,
    changes = earlier ++ change :: rest ∧
      (∀ accepted ∈ earlier, Accepted refusal accepted) ∧
        ∃ value,
          change.2 = some value ∧ refusal change.1 value = some exception

/-- A step returns exactly if its change is accepted. -/
theorem setVariable_returns_iff {change : String × Option String}
    {process : Process refusal Config ServiceConfigs} :
    ((setVariable change.1 change.2).run process).1 = .ok ⟨⟩ ↔
      Accepted refusal change := by
  rcases change with ⟨name, _ | value⟩
  · refine ⟨fun _ value assigned => ?_, fun _ => rfl⟩
    cases assigned
  · show ((assignVariable name value).run process).1 = .ok ⟨⟩ ↔ _
    cases answer : refusal name value with
    | none =>
        rw [run_assignVariable_of_accepted answer]
        refine ⟨fun _ found same => ?_, fun _ => rfl⟩
        cases same
        exact answer
    | some exception =>
        rw [run_assignVariable_of_refused answer]
        constructor
        · intro returned
          cases returned
        · intro accepted
          have accepts : refusal name value = none := accepted value rfl
          rw [answer] at accepts
          cases accepts

/-- A step which returns has made its change. -/
theorem get_setVariable {change : String × Option String}
    {process later : Process refusal Config ServiceConfigs}
    (run :
      (setVariable change.1 change.2).run process = (.ok ⟨⟩, later)) :
    later.environ.get change.1 = change.2 := by
  have returned :
      ((setVariable change.1 change.2).run process).1 = .ok ⟨⟩ := by
    rw [run]
  have accepted := setVariable_returns_iff.mp returned
  rcases change with ⟨name, _ | value⟩
  · cases run
    exact Environ.get_pop_self process.environ name
  · have accepts : refusal name value = none := accepted value rfl
    have assigned :
        (setVariable name (some value)).run process = _ :=
      run_assignVariable_of_accepted accepts process
    cases run.symm.trans assigned
    exact Environ.get_insert_self process.environ name value accepts

/-- A loop returns exactly if all of its changes are accepted. -/
theorem setVariables_returns_iff {changes : List (String × Option String)}
    {process : Process refusal Config ServiceConfigs} :
    ((setVariables changes).run process).1 = .ok ⟨⟩ ↔
      ∀ change ∈ changes, Accepted refusal change := by
  induction changes generalizing process with
  | nil =>
      refine ⟨fun _ change member => ?_, fun _ => rfl⟩
      cases member
  | cons change rest induction =>
      have first := @setVariable_returns_iff _ _ _ _ change process
      rw [List.forall_mem_cons, setVariables, List.forM_cons,
        Effect.run_bind, ← first]
      rcases (setVariable change.1 change.2).run process with
        ⟨outcome, between⟩
      cases outcome with
      | ok _ =>
          rw [← @induction between]
          exact ⟨fun returned => ⟨rfl, returned⟩, And.right⟩
      | error exception =>
          constructor
          · intro returned
            cases returned
          · rintro ⟨returned, -⟩
            cases returned

theorem exists_run_setVariables_iff
    {changes : List (String × Option String)}
    {process : Process refusal Config ServiceConfigs} :
    (∃ later, (setVariables changes).run process = (.ok ⟨⟩, later)) ↔
      ∀ change ∈ changes, Accepted refusal change := by
  rw [← @setVariables_returns_iff _ _ _ _ changes process]
  constructor
  · rintro ⟨later, run⟩
    rw [run]
  · exact fun returned => ⟨_, Prod.ext returned rfl⟩

/-- A step which raises is a refused assignment. -/
theorem refused_of_run_setVariable {change : String × Option String}
    {process later : Process refusal Config ServiceConfigs}
    {exception : ε}
    (run :
      (setVariable change.1 change.2).run process =
        (.error exception, later)) :
    ∃ value,
      change.2 = some value ∧ refusal change.1 value = some exception := by
  rcases change with ⟨name, _ | value⟩
  · cases run
  · refine ⟨value, rfl, ?_⟩
    have assigned : (assignVariable name value).run process = _ := run
    cases answer : refusal name value with
    | none =>
        rw [run_assignVariable_of_accepted answer] at assigned
        cases assigned
    | some other =>
        rw [run_assignVariable_of_refused answer] at assigned
        cases assigned
        rfl

/-- A loop raises what the first change is refused with. -/
theorem refused_of_run_setVariables
    {changes : List (String × Option String)}
    {process later : Process refusal Config ServiceConfigs}
    {exception : ε}
    (run :
      (setVariables changes).run process = (.error exception, later)) :
    FirstRefusal refusal changes exception := by
  induction changes generalizing process with
  | nil => cases run
  | cons change rest induction =>
      rw [setVariables, List.forM_cons, Effect.run_bind] at run
      rcases firstRun : (setVariable change.1 change.2).run process with
        ⟨outcome, between⟩
      rw [firstRun] at run
      cases outcome with
      | error raised =>
          cases run
          exact
            ⟨[], change, rest, rfl, List.forall_mem_nil _,
              refused_of_run_setVariable firstRun⟩
      | ok _ =>
          have returned :
              ((setVariable change.1 change.2).run process).1 = .ok ⟨⟩ := by
            rw [firstRun]
          rcases induction run with
            ⟨earlier, refused, later, rfl, accepted, refuses⟩
          refine
            ⟨change :: earlier, refused, later, rfl, ?_, refuses⟩
          exact
            List.forall_mem_cons.mpr
              ⟨setVariable_returns_iff.mp returned, accepted⟩

/-- A loop over distinct names which returns has made all of its changes. -/
theorem get_setVariables {changes : List (String × Option String)}
    (distinct : (changes.map Prod.fst).Nodup)
    {process later : Process refusal Config ServiceConfigs}
    (run : (setVariables changes).run process = (.ok ⟨⟩, later)) :
    ∀ change ∈ changes, later.environ.get change.1 = change.2 := by
  induction changes generalizing process with
  | nil =>
      intro change member
      cases member
  | cons change rest induction =>
      rw [List.map_cons, List.nodup_cons] at distinct
      rw [setVariables, List.forM_cons, Effect.run_bind] at run
      rcases firstRun : (setVariable change.1 change.2).run process with
        ⟨outcome, between⟩
      rw [firstRun] at run
      cases outcome with
      | error exception => cases run
      | ok _ =>
          have restRun :
              (setVariables rest).run between = (.ok ⟨⟩, later) := run
          rw [List.forall_mem_cons]
          refine ⟨?_, induction distinct.2 restRun⟩
          -- The rest of the loop does not name this variable again.
          have kept := preserves_setVariables distinct.1 between
          rw [restRun] at kept
          exact kept.trans (get_setVariable firstRun)

/-! ## Entering and leaving a block -/

theorem names_previousValues (names : List String)
    (process : Process refusal Config ServiceConfigs) :
    (previousValues names process).map Prod.fst = names := by
  simp [previousValues, Function.comp_def]

/-- What an environment has held is never refused. -/
theorem accepted_of_mem_previousValues {names : List String}
    {process : Process refusal Config ServiceConfigs}
    {change : String × Option String}
    (member : change ∈ previousValues names process) :
    Accepted refusal change := by
  rcases List.mem_map.mp member with ⟨name, -, rfl⟩
  exact process.environ.accepted name

/-- Emptying the caches after a loop which returns. -/
theorem run_setVariables_clearCaches_iff
    {changes : List (String × Option String)}
    {process exit : Process refusal Config ServiceConfigs} :
    (setVariables changes >>= fun _ => clearCaches).run process =
        (.ok ⟨⟩, exit) ↔
      ∃ later,
        (setVariables changes).run process = (.ok ⟨⟩, later) ∧
          later.withoutCaches = exit := by
  rw [Effect.run_bind]
  rcases (setVariables changes).run process with ⟨outcome, later⟩
  cases outcome with
  | ok _ => simp [clearCaches, Effect.update, Effect.run]
  | error exception => simp

/-- The body starts exactly if `os.environ` accepts every override. -/
theorem exists_started_testEnvironment_iff
    {overrides : OrderedDict String (Option String)}
    {process : Process refusal Config ServiceConfigs} :
    (∃ entered,
        testEnvironment.started overrides process = some entered) ↔
      ∀ override ∈ overrides.entries, Accepted refusal override := by
  rw [← @exists_run_setVariables_iff _ _ _ _ _ process]
  constructor
  · rintro ⟨entered, started⟩
    rcases run_setVariables_clearCaches_iff.mp
        (ContextManager.started_eq_some_iff.mp started) with
      ⟨later, run, -⟩
    exact ⟨later, run⟩
  · rintro ⟨later, run⟩
    exact
      ⟨later.withoutCaches,
        ContextManager.started_eq_some_iff.mpr
          (run_setVariables_clearCaches_iff.mpr ⟨later, run, rfl⟩)⟩

/-- The body starts with every override in place and empty caches. -/
theorem get_started_testEnvironment
    {overrides : OrderedDict String (Option String)}
    {process entered : Process refusal Config ServiceConfigs}
    (started : testEnvironment.started overrides process = some entered) :
    (∀ override ∈ overrides.entries,
        entered.environ.get override.1 = override.2) ∧
      entered.appConfigCache = none ∧
        entered.docmeshSettingsCache = none := by
  rcases run_setVariables_clearCaches_iff.mp
      (ContextManager.started_eq_some_iff.mp started) with
    ⟨later, run, rfl⟩
  have changed := get_setVariables overrides.nodup run
  exact ⟨changed, rfl, rfl⟩

/-- The `finally` block returns, restores its names and empties the caches. -/
theorem run_leave_testEnvironment
    (overrides : OrderedDict String (Option String))
    (entry process : Process refusal Config ServiceConfigs) :
    ∃ exit,
      (testEnvironment.leave (testEnvironment.save overrides entry)).run
          process =
          (.ok ⟨⟩, exit) ∧
        (∀ name ∈ overrides.keys,
          exit.environ.get name = entry.environ.get name) ∧
        exit.appConfigCache = none ∧ exit.docmeshSettingsCache = none := by
  have accepted :
      ∀ change ∈ previousValues overrides.keys entry,
        Accepted refusal change :=
    fun change member => accepted_of_mem_previousValues member
  rcases (@exists_run_setVariables_iff _ _ _ _ _ process).mpr accepted with
    ⟨later, run⟩
  have distinct :
      ((previousValues overrides.keys entry).map Prod.fst).Nodup := by
    rw [names_previousValues]
    exact overrides.nodup_keys
  refine
    ⟨later.withoutCaches,
      run_setVariables_clearCaches_iff.mpr ⟨later, run, rfl⟩, ?_, rfl, rfl⟩
  intro name member
  exact
    get_setVariables distinct run (name, entry.environ.get name)
      (List.mem_map_of_mem member)

/-! ## What a block restores -/

/-- `test_environment` restores exactly the variables which it overrides. -/
theorem testEnvironment_restores :
    (testEnvironment :
        ContextManager (Process refusal Config ServiceConfigs) _ _
          ε).Restores
      getVariable fun overrides => { name | name ∈ overrides.keys } where
  restored := by
    intro overrides name member entry later
    rcases run_leave_testEnvironment overrides entry later with
      ⟨exit, run, restored, -⟩
    rw [run]
    exact restored name member
  enterKeeps := by
    intro overrides name absent
    exact
      Effect.Preserves.bind (preserves_setVariables absent)
        fun _ => preserves_clearCaches name
  leaveKeeps := by
    intro overrides name absent entry
    have unnamed :
        name ∉ (previousValues overrides.keys entry).map Prod.fst := by
      rwa [names_previousValues]
    exact
      Effect.Preserves.bind (preserves_setVariables unnamed)
        fun _ => preserves_clearCaches name

/-- The `finally` block never replaces the outcome of the block. -/
theorem outcome_testEnvironment {α : Type}
    (overrides : OrderedDict String (Option String))
    (body : Effect (Process refusal Config ServiceConfigs) ε α)
    (process : Process refusal Config ServiceConfigs) :
    ((testEnvironment.block overrides body).run process).1 =
      ((testEnvironment.attempted overrides body).run process).1 := by
  rcases attemptedRun :
      (testEnvironment.attempted overrides body).run process with
    ⟨outcome, later⟩
  rcases run_leave_testEnvironment overrides process later with
    ⟨exit, leaveRun, -⟩
  rw [ContextManager.run_block,
    Effect.run_tryFinally_eq attemptedRun leaveRun]
  rfl

/-- A block whose body starts ends as the body does. -/
theorem outcome_testEnvironment_of_started {α : Type}
    {overrides : OrderedDict String (Option String)}
    {process entered : Process refusal Config ServiceConfigs}
    (started : testEnvironment.started overrides process = some entered)
    (body : Effect (Process refusal Config ServiceConfigs) ε α) :
    ((testEnvironment.block overrides body).run process).1 =
      (body.run entered).1 := by
  rw [outcome_testEnvironment, ContextManager.attempted, Effect.run_bind,
    ContextManager.started_eq_some_iff.mp started]

/-- A block whose body does not start raises the refusal of an override. -/
theorem outcome_testEnvironment_of_refused {α : Type}
    {overrides : OrderedDict String (Option String)}
    {process : Process refusal Config ServiceConfigs}
    (refused : testEnvironment.started overrides process = none)
    (body : Effect (Process refusal Config ServiceConfigs) ε α) :
    ∃ exception,
      FirstRefusal refusal overrides.entries exception ∧
        ((testEnvironment.block overrides body).run process).1 =
          .error exception := by
  rw [outcome_testEnvironment, ContextManager.attempted, Effect.run_bind]
  rw [ContextManager.started] at refused
  have enters :
      (testEnvironment.enter overrides).run process =
        (setVariables overrides.entries >>= fun _ => clearCaches).run
          process :=
    rfl
  rw [enters, Effect.run_bind] at refused ⊢
  rcases run : (setVariables overrides.entries).run process with
    ⟨outcome, later⟩
  rw [run] at refused
  cases outcome with
  | ok _ => cases refused
  | error exception =>
      exact ⟨exception, refused_of_run_setVariables run, rfl⟩

/-- Both caches are empty after a block. -/
theorem caches_testEnvironment {α : Type}
    (overrides : OrderedDict String (Option String))
    (body : Effect (Process refusal Config ServiceConfigs) ε α)
    (process : Process refusal Config ServiceConfigs) :
    ((testEnvironment.block overrides body).run process).2.appConfigCache =
        none ∧
      ((testEnvironment.block overrides body).run
          process).2.docmeshSettingsCache = none := by
  rcases run_leave_testEnvironment overrides process
      ((testEnvironment.attempted overrides body).run process).2 with
    ⟨exit, leaveRun, -, caches⟩
  rw [ContextManager.run_block, Effect.state_tryFinally, leaveRun]
  exact caches

/-! ## Blocks at any depth -/

/-- A program which opens `test_environment` blocks. -/
abbrev EnvironmentScript (refusal : Refusal ε)
    (Config ServiceConfigs : Type) :=
  Script (Process refusal Config ServiceConfigs)
    (OrderedDict String (Option String)) ε

/-- What one run of a block is to leave behind. -/
structure RestoresEnvironment
    (appConfig : Environ refusal → Except ε Config)
    (loadServiceConfigs :
      Environ refusal → Option (Finset String) → Except ε ServiceConfigs)
    (overrides : OrderedDict String (Option String))
    (entry left exit : Process refusal Config ServiceConfigs) : Prop where
  /-- An overridden variable has its value, or no value, from entry time. -/
  overridden :
    ∀ name ∈ overrides.keys, exit.environ.get name = entry.environ.get name
  /-- Every other variable is as the body has left it. -/
  others :
    ∀ name ∉ overrides.keys, exit.environ.get name = left.environ.get name
  appConfigCache : exit.appConfigCache = none
  docmeshSettingsCache : exit.docmeshSettingsCache = none
  /-- The next `load_app_config()` reads the restored environment. -/
  nextAppConfig :
    ((loadAppConfig appConfig).run exit).1 = appConfig exit.environ
  nextDocmeshSettings :
    ∀ enabledServices,
      ((loadDocmeshSettings loadServiceConfigs enabledServices).run
          exit).1 =
        loadServiceConfigs exit.environ
          (enabledServices.map List.toFinset)

/-- However deep a block is, and however it ends, it restores its names. -/
theorem blocks_restore_environment
    (appConfig : Environ refusal → Except ε Config)
    (loadServiceConfigs :
      Environ refusal → Option (Finset String) → Except ε ServiceConfigs)
    (script : EnvironmentScript refusal Config ServiceConfigs)
    (process : Process refusal Config ServiceConfigs) :
    ∀ visit ∈ script.visits testEnvironment process,
      RestoresEnvironment appConfig loadServiceConfigs visit.argument
        visit.entry (visit.left testEnvironment)
        (visit.exit testEnvironment) := by
  intro visit _
  have caches :=
    caches_testEnvironment visit.argument visit.body visit.entry
  constructor
  case overridden =>
    intro name member
    exact
      testEnvironment_restores.preserves_of_mem member visit.body
        visit.entry
  case others =>
    intro name absent
    exact
      testEnvironment_restores.view_block_of_not_mem absent visit.body
        visit.entry
  case appConfigCache => exact caches.1
  case docmeshSettingsCache => exact caches.2
  case nextAppConfig =>
    exact outcome_loadAppConfig_of_empty appConfig caches.1
  case nextDocmeshSettings =>
    intro enabledServices
    exact
      outcome_loadDocmeshSettings_of_empty loadServiceConfigs
        enabledServices caches.2

/-- An environment which refuses names with an equals sign. -/
def refusesEquals : Refusal String := fun name _ =>
  if '=' ∈ name.toList then some "illegal environment variable name"
  else none

/-- `ROOT_PATH` is `/before`, and the settings have been read from it. -/
def beforeScopes : Process refusesEquals (Option String) Unit where
  environ :=
    (Environ.mk OrderedDict.empty fun _ _ found => by cases found).insert
      "ROOT_PATH" "/before" (by decide)
  appConfigCache := some ((), some "/before")
  docmeshSettingsCache := none

def outerOverrides : OrderedDict String (Option String) :=
  OrderedDict.empty.insert "ROOT_PATH" (some "/outer")

/-- The second of these overrides is refused. -/
def innerOverrides : OrderedDict String (Option String) :=
  (OrderedDict.empty.insert "ROOT_PATH" none).insert "A=B" (some "")

/-- A block inside another one, of which the inner one cannot be entered. -/
def nestedScopes :
    EnvironmentScript refusesEquals (Option String) Unit :=
  .block outerOverrides
    (.block innerOverrides (.done (.ok ⟨⟩)) fun outcome _ =>
      .done outcome)
    fun outcome _ => .done outcome

/-- The run of the inner block. -/
def innerVisit :
    Script.Visit (Process refusesEquals (Option String) Unit)
      (OrderedDict String (Option String)) String where
  argument := innerOverrides
  body := Effect.ofExcept (.ok ⟨⟩)
  entry := ((testEnvironment.enter outerOverrides).run beforeScopes).2

theorem nestedScopes_restore_environment :
    RestoresEnvironment (fun environ => .ok (environ.get "ROOT_PATH"))
      (fun _ _ => .ok ()) innerVisit.argument innerVisit.entry
      (innerVisit.left testEnvironment)
      (innerVisit.exit testEnvironment) :=
  blocks_restore_environment _ _ nestedScopes beforeScopes innerVisit
    (.tail _ (.head _))

/-! ## What a block gives to its body -/

/--
A program which changes variables only inside blocks that override them, and
those of `scope`, leaves every other variable as it was.
-/
theorem confined_preserves_environment {scope : Set String}
    {script : EnvironmentScript refusal Config ServiceConfigs}
    (confined :
      script.Confined getVariable
        (fun overrides => { name | name ∈ overrides.keys }) scope)
    {name : String} (outside : name ∉ scope) :
    Effect.Preserves (getVariable name)
      (script.computation testEnvironment) :=
  confined.preserves testEnvironment_restores outside

/-- How one run of a block treats its body. -/
structure IsolatesBody (overrides : OrderedDict String (Option String))
    (body : Effect (Process refusal Config ServiceConfigs) ε PUnit)
    (entry : Process refusal Config ServiceConfigs) : Prop where
  /-- The body starts exactly if `os.environ` accepts every override. -/
  starts :
    (∃ entered, testEnvironment.started overrides entry = some entered) ↔
      ∀ override ∈ overrides.entries, Accepted refusal override
  overridden :
    ∀ entered,
      testEnvironment.started overrides entry = some entered →
        ∀ override ∈ overrides.entries,
          entered.environ.get override.1 = override.2
  others :
    ∀ entered,
      testEnvironment.started overrides entry = some entered →
        ∀ name ∉ overrides.keys,
          entered.environ.get name = entry.environ.get name
  caches :
    ∀ entered,
      testEnvironment.started overrides entry = some entered →
        entered.appConfigCache = none ∧ entered.docmeshSettingsCache = none
  /-- The `finally` block never replaces the outcome of the body. -/
  outcome :
    ∀ entered,
      testEnvironment.started overrides entry = some entered →
        ((testEnvironment.block overrides body).run entry).1 =
          (body.run entered).1
  refused :
    testEnvironment.started overrides entry = none →
      ∃ exception,
        FirstRefusal refusal overrides.entries exception ∧
          ((testEnvironment.block overrides body).run entry).1 =
            .error exception

/--
Every block of a program, however deep, starts its body with exactly its
overrides in place and ends as the body does.  Changes of variables which the
blocks around them override do not get out of the program.
-/
theorem testEnvironment_isolates
    (script : EnvironmentScript refusal Config ServiceConfigs)
    (process : Process refusal Config ServiceConfigs) :
    (∀ visit ∈ script.visits testEnvironment process,
      IsolatesBody visit.argument visit.body visit.entry) ∧
      ∀ scope : Set String,
        script.Confined getVariable
            (fun overrides => { name | name ∈ overrides.keys }) scope →
          ∀ name ∉ scope,
            Effect.Preserves (getVariable name)
              (script.computation testEnvironment) := by
  refine ⟨fun visit _ => ?_, ?_⟩
  · constructor
    case starts => exact exists_started_testEnvironment_iff
    case overridden =>
      intro entered started
      exact (get_started_testEnvironment started).1
    case others =>
      intro entered started name absent
      have kept :=
        testEnvironment_restores.enterKeeps visit.argument name absent
          visit.entry
      rwa [ContextManager.started_eq_some_iff.mp started] at kept
    case caches =>
      intro entered started
      exact (get_started_testEnvironment started).2
    case outcome =>
      intro entered started
      exact outcome_testEnvironment_of_started started visit.body
    case refused =>
      intro refused
      exact outcome_testEnvironment_of_refused refused visit.body
  · intro scope confined name outside
    exact confined_preserves_environment confined outside

/-- A block whose body assigns the variable which the block overrides. -/
def assigningScopes :
    EnvironmentScript refusesEquals (Option String) Unit :=
  .block outerOverrides
    (.act (assignVariable "ROOT_PATH" "/body") fun outcome _ =>
      .done outcome)
    fun outcome _ => .done outcome

/-- After the block the variable is as it was, whatever its value is. -/
theorem assigningScopes_isolates :
    Effect.Preserves (getVariable "ROOT_PATH")
      (assigningScopes.computation testEnvironment) := by
  refine (testEnvironment_isolates assigningScopes beforeScopes).2 ∅ ?_
    "ROOT_PATH" (Set.notMem_empty _)
  refine ⟨⟨?_, fun _ _ => trivial⟩, fun _ _ => trivial⟩
  intro name outside
  apply preserves_assignVariable
  rintro rfl
  exact outside (.inr (by decide))

end FastapiCore
