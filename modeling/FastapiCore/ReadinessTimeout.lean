import FastapiCore.StartupReport
import Mathlib.Algebra.Order.Ring.Rat

/-!
# The timeout of a readiness check

`wait_for` bounds the check of a spec but not its adapter, which is called
and awaited afterwards.  The run of a spec with a timeout is left pending
exactly if the check yields a value in time and the adapter makes an awaitable
of it which never completes.
-/

namespace FastapiCore

open Library

/-! ## Awaiting with a limit -/

namespace Completion

variable {α β : Type}

/-- The completion settles, no later than a limit. -/
def SettlesBy (completion : Completion α) (limit : ℚ) : Prop :=
  ∃ elapsed value, completion = .settles elapsed value ∧ elapsed ≤ limit

/-- The completion settles at some time. -/
def Settles (completion : Completion α) : Prop :=
  ∃ elapsed value, completion = .settles elapsed value

theorem Settles.map {completion : Completion α} (settles : completion.Settles)
    (change : α → β) : (completion.map change).Settles := by
  rcases settles with ⟨elapsed, value, rfl⟩
  exact ⟨elapsed, change value, rfl⟩

theorem settles_map_iff {completion : Completion α} {change : α → β} :
    (completion.map change).Settles ↔ completion.Settles := by
  constructor
  · rintro ⟨elapsed, value, settled⟩
    cases completion with
    | pending => cases settled
    | settles time original => exact ⟨time, original, rfl⟩
  · exact fun settles => settles.map change

theorem settlesBy_map_iff {completion : Completion α} {change : α → β}
    {limit : ℚ} :
    (completion.map change).SettlesBy limit ↔
      completion.SettlesBy limit := by
  cases completion with
  | pending =>
      constructor <;>
        · rintro ⟨elapsed, value, settled, -⟩
          cases settled
  | settles time original =>
      constructor
      · rintro ⟨elapsed, value, ⟨⟩, inTime⟩
        exact ⟨time, original, rfl, inTime⟩
      · rintro ⟨elapsed, value, ⟨⟩, inTime⟩
        exact ⟨time, change original, rfl, inTime⟩

theorem value?_isSome_iff {completion : Completion α} :
    completion.value?.isSome = true ↔ completion.Settles := by
  cases completion with
  | pending => simp [value?, Settles]
  | settles elapsed value => simp [value?, Settles]

end Completion

/-- `wait_for` with a timeout always settles, and no later than it. -/
theorem settlesBy_waitFor {α : Type} (limit : ℚ)
    (awaitable : Completion (Except PyExc α)) :
    (waitFor (some limit) awaitable).SettlesBy limit := by
  cases awaitable with
  | pending => exact ⟨limit, _, rfl, Rat.le_refl⟩
  | settles elapsed outcome =>
      by_cases inTime : elapsed ≤ limit
      · exact ⟨elapsed, outcome, if_pos inTime, inTime⟩
      · exact ⟨limit, _, if_neg inTime, Rat.le_refl⟩

/-- A value comes through `wait_for` if it is there in time. -/
theorem waitFor_eq_ok_iff {α : Type} {limit elapsed : ℚ} {value : α}
    {awaitable : Completion (Except PyExc α)} :
    waitFor (some limit) awaitable = .settles elapsed (.ok value) ↔
      awaitable = .settles elapsed (.ok value) ∧ elapsed ≤ limit := by
  cases awaitable with
  | pending => simp [waitFor]
  | settles time outcome =>
      by_cases inTime : time ≤ limit
      · rw [waitFor, if_pos inTime]
        constructor
        · rintro ⟨⟩
          exact ⟨rfl, inTime⟩
        · exact And.left
      · rw [waitFor, if_neg inTime]
        constructor
        · rintro ⟨⟩
        · rintro ⟨⟨⟩, late⟩
          exact (inTime late).elim

/-! ## The awaitable of an adapter -/

/--
The check yields a value within the limit, at a given time, and the adapter
returns an awaitable for it.
-/
structure CheckEnvironment.AdapterAwaits (environment : CheckEnvironment)
    (spec : ReadinessCheckSpec) (limit elapsed : ℚ)
    (completion : Completion (Except PyExc CheckValue)) : Prop where
  adapter : spec.healthResultAdapter.isSome = true
  inTime : elapsed ≤ limit
  awaits :
    ∃ value,
      (environment.check spec).invoke = .settles elapsed (.ok value) ∧
        environment.adapter spec value = .ok (.awaitable completion)

/-- The adapter returns an awaitable which never completes. -/
def CheckEnvironment.AdapterHangs (environment : CheckEnvironment)
    (spec : ReadinessCheckSpec) (limit : ℚ) : Prop :=
  ∃ elapsed, environment.AdapterAwaits spec limit elapsed .pending

/-- The awaitable of the adapter has not completed at the limit. -/
def CheckEnvironment.AdapterOverruns (environment : CheckEnvironment)
    (spec : ReadinessCheckSpec) (limit : ℚ) : Prop :=
  ∃ elapsed completion,
    environment.AdapterAwaits spec limit elapsed completion ∧
      ¬completion.SettlesBy (limit - elapsed)

namespace ReadinessRegistry

variable {registry : ReadinessRegistry} {environment : CheckEnvironment}
  {spec : ReadinessCheckSpec} {limit : ℚ}

/-- The adapter's awaitable is awaited without a limit. -/
theorem report_of_adapterAwaits
    (limited : registry.effectiveTimeout spec = some limit) {elapsed : ℚ}
    {completion : Completion (Except PyExc CheckValue)}
    (awaits :
      environment.AdapterAwaits spec limit elapsed completion) :
    registry.report environment spec =
      match completion with
      | .pending => .pending
      | .settles later outcome => .settles (elapsed + later) outcome := by
  rcases awaits.awaits with ⟨value, invoked, adapted⟩
  have waited :=
    waitFor_eq_ok_iff.mpr ⟨invoked, awaits.inTime⟩
  rcases Option.isSome_iff_exists.mp awaits.adapter with
    ⟨callable, adapter⟩
  rw [report, limited, invokeCheck, waited, adapter]
  simp only [Completion.andThen, adapted, Returned.await]
  cases completion <;> rfl

/-- Everything else is over at the limit. -/
theorem report_of_not_adapterAwaits
    (limited : registry.effectiveTimeout spec = some limit)
    (silent :
      ∀ elapsed completion,
        ¬environment.AdapterAwaits spec limit elapsed completion) :
    (registry.report environment spec).SettlesBy limit := by
  rcases settlesBy_waitFor limit (environment.check spec).invoke with
    ⟨elapsed, outcome, waited, inTime⟩
  rw [report, limited, invokeCheck, waited]
  have later : elapsed + 0 ≤ limit := by rwa [add_zero]
  cases outcome with
  | error exception => exact ⟨_, _, rfl, later⟩
  | ok value =>
      cases adapter : spec.healthResultAdapter with
      | none => exact ⟨_, _, rfl, later⟩
      | some callable =>
          cases adapted : environment.adapter spec value with
          | error exception =>
              refine ⟨elapsed + 0, .error exception, ?_, later⟩
              simp only [Completion.andThen, adapted]
          | ok result =>
              cases result with
              | value reported =>
                  refine ⟨elapsed + 0, .ok reported, ?_, later⟩
                  simp only [Completion.andThen, adapted, Returned.await]
              | awaitable completion =>
                  have invoked := (waitFor_eq_ok_iff.mp waited).1
                  exact
                    (silent elapsed completion
                      { adapter := by rw [adapter]; rfl
                        inTime := inTime
                        awaits := ⟨value, invoked, adapted⟩ }).elim

theorem settles_report_iff
    (limited : registry.effectiveTimeout spec = some limit) :
    (registry.report environment spec).Settles ↔
      ¬environment.AdapterHangs spec limit := by
  constructor
  · rintro ⟨time, report, settled⟩ ⟨elapsed, awaits⟩
    rw [report_of_adapterAwaits limited awaits] at settled
    cases settled
  · intro completes
    by_cases silent :
      ∀ elapsed completion,
        ¬environment.AdapterAwaits spec limit elapsed completion
    · rcases report_of_not_adapterAwaits limited silent with
        ⟨elapsed, report, settled, -⟩
      exact ⟨elapsed, report, settled⟩
    · simp only [not_forall, not_not] at silent
      rcases silent with ⟨elapsed, completion, awaits⟩
      cases completion with
      | pending => exact (completes ⟨elapsed, awaits⟩).elim
      | settles later outcome =>
          exact
            ⟨elapsed + later, outcome,
              report_of_adapterAwaits limited awaits⟩

theorem settlesBy_report_iff
    (limited : registry.effectiveTimeout spec = some limit) :
    (registry.report environment spec).SettlesBy limit ↔
      ¬environment.AdapterOverruns spec limit := by
  constructor
  · rintro ⟨time, report, settled, inTime⟩
      ⟨elapsed, completion, awaits, late⟩
    rw [report_of_adapterAwaits limited awaits] at settled
    cases completion with
    | pending => cases settled
    | settles later outcome =>
        cases settled
        exact late ⟨later, report, rfl, le_sub_iff_add_le'.mpr inTime⟩
  · intro prompt
    by_cases silent :
      ∀ elapsed completion,
        ¬environment.AdapterAwaits spec limit elapsed completion
    · exact report_of_not_adapterAwaits limited silent
    · simp only [not_forall, not_not] at silent
      rcases silent with ⟨elapsed, completion, awaits⟩
      by_cases inTime : completion.SettlesBy (limit - elapsed)
      · rcases inTime with ⟨later, outcome, rfl, inTime⟩
        exact
          ⟨elapsed + later, outcome,
            report_of_adapterAwaits limited awaits,
            le_sub_iff_add_le'.mp inTime⟩
      · exact (prompt ⟨elapsed, completion, awaits, inTime⟩).elim

/-- A check which never completes is a failure of its run. -/
theorem run_of_invoke_pending
    (limited : registry.effectiveTimeout spec = some limit)
    (pending : (environment.check spec).invoke = .pending) :
    registry.run environment spec =
      .settles (limit + 0)
        { structured := none, outcome := .error .timeoutError } := by
  rw [run, report, limited, invokeCheck, pending]
  rfl

/-! ## The runs of a check -/

variable (registry environment)

/--
The run of a spec ends, with a failure if the awaitable of its check or of its
adapter never completes.
-/
structure EndsDefinitely (spec : ReadinessCheckSpec) (limit : ℚ) :
    Prop where
  ends : (registry.run environment spec).Settles
  fails :
    (environment.check spec).invoke = .pending ∨
        environment.AdapterHangs spec limit →
      ∀ elapsed ended,
        registry.run environment spec = .settles elapsed ended →
          ∃ exception, ended.outcome = .error exception

variable {registry environment}

theorem endsDefinitely_iff
    (limited : registry.effectiveTimeout spec = some limit) :
    registry.EndsDefinitely environment spec limit ↔
      ¬environment.AdapterHangs spec limit := by
  rw [← settles_report_iff limited]
  constructor
  · intro definite
    exact Completion.settles_map_iff.mp definite.ends
  · intro settles
    refine ⟨settles.map _, ?_⟩
    rintro (pending | hangs) elapsed ended settled
    · rw [run_of_invoke_pending limited pending] at settled
      cases settled
      exact ⟨.timeoutError, rfl⟩
    · exact ((settles_report_iff limited).mp settles hangs).elim

theorem settlesBy_run_iff
    (limited : registry.effectiveTimeout spec = some limit) :
    (registry.run environment spec).SettlesBy limit ↔
      ¬environment.AdapterOverruns spec limit :=
  Completion.settlesBy_map_iff.trans (settlesBy_report_iff limited)

theorem completes_iff {specs : List ReadinessCheckSpec} :
    registry.Completes environment specs ↔
      ∀ spec ∈ specs, (registry.report environment spec).Settles := by
  simp only [Completes, Completion.value?_isSome_iff]

/-- A check of checks which complete is not pending. -/
theorem check_ne_none {sdk : HealthSdk} (contract : sdk.Contract)
    {names : Option (List Name)} {parallel : Bool} {overall : Option ℚ}
    (completes :
      registry.Completes environment (registry.selected names)) :
    registry.check sdk environment names parallel overall ≠ none := by
  cases inTime :
    sdk.overruns parallel overall
      (sdkTimings
        (registry.sdkChecks environment (registry.selected names))) with
  | false =>
      rw [check_eq contract completes inTime]
      exact Option.some_ne_none _
  | true =>
      simp [check, contract.timeout parallel overall _ _ inTime]

/-- A check whose own timeout does not fire waits for every run. -/
theorem check_eq_none {sdk : HealthSdk} (waits : sdk.Waits)
    {names : Option (List Name)} {parallel : Bool} {overall : Option ℚ}
    (inTime :
      sdk.overruns parallel overall
          (sdkTimings
            (registry.sdkChecks environment (registry.selected names))) =
        false)
    (pending :
      ¬registry.Completes environment (registry.selected names)) :
    registry.check sdk environment names parallel overall = none := by
  rcases exists_unsettled_of_not_completes pending with
    ⟨spec, -, -, unsettled⟩
  simp only [check, waits parallel overall _ _ inTime unsettled]

/-- With a timeout for every spec, only an adapter leaves a check pending. -/
theorem check_eq_none_iff {sdk : HealthSdk} (contract : sdk.Contract)
    (waits : sdk.Waits) {names : Option (List Name)} {parallel : Bool}
    {overall : Option ℚ}
    (limited :
      ∀ spec ∈ registry.selected names,
        (registry.effectiveTimeout spec).isSome = true) :
    registry.check sdk environment names parallel overall = none ↔
      sdk.overruns parallel overall
          (sdkTimings
            (registry.sdkChecks environment (registry.selected names))) =
        false ∧
      ∃ spec ∈ registry.selected names, ∃ limit,
        registry.effectiveTimeout spec = some limit ∧
          environment.AdapterHangs spec limit := by
  constructor
  · intro pending
    constructor
    · rw [← Bool.not_eq_true]
      intro overruns
      simp [check, contract.timeout parallel overall _ _ overruns] at pending
    · by_contra prompt
      refine check_ne_none contract (completes_iff.mpr ?_) pending
      intro spec member
      rcases Option.isSome_iff_exists.mp (limited spec member) with
        ⟨limit, timeout⟩
      rw [settles_report_iff timeout]
      intro hangs
      exact prompt ⟨spec, member, limit, timeout, hangs⟩
  · rintro ⟨inTime, spec, member, limit, timeout, hangs⟩
    apply check_eq_none waits inTime
    intro completes
    have settles := completes_iff.mp completes spec member
    exact (settles_report_iff timeout).mp settles hangs

variable (registry environment)

/--
The timeouts bound the checks: the run of every selected spec with a timeout
ends, and if all of them have one the check of the registry does.
-/
structure TimeoutsBound (sdk : HealthSdk) (names : Option (List Name)) :
    Prop where
  runs :
    ∀ spec ∈ registry.selected names, ∀ limit,
      registry.effectiveTimeout spec = some limit →
        registry.EndsDefinitely environment spec limit
  check :
    (∀ spec ∈ registry.selected names,
        (registry.effectiveTimeout spec).isSome = true) →
      ∀ parallel overall,
        registry.check sdk environment names parallel overall ≠ none

variable {registry environment}

/--
The timeouts bound the checks exactly if no adapter returns an awaitable which
never completes for the value of a check, and a run ends within its timeout
exactly if the awaitable of its adapter completes in the time which is left.
-/
theorem timeoutsBound_iff {sdk : HealthSdk} (contract : sdk.Contract)
    {names : Option (List Name)} :
    (registry.TimeoutsBound environment sdk names ↔
      ∀ spec ∈ registry.selected names, ∀ limit,
        registry.effectiveTimeout spec = some limit →
          ¬environment.AdapterHangs spec limit) ∧
    ∀ spec ∈ registry.selected names, ∀ limit,
      registry.effectiveTimeout spec = some limit →
        ((registry.run environment spec).SettlesBy limit ↔
          ¬environment.AdapterOverruns spec limit) := by
  refine ⟨?_, fun spec _ limit limited => settlesBy_run_iff limited⟩
  constructor
  · intro bound spec member limit limited
    exact (endsDefinitely_iff limited).mp (bound.runs spec member limit limited)
  · intro prompt
    constructor
    · intro spec member limit limited
      exact (endsDefinitely_iff limited).mpr (prompt spec member limit limited)
    · intro limited parallel overall
      apply check_ne_none contract
      rw [completes_iff]
      intro spec member
      rcases Option.isSome_iff_exists.mp (limited spec member) with
        ⟨limit, timeout⟩
      exact (settles_report_iff timeout).mpr (prompt spec member limit timeout)

/-! ## A check with an adapter -/

/-- A required check with a timeout of a second and an adapter. -/
def adaptedRegistry : ReadinessRegistry :=
  ofSpecs none
    [{ name := "database", check := .function 0, timeoutSeconds := some 1,
       healthResultAdapter := some (.function 1) }]
    (by decide) (by decide)

/-- The check returns at once, and its adapter returns an awaitable. -/
def adaptedBy (completion : Completion (Except PyExc CheckValue)) :
    CheckEnvironment where
  check _ := .coroutineFunction (.settles 0 (.ok .none))
  adapter _ _ := .ok (.awaitable completion)

theorem timeoutsBound_adaptedRegistry :
    adaptedRegistry.TimeoutsBound (adaptedBy (.settles 0 (.ok (.bool true))))
      .documented none := by
  apply (timeoutsBound_iff HealthSdk.documented_contract).1.mpr
  rintro spec - limit - ⟨elapsed, awaits⟩
  rcases awaits.awaits with ⟨value, -, ⟨⟩⟩

/-- The check of the registry waits for the adapter for ever. -/
theorem not_forall_timeoutsBound :
    ¬∀ (registry : ReadinessRegistry) (environment : CheckEnvironment)
        (sdk : HealthSdk) (names : Option (List Name)),
      sdk.Contract → registry.TimeoutsBound environment sdk names := by
  intro bounds
  have bound :=
    bounds adaptedRegistry (adaptedBy .pending) .documented none
      HealthSdk.documented_contract
  have ends := bound.check (by decide) false none
  exact ends rfl

end ReadinessRegistry

end FastapiCore
