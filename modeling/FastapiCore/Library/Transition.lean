import Mathlib.Data.List.Basic

/-!
# Runs of a labelled transition system

A run from a start state is built up one step at a time, so an invariant of
its last state follows from the start and from what one step preserves.
Restricting the labels of a system restricts its runs, which gives the
invariants of those runs only whose steps satisfy a condition.
-/

namespace FastapiCore.Library

universe u v

variable {σ : Type u} {ℓ : Type v}

/-- The runs of a transition relation, with the labels of their steps. -/
inductive Run (step : σ → ℓ → σ → Prop) (start : σ) :
    List ℓ → σ → Prop where
  | nil : Run step start [] start
  | snoc {labels : List ℓ} {label : ℓ} {state next : σ}
      (run : Run step start labels state)
      (last : step state label next) :
      Run step start (labels ++ [label]) next

namespace Run

variable {step : σ → ℓ → σ → Prop} {start state : σ} {labels : List ℓ}

/-- What holds at the start and is kept by every step holds at the end. -/
theorem invariant {holds : σ → Prop}
    (run : Run step start labels state) (initial : holds start)
    (kept :
      ∀ before label after, step before label after → holds before →
        holds after) :
    holds state := by
  induction run with
  | nil => exact initial
  | snoc _ last induction => exact kept _ _ _ last induction

/-- An invariant which also speaks of the labels so far. -/
theorem labelled_invariant {holds : List ℓ → σ → Prop}
    (run : Run step start labels state) (initial : holds [] start)
    (kept :
      ∀ earlier before label after, step before label after →
        holds earlier before → holds (earlier ++ [label]) after) :
    holds labels state := by
  induction run with
  | nil => exact initial
  | snoc _ last induction => exact kept _ _ _ _ last induction

/-- A run goes on where another one has ended. -/
theorem append {last : σ} {later : List ℓ}
    (run : Run step start labels state)
    (next : Run step state later last) :
    Run step start (labels ++ later) last := by
  induction next with
  | nil =>
      rw [List.append_nil]
      exact run
  | snoc _ final induction =>
      rw [← List.append_assoc]
      exact induction.snoc final

/-- A view whose steps are those of another system has the runs of that. -/
theorem project {τ : Type*} {κ : Type*} {target : τ → κ → τ → Prop}
    {view : σ → τ} {image : ℓ → Option κ}
    (run : Run step start labels state)
    (silent :
      ∀ before label after, step before label after →
        image label = none → view after = view before)
    (visible :
      ∀ before label action after, step before label after →
        image label = some action →
          target (view before) action (view after)) :
    Run target (view start) (labels.filterMap image) (view state) := by
  induction run with
  | nil => exact nil
  | snoc earlier last induction =>
      rename_i label before after
      rw [List.filterMap_append]
      cases shown : image label with
      | none =>
          rw [silent before label after last shown,
            List.filterMap_cons_none shown, List.filterMap_nil,
            List.append_nil]
          exact induction
      | some action =>
          rw [List.filterMap_cons_some shown, List.filterMap_nil]
          exact induction.snoc (visible before label action after last shown)

/-- The runs whose steps all satisfy a condition. -/
theorem invariant_of_forall {holds : σ → Prop}
    {allowed : σ → ℓ → Prop}
    (run :
      Run (fun before label after =>
        step before label after ∧ allowed before label) start labels state)
    (initial : holds start)
    (kept :
      ∀ before label after, step before label after →
        allowed before label → holds before → holds after) :
    holds state :=
  run.invariant initial fun before label after taken =>
    kept before label after taken.1 taken.2

end Run

/-! ## States on the way -/

/-- A run to the state which passes a state with a property. -/
def Passes (step : σ → ℓ → σ → Prop) (holds : σ → Prop) (start : σ)
    (labels : List ℓ) (state : σ) : Prop :=
  ∃ earlier later middle,
    labels = earlier ++ later ∧ Run step start earlier middle ∧
      holds middle ∧ Run step middle later state

section Passes

variable {step : σ → ℓ → σ → Prop} {holds : σ → Prop} {start state : σ}
  {labels : List ℓ}

theorem Run.passes_end (run : Run step start labels state)
    (last : holds state) : Passes step holds start labels state :=
  ⟨labels, [], state, (List.append_nil labels).symm, run, last, .nil⟩

theorem Passes.snoc {label : ℓ} {next : σ}
    (passes : Passes step holds start labels state)
    (last : step state label next) :
    Passes step holds start (labels ++ [label]) next := by
  rcases passes with ⟨earlier, later, middle, rfl, run, held, rest⟩
  exact
    ⟨earlier, later ++ [label], middle, List.append_assoc .., run, held,
      rest.snoc last⟩

/--
What is established in a state with the property, and kept by the steps which
begin where an invariant holds, holds at the end.
-/
theorem Passes.invariant {tracked kept : List ℓ → σ → Prop}
    (passes : Passes step holds start labels state)
    (initial : tracked [] start)
    (tracks :
      ∀ earlier before label after, step before label after →
        tracked earlier before → tracked (earlier ++ [label]) after)
    (enters :
      ∀ earlier middle, tracked earlier middle → holds middle →
        kept earlier middle)
    (keeps :
      ∀ earlier before label after, step before label after →
        tracked earlier before → kept earlier before →
          kept (earlier ++ [label]) after) :
    kept labels state := by
  rcases passes with ⟨earlier, later, middle, rfl, run, held, rest⟩
  have before := run.labelled_invariant initial tracks
  have after :
      tracked (earlier ++ later) state ∧ kept (earlier ++ later) state := by
    induction rest with
    | nil =>
        rw [List.append_nil]
        exact ⟨before, enters _ _ before held⟩
    | snoc _ last induction =>
        rw [← List.append_assoc]
        exact
          ⟨tracks _ _ _ _ last induction.1,
            keeps _ _ _ _ last induction.1 induction.2⟩
  exact after.2

/-- A run which passes no such state keeps what its other steps keep. -/
theorem Run.invariant_of_not_passes {kept : List ℓ → σ → Prop}
    (run : Run step start labels state)
    (avoids : ¬Passes step holds start labels state)
    (initial : kept [] start)
    (keeps :
      ∀ earlier before label after, step before label after →
        ¬holds after → kept earlier before →
          kept (earlier ++ [label]) after) :
    kept labels state := by
  induction run with
  | nil => exact initial
  | snoc earlier last induction =>
      have before := induction fun passes => avoids (passes.snoc last)
      have other := fun held => avoids ((earlier.snoc last).passes_end held)
      exact keeps _ _ _ _ last other before

end Passes

/-! ## Steps which are a function of the state -/

/-- Every transition from `start` along the labels satisfies a relation. -/
def Along (next : σ → ℓ → σ) (holds : σ → ℓ → Prop) :
    σ → List ℓ → Prop
  | _, [] => True
  | state, label :: rest =>
      holds state label ∧ Along next holds (next state label) rest

namespace Along

variable {next : σ → ℓ → σ} {start : σ} {labels : List ℓ}
variable {assumed left right : σ → ℓ → Prop}

/--
Two relations hold along the same runs if an invariant makes them equivalent
and the transitions which satisfy the second one keep the invariant.
-/
theorem congr (invariant : σ → Prop) (initial : invariant start)
    (assumption : Along next assumed start labels)
    (same :
      ∀ state label, invariant state → assumed state label →
        (left state label ↔ right state label))
    (kept :
      ∀ state label, invariant state → assumed state label →
        right state label → invariant (next state label)) :
    Along next left start labels ↔ Along next right start labels := by
  induction labels generalizing start with
  | nil => exact Iff.rfl
  | cons label rest induction =>
      show (left start label ∧ _) ↔ (right start label ∧ _)
      rw [same start label initial assumption.1]
      apply and_congr_right
      intro holds
      exact
        induction (kept start label initial assumption.1 holds)
          assumption.2

/-- An invariant holds after all transitions if each of them keeps it. -/
theorem invariant_foldl (invariant : σ → Prop) (initial : invariant start)
    (assumption : Along next assumed start labels)
    (kept :
      ∀ state label, invariant state → assumed state label →
        invariant (next state label)) :
    invariant (labels.foldl next start) := by
  induction labels generalizing start with
  | nil => exact initial
  | cons label rest induction =>
      exact
        induction (kept start label initial assumption.1) assumption.2

end Along

/-! ## What is written last -/

section Written

universe w

variable {β : Type w} (next : σ → ℓ → σ) (writes : σ → ℓ → Option β)

/-- What the transitions from `start` along the labels write. -/
def written : σ → List ℓ → List β
  | _, [] => []
  | state, label :: rest =>
      (writes state label).toList ++ written (next state label) rest

variable {next writes}

/-- A view which is only overwritten shows what has been written last. -/
theorem view_foldl_eq_last_written {view : σ → Option β}
    (overwrites :
      ∀ state label,
        view (next state label) = (writes state label).or (view state))
    (start : σ) (labels : List ℓ) :
    view (labels.foldl next start) =
      (written next writes start labels).getLast?.or (view start) := by
  induction labels generalizing start with
  | nil => exact Option.none_or.symm
  | cons label rest induction =>
      simp only [List.foldl_cons, induction, overwrites, written,
        List.getLast?_append]
      cases writes start label with
      | none =>
          simp only [Option.toList_none, List.getLast?_nil, Option.or_none,
            Option.none_or]
      | some value =>
          simp only [Option.toList_some, List.getLast?_singleton,
            Option.or_assoc]

end Written

end FastapiCore.Library
