import Mathlib.Data.List.Basic
import Mathlib.Data.List.Count

/-!
# Interleaving queues by a schedule

Several producers each append to a queue of their own, and a schedule says
which of them appends next.  The interleaving takes from each queue as many
elements as the schedule names its producer, in the order of the schedule.

For queues of the same lengths the interleaving determines exactly the
elements which it takes, so two interleavings can be compared position by
position in the queues.
-/

namespace FastapiCore.Library

universe u v

variable {ι : Type u} {α : Type v} [DecidableEq ι]

/--
The elements which a schedule takes from the queues, after some elements have
been taken already.
-/
def interleaveFrom (queues : ι → List α) (taken : ι → Nat) :
    List ι → List α
  | [] => []
  | producer :: rest =>
      ((queues producer)[taken producer]?).toList ++
        interleaveFrom queues
          (Function.update taken producer (taken producer + 1)) rest

/-- The interleaving of queues by a schedule. -/
def interleave (queues : ι → List α) (schedule : List ι) : List α :=
  interleaveFrom queues (fun _ => 0) schedule

/-- Positions which a schedule takes are all that an interleaving reads. -/
theorem interleaveFrom_congr
    {left right : ι → List α} {taken : ι → Nat} {schedule : List ι}
    (agree :
      ∀ producer position,
        taken producer ≤ position →
          position < taken producer + schedule.count producer →
            (left producer)[position]? = (right producer)[position]?) :
    interleaveFrom left taken schedule =
      interleaveFrom right taken schedule := by
  induction schedule generalizing taken with
  | nil => rfl
  | cons producer rest induction =>
      rw [interleaveFrom, interleaveFrom,
        agree producer (taken producer) (Nat.le_refl _) (by simp)]
      refine congrArg _ (induction fun other position above below => ?_)
      by_cases same : other = producer
      · subst same
        rw [Function.update_self] at above below
        refine agree other position (by omega) ?_
        rw [List.count_cons_self]
        omega
      · rw [Function.update_of_ne same] at above below
        refine agree other position above ?_
        rwa [List.count_cons_of_ne (Ne.symm same)]

theorem interleave_congr
    {left right : ι → List α} {schedule : List ι}
    (agree :
      ∀ producer position, position < schedule.count producer →
        (left producer)[position]? = (right producer)[position]?) :
    interleave left schedule = interleave right schedule :=
  interleaveFrom_congr fun producer position _ below =>
    agree producer position (by simpa using below)

theorem length_interleaveFrom_congr
    {left right : ι → List α} (taken : ι → Nat) (schedule : List ι)
    (lengths :
      ∀ producer, (left producer).length = (right producer).length) :
    (interleaveFrom left taken schedule).length =
      (interleaveFrom right taken schedule).length := by
  induction schedule generalizing taken with
  | nil => rfl
  | cons producer rest induction =>
      have taking :
          ((left producer)[taken producer]?).toList.length =
            ((right producer)[taken producer]?).toList.length := by
        by_cases inside : taken producer < (left producer).length
        · rw [List.getElem?_eq_getElem inside,
            List.getElem?_eq_getElem (lengths producer ▸ inside)]
          rfl
        · rw [List.getElem?_eq_none (by omega),
            List.getElem?_eq_none (by have := lengths producer; omega)]
      rw [interleaveFrom, interleaveFrom, List.length_append,
        List.length_append, taking, induction]

/-- Queues of the same lengths with the same interleaving agree where taken. -/
theorem agree_of_interleaveFrom_eq
    {left right : ι → List α} {taken : ι → Nat} {schedule : List ι}
    (lengths :
      ∀ producer, (left producer).length = (right producer).length)
    (equal :
      interleaveFrom left taken schedule =
        interleaveFrom right taken schedule)
    (producer : ι) (position : Nat)
    (above : taken producer ≤ position)
    (below : position < taken producer + schedule.count producer) :
    (left producer)[position]? = (right producer)[position]? := by
  induction schedule generalizing taken with
  | nil => simp at below; omega
  | cons current rest induction =>
      rw [interleaveFrom, interleaveFrom] at equal
      have tails :=
        length_interleaveFrom_congr
          (Function.update taken current (taken current + 1)) rest lengths
      rcases List.append_inj' equal tails with ⟨heads, remaining⟩
      by_cases same : producer = current
      · subst same
        by_cases now : position = taken producer
        · subst now
          cases first : (left producer)[taken producer]? with
          | none =>
              cases second : (right producer)[taken producer]? with
              | none => rfl
              | some element => rw [first, second] at heads; cases heads
          | some element =>
              cases second : (right producer)[taken producer]? with
              | none => rw [first, second] at heads; cases heads
              | some other => rw [first, second] at heads; cases heads; rfl
        · refine induction remaining ?_ ?_
          · rw [Function.update_self]
            omega
          · rw [Function.update_self]
            rw [List.count_cons_self] at below
            omega
      · refine induction remaining ?_ ?_
        · rwa [Function.update_of_ne same]
        · rw [Function.update_of_ne same]
          rwa [List.count_cons_of_ne (Ne.symm same)] at below

theorem agree_of_interleave_eq
    {left right : ι → List α} {schedule : List ι}
    (lengths :
      ∀ producer, (left producer).length = (right producer).length)
    (equal : interleave left schedule = interleave right schedule)
    {producer : ι} {position : Nat}
    (below : position < schedule.count producer) :
    (left producer)[position]? = (right producer)[position]? :=
  agree_of_interleaveFrom_eq lengths equal producer position
    (Nat.zero_le _) (by simpa using below)

end FastapiCore.Library
