import FastapiCore.Library.Transition
import Mathlib.Data.List.Nodup

/-!
# A pool of workers with a queue

Items are submitted to a queue.  A free worker starts the item at the head of
the queue and is busy until this item finishes.  An item may also be dropped:
it leaves the queue, but a worker which has started it is not stopped.

Items start in the order in which they were submitted.  If all workers are
busy, nothing starts until an item finishes, whatever is dropped.
-/

namespace FastapiCore.Library

universe u

/-- The items which wait, and those which occupy a worker. -/
structure WorkerPool (ι : Type u) where
  queue : List ι := []
  busy : List ι := []

/-- What happens in a pool. -/
inductive PoolAction (ι : Type u) where
  | submit (item : ι)
  | start (item : ι)
  | finish (item : ι)
  | drop (item : ι)

namespace PoolAction

variable {ι : Type u}

/-- The item which an action is about. -/
def item : PoolAction ι → ι
  | .submit item => item
  | .start item => item
  | .finish item => item
  | .drop item => item

/-- The item which an action submits. -/
def submitted? : PoolAction ι → Option ι
  | .submit item => some item
  | _ => none

/-- The item which an action starts. -/
def started? : PoolAction ι → Option ι
  | .start item => some item
  | _ => none

end PoolAction

namespace WorkerPool

variable {ι : Type u} {workers : Nat} {pool : WorkerPool ι}

/-- When an action can happen in a pool of some number of workers. -/
def Allows (workers : Nat) (pool : WorkerPool ι) : PoolAction ι → Prop
  | .submit _ => True
  | .start item =>
      pool.queue.head? = some item ∧ pool.busy.length < workers
  | .finish item => item ∈ pool.busy
  | .drop _ => True

theorem queue_eq_cons {item : ι} (head : pool.queue.head? = some item) :
    pool.queue = item :: pool.queue.tail := by
  cases queue : pool.queue with
  | nil =>
      rw [queue] at head
      cases head
  | cons first rest =>
      rw [queue] at head
      cases head
      exact Eq.refl _

/-- An item waits only while all workers are busy. -/
theorem exists_start (waiting : pool.queue ≠ [])
    (free : pool.busy.length < workers) :
    ∃ item ∈ pool.queue, pool.Allows workers (.start item) := by
  rcases List.exists_cons_of_ne_nil waiting with ⟨item, rest, queue⟩
  refine ⟨item, queue ▸ .head rest, ?_, free⟩
  rw [queue]
  exact Eq.refl _

variable [DecidableEq ι]

/-- The pool after an action. -/
def after (pool : WorkerPool ι) : PoolAction ι → WorkerPool ι
  | .submit item => { pool with queue := pool.queue ++ [item] }
  | .start item => { queue := pool.queue.tail, busy := item :: pool.busy }
  | .finish item => { pool with busy := pool.busy.erase item }
  | .drop item => { pool with queue := pool.queue.erase item }

/-- One action of a pool. -/
def Step (workers : Nat) (pool : WorkerPool ι) (action : PoolAction ι)
    (next : WorkerPool ι) : Prop :=
  pool.Allows workers action ∧ next = pool.after action

variable {start next : WorkerPool ι} {action : PoolAction ι}
variable {actions : List (PoolAction ι)}

/-! ## Other items -/

/-- An action leaves the places of other items as they are. -/
theorem count_after_of_ne (allowed : pool.Allows workers action)
    {other : ι} (different : other ≠ action.item) :
    (pool.after action).queue.count other = pool.queue.count other ∧
      (pool.after action).busy.count other = pool.busy.count other := by
  have apart : action.item ≠ other := Ne.symm different
  cases action with
  | submit item =>
      have absent : [item].count other = 0 :=
        List.count_eq_zero.mpr fun member =>
          different (List.mem_singleton.mp member)
      refine ⟨?_, Eq.refl _⟩
      simp only [after, List.count_append, absent, Nat.add_zero]
  | start item =>
      refine ⟨?_, List.count_cons_of_ne apart⟩
      have queue : pool.queue.count other = pool.queue.tail.count other :=
        (congrArg (List.count other) (queue_eq_cons allowed.1)).trans
          (List.count_cons_of_ne apart)
      exact queue.symm
  | finish item =>
      exact ⟨Eq.refl _, List.count_erase_of_ne different⟩
  | drop item =>
      exact ⟨List.count_erase_of_ne different, Eq.refl _⟩

/-! ## Capacity -/

theorem length_busy_step (step : Step workers pool action next)
    (bounded : pool.busy.length ≤ workers) :
    next.busy.length ≤ workers := by
  rcases step with ⟨allowed, rfl⟩
  cases action with
  | submit item => exact bounded
  | start item => exact allowed.2
  | finish item => exact Nat.le_trans List.length_erase_le bounded
  | drop item => exact bounded

/-- Never more items run than there are workers. -/
theorem length_busy_run (run : Run (Step workers) start actions pool)
    (bounded : start.busy.length ≤ workers) :
    pool.busy.length ≤ workers :=
  run.invariant bounded fun _ _ _ step => length_busy_step step

/-! ## Order -/

theorem order_step (step : Step workers pool action next)
    {begun given : List ι}
    (ordered : (begun ++ pool.queue).Sublist given) :
    (begun ++ action.started?.toList ++ next.queue).Sublist
      (given ++ action.submitted?.toList) := by
  rcases step with ⟨allowed, rfl⟩
  cases action with
  | submit item =>
      simp only [after, PoolAction.started?, PoolAction.submitted?,
        Option.toList_none, Option.toList_some, List.append_nil,
        ← List.append_assoc]
      exact ordered.append_right [item]
  | start item =>
      simp only [after, PoolAction.started?, PoolAction.submitted?,
        Option.toList_none, Option.toList_some, List.append_nil,
        List.append_assoc, List.singleton_append]
      rw [← queue_eq_cons allowed.1]
      exact ordered
  | finish item =>
      simpa [after, PoolAction.started?, PoolAction.submitted?] using ordered
  | drop item =>
      simp only [after, PoolAction.started?, PoolAction.submitted?,
        Option.toList_none, List.append_nil]
      exact (List.erase_sublist.append_left begun).trans ordered

/-- Items start in the order in which they were submitted. -/
theorem order_run (run : Run (Step workers) start actions pool) :
    (actions.filterMap PoolAction.started? ++ pool.queue).Sublist
      (start.queue ++ actions.filterMap PoolAction.submitted?) := by
  apply run.labelled_invariant
  · simp
  · intro earlier before action after step ordered
    have further := order_step step ordered
    simp only [List.filterMap_append, List.append_assoc] at further ⊢
    cases action <;> exact further

/-! ## Busy workers -/

/-- Nothing starts in a full pool before an item finishes. -/
theorem started_eq_nil_of_full (run : Run (Step workers) start actions pool)
    (full : workers ≤ start.busy.length)
    (unfinished : ∀ item, .finish item ∉ actions) :
    actions.filterMap PoolAction.started? = [] ∧
      pool.busy = start.busy := by
  induction run with
  | nil => exact ⟨Eq.refl _, Eq.refl _⟩
  | snoc run last induction =>
      rename_i earlier action before after
      have same :=
        induction fun item member =>
          unfinished item (List.mem_append_left _ member)
      rcases last with ⟨allowed, rfl⟩
      rw [List.filterMap_append, same.1]
      cases action with
      | submit item => exact ⟨Eq.refl _, same.2⟩
      | drop item => exact ⟨Eq.refl _, same.2⟩
      | finish item => exact (unfinished item (by simp)).elim
      | start item =>
          have free := allowed.2
          rw [same.2] at free
          exact (Nat.not_lt.mpr full free).elim

end WorkerPool

end FastapiCore.Library
