import Mathlib.Data.List.Nodup
import JarvisCore.Foundation.AsyncIO

/-!
Who gets a lock next. A waiter that was cancelled stays in the queue until its task runs,
but it never gets the lock; the others get it in the order in which they came, and a lock
that nobody holds has either woken its first waiter or has a cancelled one there that will
pass the turn on.
-/

namespace JarvisCore.Foundation.FairLock

open JarvisCore.Foundation.AsyncIO
open JarvisCore.Foundation.AsyncIO.Lock

variable {Task : Type*}

/-- The waiters that can still get the lock, the next one first. -/
def candidates (l : Lock Task) : List Task :=
  (l.waiters.filter fun w => w.2 ≠ .cancelled).map fun w => w.1

/-- A lock without a lost wake-up. -/
structure Orderly (l : Lock Task) : Prop where
  wellFormed : l.WellFormed
  distinct : l.queue.Nodup
  awake : l.owner = none → ∀ w ∈ l.waiters.head?, w.2 ≠ .pending

theorem Orderly.free : Orderly (free : Lock Task) where
  wellFormed := .free
  distinct := List.nodup_nil
  awake _ w hw := by cases hw

@[simp] theorem candidates_take (task : Task) (l : Lock Task) :
    candidates (l.take task) = candidates l := rfl

@[simp] theorem candidates_enqueue (task : Task) (l : Lock Task) :
    candidates (l.enqueue task) = candidates l ++ [task] := by
  simp [candidates, enqueue, List.filter_append]

@[simp] theorem candidates_wakeUpFirst (l : Lock Task) :
    candidates l.wakeUpFirst = candidates l := by
  unfold wakeUpFirst
  split
  · rename_i task rest hwaiters
    simp [candidates, hwaiters]
  · rfl

@[simp] theorem candidates_release (l : Lock Task) : candidates l.release = candidates l :=
  candidates_wakeUpFirst { l with owner := none }

theorem candidates_of_available {l : Lock Task} (h : l.available = true) : candidates l = [] := by
  simp only [available, Bool.and_eq_true, List.all_eq_true, decide_eq_true_eq] at h
  rw [candidates, List.map_eq_nil_iff, List.filter_eq_nil_iff]
  intro w hw
  simp [h.2 w hw]

/-- A lock that is neither held nor free for the taking has somebody in its queue. -/
theorem exists_waiter_of_not_available {l : Lock Task} (h : l.available = false)
    (howner : l.owner = none) : ∃ w rest, l.waiters = w :: rest := by
  cases hwaiters : l.waiters with
  | nil => simp [available, howner, hwaiters] at h
  | cons w rest => exact ⟨w, rest, rfl⟩

theorem wakeUpFirst_awake (l : Lock Task) : ∀ w ∈ l.wakeUpFirst.waiters.head?, w.2 ≠ .pending := by
  unfold wakeUpFirst
  split
  · intro w hw
    cases hw
    simp
  · rename_i hnone
    intro w hw hpending
    cases hwaiters : l.waiters with
    | nil => simp [hwaiters] at hw
    | cons first rest =>
        obtain rfl : first = w := by simpa [hwaiters] using hw
        exact hnone first.1 rest (by rw [hwaiters, ← hpending])

theorem cancelled_of_wakeUpFirst {l : Lock Task} {task : Task}
    (h : (task, .cancelled) ∈ l.wakeUpFirst.waiters) : (task, .cancelled) ∈ l.waiters := by
  unfold wakeUpFirst at h
  split at h
  · rename_i first rest hwaiters
    rw [hwaiters]
    exact List.mem_cons_of_mem _ (by simpa using h)
  · exact h

theorem cancelled_of_release {l : Lock Task} {task : Task}
    (h : (task, .cancelled) ∈ l.release.waiters) : (task, .cancelled) ∈ l.waiters :=
  cancelled_of_wakeUpFirst (l := { l with owner := none }) h

theorem cancelled_of_enqueue {l : Lock Task} {task other : Task}
    (h : (task, .cancelled) ∈ (l.enqueue other).waiters) : (task, .cancelled) ∈ l.waiters := by
  rcases List.mem_append.mp h with h | h
  · exact h
  · simp at h

namespace Orderly

variable {l : Lock Task}

theorem take (hl : Orderly l) (h : l.available = true) (task : Task) : Orderly (l.take task) where
  wellFormed := hl.wellFormed.take h task
  distinct := hl.distinct
  awake howner := by cases howner

theorem enqueue (hl : Orderly l) (h : l.available = false) {task : Task}
    (hnew : task ∉ l.queue) : Orderly (l.enqueue task) where
  wellFormed := hl.wellFormed.enqueue task
  distinct := by
    rw [queue_enqueue]
    exact hl.distinct.append (List.nodup_singleton task) (by simpa using hnew)
  awake howner w hw := by
    obtain ⟨first, rest, hwaiters⟩ := exists_waiter_of_not_available h howner
    refine hl.awake howner w ?_
    simpa [Lock.enqueue, hwaiters] using hw

theorem release (hl : Orderly l) : Orderly l.release where
  wellFormed := hl.wellFormed.release
  distinct := by
    rw [queue_release]
    exact hl.distinct
  awake _ := wakeUpFirst_awake _

variable [DecidableEq Task]

theorem grant (hl : Orderly l) {task : Task} (h : l.waiterState task = some .woken) :
    Orderly (l.grant task) where
  wellFormed := hl.wellFormed.grant h
  distinct := by
    rw [queue_grant]
    exact hl.distinct.filter _
  awake howner := by cases howner

theorem abandon (hl : Orderly l) (task : Task) : Orderly (l.abandon task) where
  wellFormed := hl.wellFormed.abandon task
  distinct := by
    rw [queue_abandon]
    exact hl.distinct.filter _
  awake howner := by
    rw [owner_abandon] at howner
    simp only [Lock.abandon, howner, Option.isSome_none, Bool.false_eq_true, if_false]
    exact wakeUpFirst_awake _

theorem cancelWaiter (hl : Orderly l) (task : Task) : Orderly (l.cancelWaiter task) where
  wellFormed := hl.wellFormed.cancelWaiter task
  distinct := by
    rw [queue_cancelWaiter]
    exact hl.distinct
  awake howner w hw := by
    have hstill := hl.awake howner
    cases hwaiters : l.waiters with
    | nil => simp [Lock.cancelWaiter, hwaiters] at hw
    | cons first rest =>
        obtain rfl : (if first.1 = task ∧ first.2 = .pending then (task, WaiterState.cancelled)
            else first) = w := by simpa [Lock.cancelWaiter, hwaiters] using hw
        split
        · simp
        · exact hstill first (by simp [hwaiters])

end Orderly

section Candidates

variable [DecidableEq Task] {l : Lock Task} {task : Task}

@[simp] theorem candidates_leaveQueue : candidates (l.leaveQueue task) =
    (candidates l).filter (· ≠ task) := by
  simp only [candidates, leaveQueue, List.filter_map, List.filter_filter, Function.comp_def,
    Bool.and_comm]

@[simp] theorem candidates_grant : candidates (l.grant task) =
    (candidates l).filter (· ≠ task) := candidates_leaveQueue

@[simp] theorem candidates_abandon : candidates (l.abandon task) =
    (candidates l).filter (· ≠ task) := by
  unfold abandon
  split <;> simp

theorem candidates_cancelWaiter : (candidates (l.cancelWaiter task)).Sublist (candidates l) := by
  simp only [candidates, cancelWaiter]
  induction l.waiters with
  | nil => exact .slnil
  | cons w rest ih =>
      by_cases h : w.1 = task ∧ w.2 = .pending
      · have hkept : w.2 ≠ .cancelled := by simp [h.2]
        simp only [List.map_cons, h, and_self, if_true, List.filter_cons, ne_eq, not_true_eq_false,
          decide_false, Bool.false_eq_true, if_false, reduceCtorEq, not_false_eq_true, decide_true]
        exact ih.cons _
      · simp only [List.map_cons, h, if_false, List.filter_cons]
        split
        · exact ih.cons_cons _
        · exact ih

theorem cancelled_of_leaveQueue {other : Task}
    (h : (task, .cancelled) ∈ (l.leaveQueue other).waiters) : (task, .cancelled) ∈ l.waiters :=
  (List.mem_filter.mp h).1

theorem cancelled_of_abandon {other : Task}
    (h : (task, .cancelled) ∈ (l.abandon other).waiters) : (task, .cancelled) ∈ l.waiters := by
  unfold abandon at h
  split at h
  · exact cancelled_of_leaveQueue h
  · exact cancelled_of_leaveQueue (cancelled_of_wakeUpFirst h)

theorem cancelled_of_cancelWaiter {other : Task} (hne : task ≠ other)
    (h : (task, .cancelled) ∈ (l.cancelWaiter other).waiters) : (task, .cancelled) ∈ l.waiters := by
  obtain ⟨w, hw, heq⟩ := List.mem_map.mp h
  split at heq
  · exact absurd (Prod.mk.inj heq).1.symm hne
  · rwa [← heq]

theorem Orderly.candidates_of_woken (hl : Orderly l) (h : l.waiterState task = some .woken) :
    candidates l = task :: candidates (l.grant task) := by
  have hmem := mem_of_waiterState h
  have htail := hl.wellFormed.tail
  have hdistinct := hl.distinct
  cases hwaiters : l.waiters with
  | nil => simp [hwaiters] at hmem
  | cons w rest =>
      rw [hwaiters] at hmem htail
      rcases List.mem_cons.mp hmem with rfl | hmem
      · have hfirst : candidates l = task ::
            (rest.filter fun w => w.2 ≠ .cancelled).map fun w => w.1 := by
          simp [candidates, hwaiters]
        simp only [queue, hwaiters, List.map_cons, List.nodup_cons, List.mem_map] at hdistinct
        rw [candidates_grant, hfirst, List.filter_cons_of_neg (by simp)]
        refine congrArg _ (List.filter_eq_self.mpr ?_).symm
        intro other hother
        obtain ⟨v, hv, rfl⟩ := List.mem_map.mp hother
        simp only [ne_eq, decide_eq_true_eq]
        intro heq
        exact hdistinct.1 ⟨v, (List.mem_filter.mp hv).1, heq⟩
      · exact absurd rfl (htail _ hmem)

theorem Orderly.waiterState_of_mem (hl : Orderly l) {state : WaiterState}
    (h : (task, state) ∈ l.waiters) : l.waiterState task = some state := by
  cases hstate : l.waiterState task with
  | none =>
      rw [waiterState, Option.map_eq_none_iff, List.find?_eq_none] at hstate
      exact absurd (decide_eq_true rfl) (hstate _ h)
  | some other =>
      have hother := mem_of_waiterState hstate
      have hpair := List.inj_on_of_nodup_map hl.distinct h hother rfl
      rw [(Prod.mk.inj hpair).2]

end Candidates

end JarvisCore.Foundation.FairLock
