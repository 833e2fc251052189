import Mathlib.Logic.Function.Basic
import JarvisCore.Foundation.FairLock

namespace JarvisCore.Foundation.LockUsers

open JarvisCore.Foundation.AsyncIO
open JarvisCore.Foundation.AsyncIO.Lock
open JarvisCore.Foundation.FairLock

inductive Role
  | idle
  | waits (cancelRequested : Bool)
  | holds
  deriving DecidableEq

variable {Task : Type*} [DecidableEq Task]

/-- What a task does with the lock, and what it is before and after. -/
inductive Use (x : Task) (l : Lock Task) : Role → Lock Task → Role → Prop
  | takes : l.available = true → Use x l .idle (l.take x) .holds
  | queues : l.available = false → Use x l .idle (l.enqueue x) (.waits false)
  | granted (cancelRequested : Bool) : l.waiterState x = some .woken →
      Use x l (.waits cancelRequested) (l.grant x) .holds
  | abandons (cancelRequested : Bool) : Use x l (.waits cancelRequested) (l.abandon x) .idle
  | marks (cancelRequested : Bool) :
      Use x l (.waits cancelRequested) (l.cancelWaiter x) (.waits true)
  | releases : Use x l .holds l.release .idle

/-- Any number of uses, one after the other. -/
inductive Uses : Lock Task → (Task → Role) → Lock Task → (Task → Role) → Prop
  | refl (l : Lock Task) (role : Task → Role) : Uses l role l role
  | step {l l' l'' : Lock Task} {role role' : Task → Role} (x : Task) (r : Role) :
      Uses l role l' role' → Use x l' (role' x) l'' r →
      Uses l role l'' (Function.update role' x r)

structure Serves (l : Lock Task) (role : Task → Role) : Prop where
  orderly : Orderly l
  queued : ∀ x, x ∈ l.queue ↔ ∃ cancelRequested, role x = .waits cancelRequested
  held : ∀ x, l.owner = some x ↔ role x = .holds
  cancelled : ∀ x, (x, .cancelled) ∈ l.waiters → role x = .waits true

omit [DecidableEq Task] in
theorem mem_queue {l : Lock Task} {x : Task} {state : WaiterState} (h : (x, state) ∈ l.waiters) :
    x ∈ l.queue :=
  List.mem_map.mpr ⟨_, h, rfl⟩

omit [DecidableEq Task] in
theorem Serves.free : Serves (free : Lock Task) fun _ => .idle where
  orderly := .free
  queued x := by simp [queue, Lock.free]
  held x := by simp [Lock.free]
  cancelled x h := by cases h

section Steps

variable {l l' : Lock Task} {role : Task → Role} {x : Task}

theorem Serves.takes (h : Serves l role) (hx : role x = .idle) (havailable : l.available = true) :
    Serves (l.take x) (Function.update role x .holds) where
  orderly := h.orderly.take havailable x
  queued y := by
    rw [queue_take, h.queued y]
    by_cases hy : y = x
    · subst hy
      simp [hx]
    · rw [Function.update_of_ne hy]
  held y := by
    by_cases hy : y = x
    · subst hy
      simp
    · rw [Function.update_of_ne hy, ← h.held y, owner_of_available havailable, owner_take]
      simp [Ne.symm hy]
  cancelled y hy := by
    have hwaits := h.cancelled y hy
    by_cases hyx : y = x
    · rw [hyx, hx] at hwaits
      cases hwaits
    · rw [Function.update_of_ne hyx]
      exact hwaits

theorem Serves.queues (h : Serves l role) (hx : role x = .idle) (havailable : l.available = false) :
    Serves (l.enqueue x) (Function.update role x (.waits false)) where
  orderly := by
    refine h.orderly.enqueue havailable ?_
    intro hmem
    obtain ⟨cancelRequested, hwaits⟩ := (h.queued x).mp hmem
    rw [hx] at hwaits
    cases hwaits
  queued y := by
    rw [queue_enqueue, List.mem_append, List.mem_singleton, h.queued y]
    by_cases hy : y = x
    · subst hy
      simp
    · rw [Function.update_of_ne hy]
      simp [hy]
  held y := by
    rw [owner_enqueue, h.held y]
    by_cases hy : y = x
    · subst hy
      simp [hx]
    · rw [Function.update_of_ne hy]
  cancelled y hy := by
    have hwaits := h.cancelled y (cancelled_of_enqueue hy)
    by_cases hyx : y = x
    · rw [hyx, hx] at hwaits
      cases hwaits
    · rw [Function.update_of_ne hyx]
      exact hwaits

theorem Serves.granted (h : Serves l role) {cancelRequested : Bool}
    (hx : role x = .waits cancelRequested) (hwoken : l.waiterState x = some .woken) :
    Serves (l.grant x) (Function.update role x .holds) where
  orderly := h.orderly.grant hwoken
  queued y := by
    rw [queue_grant, List.mem_filter, h.queued y]
    by_cases hy : y = x
    · subst hy
      simp
    · rw [Function.update_of_ne hy]
      simp [hy]
  held y := by
    by_cases hy : y = x
    · subst hy
      simp
    · rw [Function.update_of_ne hy, ← h.held y, owner_grant,
        h.orderly.wellFormed.owner_of_woken hwoken]
      simp [Ne.symm hy]
  cancelled y hy := by
    obtain ⟨hmem, hne⟩ := List.mem_filter.mp hy
    rw [Function.update_of_ne (by simpa using hne)]
    exact h.cancelled y hmem

theorem Serves.abandons (h : Serves l role) {cancelRequested : Bool}
    (hx : role x = .waits cancelRequested) :
    Serves (l.abandon x) (Function.update role x .idle) where
  orderly := h.orderly.abandon x
  queued y := by
    rw [queue_abandon, List.mem_filter, h.queued y]
    by_cases hy : y = x
    · subst hy
      simp
    · rw [Function.update_of_ne hy]
      simp [hy]
  held y := by
    rw [owner_abandon, h.held y]
    by_cases hy : y = x
    · subst hy
      simp [hx]
    · rw [Function.update_of_ne hy]
  cancelled y hy := by
    have hyx : y ≠ x := by
      rintro rfl
      have hmem := mem_queue hy
      rw [queue_abandon] at hmem
      simp at hmem
    rw [Function.update_of_ne hyx]
    exact h.cancelled y (cancelled_of_abandon hy)

theorem Serves.marks (h : Serves l role) {cancelRequested : Bool}
    (hx : role x = .waits cancelRequested) :
    Serves (l.cancelWaiter x) (Function.update role x (.waits true)) where
  orderly := h.orderly.cancelWaiter x
  queued y := by
    rw [queue_cancelWaiter, h.queued y]
    by_cases hy : y = x
    · subst hy
      simp [hx]
    · rw [Function.update_of_ne hy]
  held y := by
    rw [owner_cancelWaiter, h.held y]
    by_cases hy : y = x
    · subst hy
      simp [hx]
    · rw [Function.update_of_ne hy]
  cancelled y hy := by
    by_cases hyx : y = x
    · rw [hyx, Function.update_self]
    · rw [Function.update_of_ne hyx]
      exact h.cancelled y (cancelled_of_cancelWaiter hyx hy)

theorem Serves.releases (h : Serves l role) (hx : role x = .holds) :
    Serves l.release (Function.update role x .idle) where
  orderly := h.orderly.release
  queued y := by
    rw [queue_release, h.queued y]
    by_cases hy : y = x
    · subst hy
      simp [hx]
    · rw [Function.update_of_ne hy]
  held y := by
    rw [owner_release]
    by_cases hy : y = x
    · subst hy
      simp
    · rw [Function.update_of_ne hy, ← h.held y, (h.held x).mpr hx]
      simp [Ne.symm hy]
  cancelled y hy := by
    have hwaits := h.cancelled y (cancelled_of_release hy)
    by_cases hyx : y = x
    · rw [hyx, hx] at hwaits
      cases hwaits
    · rw [Function.update_of_ne hyx]
      exact hwaits

theorem Serves.use (h : Serves l role) {r : Role} (huse : Use x l (role x) l' r) :
    Serves l' (Function.update role x r) := by
  generalize hx : role x = before at huse
  cases huse with
  | takes havailable => exact h.takes hx havailable
  | queues havailable => exact h.queues hx havailable
  | granted cancelRequested hwoken => exact h.granted hx hwoken
  | abandons cancelRequested => exact h.abandons hx
  | marks cancelRequested => exact h.marks hx
  | releases => exact h.releases hx

theorem Serves.uses {role' : Task → Role} (h : Serves l role) (huses : Uses l role l' role') :
    Serves l' role' := by
  induction huses with
  | refl => exact h
  | step x r _ huse ih => exact (ih h).use huse

end Steps

section Waiting

variable {l : Lock Task} {role : Task → Role}

/-- While a task waits for a lock that nobody holds, some waiter can run: it has been woken, or
it has been cancelled and knows. -/
theorem Serves.exists_awake (h : Serves l role) {x : Task} {cancelRequested : Bool}
    (hx : role x = .waits cancelRequested) (hfree : ∀ y, role y ≠ .holds) :
    ∃ y flag, role y = .waits flag ∧ (l.waiterState y = some .woken ∨
      (l.waiterState y = some .cancelled ∧ flag = true)) := by
  have howner : l.owner = none := by
    cases howner : l.owner with
    | none => rfl
    | some y => exact absurd ((h.held y).mp howner) (hfree y)
  have hmem := (h.queued x).mpr ⟨cancelRequested, hx⟩
  cases hwaiters : l.waiters with
  | nil => simp [queue, hwaiters] at hmem
  | cons first rest =>
      obtain ⟨y, state⟩ := first
      have hfirst : (y, state) ∈ l.waiters := by simp [hwaiters]
      obtain ⟨flag, hflag⟩ := (h.queued y).mp (mem_queue hfirst)
      have hstate := h.orderly.waiterState_of_mem hfirst
      refine ⟨y, flag, hflag, ?_⟩
      cases state with
      | pending => exact absurd rfl (h.orderly.awake howner (y, .pending) (by simp [hwaiters]))
      | woken => exact .inl hstate
      | cancelled =>
          refine .inr ⟨hstate, ?_⟩
          have hknows := h.cancelled y hfirst
          rw [hflag] at hknows
          exact Role.waits.inj hknows

omit [DecidableEq Task] in
theorem Serves.eq_free (h : Serves l role) (hidle : ∀ x, role x = .idle) : l = Lock.free := by
  obtain ⟨owner, waiters⟩ := l
  have howner : owner = none := by
    cases owner with
    | none => rfl
    | some y =>
        have hholds := (h.held y).mp rfl
        rw [hidle y] at hholds
        cases hholds
  have hwaiters : waiters = [] := by
    cases waiters with
    | nil => rfl
    | cons first rest =>
        obtain ⟨flag, hflag⟩ := (h.queued first.1).mp (mem_queue List.mem_cons_self)
        rw [hidle first.1] at hflag
        cases hflag
  rw [howner, hwaiters]
  rfl

end Waiting

end JarvisCore.Foundation.LockUsers
