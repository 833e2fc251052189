import Mathlib.Data.List.Basic

namespace JarvisCore.Foundation.AsyncIO

/-- The state of a future. A future is completed at most once. -/
inductive FutureState (Value Error : Type*)
  | pending
  | result (value : Value)
  | exception (error : Error)
  | cancelled
  deriving DecidableEq, Repr

namespace FutureState

variable {Value Error : Type*}

def done : FutureState Value Error → Bool
  | .pending => false
  | _ => true

def completeWith (f outcome : FutureState Value Error) : FutureState Value Error :=
  match f with
  | .pending => outcome
  | settled => settled

@[simp] theorem done_pending : (pending : FutureState Value Error).done = false := rfl
@[simp] theorem done_result (value : Value) :
    (result value : FutureState Value Error).done = true := rfl
@[simp] theorem done_exception (error : Error) :
    (exception error : FutureState Value Error).done = true := rfl
@[simp] theorem done_cancelled : (cancelled : FutureState Value Error).done = true := rfl

theorem done_eq_false_iff {f : FutureState Value Error} : f.done = false ↔ f = .pending := by
  cases f <;> simp

@[simp] theorem pending_completeWith (outcome : FutureState Value Error) :
    pending.completeWith outcome = outcome := rfl

theorem completeWith_of_done {f outcome : FutureState Value Error} (h : f.done = true) :
    f.completeWith outcome = f := by
  cases f with
  | pending => simp at h
  | result | exception | cancelled => rfl

theorem done_completeWith {f outcome : FutureState Value Error} (h : outcome.done = true) :
    (f.completeWith outcome).done = true := by
  cases f with
  | pending => exact h
  | result | exception | cancelled => rfl

theorem fail_eq_result_iff {f : FutureState Value Error} {error : Error} {value : Value} :
    f.completeWith (.exception error) = .result value ↔ f = .result value := by
  cases f <;> simp [completeWith]

theorem cancel_eq_result_iff {f : FutureState Value Error} {value : Value} :
    f.completeWith .cancelled = .result value ↔ f = .result value := by
  cases f <;> simp [completeWith]

end FutureState

/-- The task suspended in `wait_for(shield(future), timeout)`: the state of the
outer future made by `shield`, and whether the timer has cancelled the wait. -/
structure ShieldedWait (Value Error : Type*) where
  outer : FutureState Value Error
  timedOut : Bool
  deriving DecidableEq, Repr

inductive WaitOutcome (Value Error : Type*)
  | cancelled
  | timeout
  | settled (outcome : FutureState Value Error)
  deriving DecidableEq, Repr

namespace ShieldedWait

variable {Value Error : Type*}

/-- A positive timeout arms a timer; any other one cancels the outer future at
once and waits for its callbacks. -/
def start (timeout : Int) : ShieldedWait Value Error :=
  if timeout ≤ 0 then ⟨.cancelled, true⟩ else ⟨.pending, false⟩

def copyFrom (inner : FutureState Value Error) (w : ShieldedWait Value Error) :
    ShieldedWait Value Error :=
  { w with outer := w.outer.completeWith inner }

def fireTimer (w : ShieldedWait Value Error) : ShieldedWait Value Error :=
  ⟨w.outer.completeWith .cancelled, true⟩

def cancel (w : ShieldedWait Value Error) : ShieldedWait Value Error :=
  { w with outer := w.outer.completeWith .cancelled }

/-- The resumed task sees a cancellation of its own first, then the timer, even
when the outer future had been completed in the meantime. -/
def conclude (cancelRequested : Bool) (w : ShieldedWait Value Error) :
    WaitOutcome Value Error :=
  if cancelRequested then .cancelled else if w.timedOut then .timeout else .settled w.outer

end ShieldedWait

inductive WaiterState
  | pending
  | woken
  | cancelled
  deriving DecidableEq, Repr

/-- A lock that serves its waiters in order. The owner is the task that set the
locked flag. A woken waiter owns nothing until it is resumed, but nobody can
overtake it. -/
structure Lock (Task : Type*) where
  owner : Option Task
  waiters : List (Task × WaiterState)
  deriving DecidableEq, Repr

namespace Lock

variable {Task : Type*}

def free : Lock Task := ⟨none, []⟩

/-- Acquiring does not suspend when the lock is free and nobody else waits. -/
def available (l : Lock Task) : Bool :=
  l.owner.isNone && l.waiters.all fun w => w.2 = .cancelled

def take (task : Task) (l : Lock Task) : Lock Task := { l with owner := some task }

def enqueue (task : Task) (l : Lock Task) : Lock Task :=
  { l with waiters := l.waiters ++ [(task, .pending)] }

def wakeUpFirst (l : Lock Task) : Lock Task :=
  match l.waiters with
  | (task, .pending) :: rest => { l with waiters := (task, .woken) :: rest }
  | _ => l

def release (l : Lock Task) : Lock Task := wakeUpFirst { l with owner := none }

@[simp] theorem owner_take (task : Task) (l : Lock Task) : (l.take task).owner = some task := rfl

@[simp] theorem owner_enqueue (task : Task) (l : Lock Task) :
    (l.enqueue task).owner = l.owner := rfl

@[simp] theorem owner_wakeUpFirst (l : Lock Task) : l.wakeUpFirst.owner = l.owner := by
  unfold wakeUpFirst
  split <;> rfl

@[simp] theorem owner_release (l : Lock Task) : l.release.owner = none := by
  simp [release]

variable [DecidableEq Task]

def waiterState (task : Task) (l : Lock Task) : Option WaiterState :=
  (l.waiters.find? fun w => w.1 = task).map fun w => w.2

def leaveQueue (task : Task) (l : Lock Task) : Lock Task :=
  { l with waiters := l.waiters.filter fun w => w.1 ≠ task }

/-- A cancellation reaches a waiter that has not been woken yet. -/
def cancelWaiter (task : Task) (l : Lock Task) : Lock Task :=
  { l with waiters := l.waiters.map fun w =>
      if w.1 = task ∧ w.2 = .pending then (task, .cancelled) else w }

def grant (task : Task) (l : Lock Task) : Lock Task := (l.leaveQueue task).take task

/-- The waiter is resumed by a cancellation and passes the wake-up on. -/
def abandon (task : Task) (l : Lock Task) : Lock Task :=
  if l.owner.isSome then l.leaveQueue task else (l.leaveQueue task).wakeUpFirst

@[simp] theorem owner_grant (task : Task) (l : Lock Task) : (l.grant task).owner = some task := rfl

@[simp] theorem owner_abandon (task : Task) (l : Lock Task) :
    (l.abandon task).owner = l.owner := by
  unfold abandon
  split <;> simp [leaveQueue]

/-- A held lock has woken nobody, and only the first waiter is ever woken. -/
structure WellFormed (l : Lock Task) : Prop where
  held : l.owner ≠ none → ∀ w ∈ l.waiters, w.2 ≠ .woken
  tail : ∀ w ∈ l.waiters.tail, w.2 ≠ .woken

omit [DecidableEq Task] in
theorem WellFormed.free : WellFormed (free : Lock Task) := by
  constructor <;> simp [Lock.free]

omit [DecidableEq Task] in
theorem owner_of_available {l : Lock Task} (h : l.available = true) : l.owner = none := by
  simp only [available, Bool.and_eq_true, Option.isNone_iff_eq_none] at h
  exact h.1

omit [DecidableEq Task] in
theorem WellFormed.take {l : Lock Task} (hl : l.WellFormed) (h : l.available = true)
    (task : Task) : (l.take task).WellFormed := by
  refine ⟨?_, hl.tail⟩
  intro _ w hw
  simp only [available, Bool.and_eq_true, List.all_eq_true, decide_eq_true_eq] at h
  rw [h.2 w hw]
  simp

omit [DecidableEq Task] in
theorem WellFormed.enqueue {l : Lock Task} (hl : l.WellFormed) (task : Task) :
    (l.enqueue task).WellFormed := by
  have hnew : ∀ ws : List (Task × WaiterState), (∀ w ∈ ws, w.2 ≠ .woken) →
      ∀ w ∈ ws ++ [(task, .pending)], w.2 ≠ .woken := by
    intro ws hws w hw
    rcases List.mem_append.mp hw with hw | hw
    · exact hws w hw
    · obtain rfl := List.mem_singleton.mp hw
      simp
  refine ⟨fun howner => hnew _ (hl.held howner), ?_⟩
  intro w hw
  simp only [Lock.enqueue] at hw
  cases hws : l.waiters with
  | nil => simp [hws] at hw
  | cons first rest =>
      have htail := hl.tail
      rw [hws] at hw htail
      exact hnew rest htail w hw

omit [DecidableEq Task] in
theorem WellFormed.wakeUpFirst {l : Lock Task} (hl : l.WellFormed) (hfree : l.owner = none) :
    l.wakeUpFirst.WellFormed := by
  refine ⟨fun howner => absurd hfree (by simpa using howner), ?_⟩
  unfold Lock.wakeUpFirst
  split
  · rename_i task rest hws
    have htail := hl.tail
    rw [hws] at htail
    exact htail
  · exact hl.tail

omit [DecidableEq Task] in
theorem WellFormed.release {l : Lock Task} (hl : l.WellFormed) : l.release.WellFormed := by
  refine WellFormed.wakeUpFirst ?_ rfl
  exact ⟨fun howner => absurd rfl howner, hl.tail⟩

theorem mem_of_waiterState {l : Lock Task} {task : Task} {state : WaiterState}
    (h : l.waiterState task = some state) : (task, state) ∈ l.waiters := by
  obtain ⟨w, hw, hstate⟩ := Option.map_eq_some_iff.mp h
  have htask : w.1 = task := by simpa using List.find?_some hw
  have hmem := List.mem_of_find?_eq_some hw
  rw [← htask, ← hstate]
  exact hmem

theorem WellFormed.owner_of_woken {l : Lock Task} (hl : l.WellFormed) {task : Task}
    (h : l.waiterState task = some .woken) : l.owner = none := by
  by_contra howner
  exact hl.held howner _ (mem_of_waiterState h) rfl

theorem WellFormed.leaveQueue {l : Lock Task} (hl : l.WellFormed) (task : Task) :
    (l.leaveQueue task).WellFormed := by
  constructor
  · intro howner w hw
    exact hl.held howner w (List.mem_filter.mp hw).1
  · intro w hw
    simp only [Lock.leaveQueue] at hw
    refine hl.tail w ?_
    cases hws : l.waiters with
    | nil => simp [hws] at hw
    | cons first rest =>
        rw [hws, List.filter_cons] at hw
        split at hw
        · exact (List.mem_filter.mp hw).1
        · exact (List.mem_filter.mp (List.mem_of_mem_tail hw)).1

theorem WellFormed.grant {l : Lock Task} (hl : l.WellFormed) {task : Task}
    (h : l.waiterState task = some .woken) : (l.grant task).WellFormed := by
  refine ⟨?_, (hl.leaveQueue task).tail⟩
  intro _ w hw
  obtain ⟨hmem, hne⟩ := List.mem_filter.mp (show w ∈ (l.leaveQueue task).waiters from hw)
  have hwoken := mem_of_waiterState h
  have htail := hl.tail
  cases hws : l.waiters with
  | nil => simp [hws] at hmem
  | cons first rest =>
      rw [hws] at hmem hwoken htail
      rcases List.mem_cons.mp hmem with rfl | hmem
      · rcases List.mem_cons.mp hwoken with heq | hwoken
        · rw [← heq] at hne
          simp at hne
        · exact absurd rfl (htail _ hwoken)
      · exact htail w hmem

theorem WellFormed.abandon {l : Lock Task} (hl : l.WellFormed) (task : Task) :
    (l.abandon task).WellFormed := by
  unfold Lock.abandon
  split
  · exact hl.leaveQueue task
  · rename_i howner
    refine (hl.leaveQueue task).wakeUpFirst ?_
    simpa [Lock.leaveQueue] using howner

theorem WellFormed.cancelWaiter {l : Lock Task} (hl : l.WellFormed) (task : Task) :
    (l.cancelWaiter task).WellFormed := by
  have hkept : ∀ w ∈ l.waiters, w.2 ≠ .woken →
      (if w.1 = task ∧ w.2 = .pending then (task, WaiterState.cancelled) else w).2 ≠ .woken := by
    intro w _ hw
    split
    · simp
    · exact hw
  constructor
  · intro howner w hw
    obtain ⟨w', hw', rfl⟩ := List.mem_map.mp hw
    exact hkept w' hw' (hl.held howner w' hw')
  · intro w hw
    simp only [Lock.cancelWaiter, ← List.map_tail] at hw
    obtain ⟨w', hw', rfl⟩ := List.mem_map.mp hw
    exact hkept w' (List.mem_of_mem_tail hw') (hl.tail w' hw')

@[simp] theorem owner_cancelWaiter (task : Task) (l : Lock Task) :
    (l.cancelWaiter task).owner = l.owner := rfl

section Queue

/-- The tasks that wait for the lock, in the order in which it serves them. -/
def queue {Task : Type*} (l : Lock Task) : List Task := l.waiters.map fun w => w.1

omit [DecidableEq Task] in
@[simp] theorem queue_take (task : Task) (l : Lock Task) : (l.take task).queue = l.queue := rfl

omit [DecidableEq Task] in
@[simp] theorem queue_enqueue (task : Task) (l : Lock Task) :
    (l.enqueue task).queue = l.queue ++ [task] := by
  simp [queue, enqueue]

omit [DecidableEq Task] in
@[simp] theorem queue_wakeUpFirst (l : Lock Task) : l.wakeUpFirst.queue = l.queue := by
  unfold wakeUpFirst
  split
  · rename_i task rest hwaiters
    simp [queue, hwaiters]
  · rfl

omit [DecidableEq Task] in
@[simp] theorem queue_release (l : Lock Task) : l.release.queue = l.queue :=
  queue_wakeUpFirst _

@[simp] theorem queue_leaveQueue (task : Task) (l : Lock Task) :
    (l.leaveQueue task).queue = l.queue.filter (· ≠ task) := by
  simp only [queue, leaveQueue, List.filter_map]
  rfl

@[simp] theorem queue_grant (task : Task) (l : Lock Task) :
    (l.grant task).queue = l.queue.filter (· ≠ task) :=
  queue_leaveQueue task l

@[simp] theorem queue_abandon (task : Task) (l : Lock Task) :
    (l.abandon task).queue = l.queue.filter (· ≠ task) := by
  unfold abandon
  split <;> simp

@[simp] theorem queue_cancelWaiter (task : Task) (l : Lock Task) :
    (l.cancelWaiter task).queue = l.queue := by
  simp only [queue, cancelWaiter, List.map_map]
  apply List.map_congr_left
  intro w _
  simp only [Function.comp_apply]
  split
  · rename_i h
    exact h.1.symm
  · rfl

omit [DecidableEq Task] in
theorem available_of_idle {l : Lock Task} (howner : l.owner = none) (hqueue : l.queue = []) :
    l.available = true := by
  have hwaiters : l.waiters = [] := List.map_eq_nil_iff.mp hqueue
  simp [available, howner, hwaiters]

end Queue

end Lock

end JarvisCore.Foundation.AsyncIO
