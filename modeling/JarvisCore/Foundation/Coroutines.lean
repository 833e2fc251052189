import Mathlib.Data.Set.Basic
import Mathlib.Logic.Function.Basic
import JarvisCore.Foundation.AsyncIO
import JarvisCore.Foundation.TransitionSystem

/-!
Tasks on one event loop that share locks, as far as their control flow goes: which locks
a coroutine takes and gives back, where it suspends, and what an exception, a cancellation
or a `return` leaves and runs on its way out. What the code computes is left open, so a
branch that data decides goes either way, and every statement may raise.
-/

namespace JarvisCore.Foundation.Coroutines

open JarvisCore.Foundation.AsyncIO
open JarvisCore.Foundation.TransitionSystem

/-- What leaves a block other than its end. -/
inductive Leaving
  | raised
  | cancelled
  | returned
  deriving DecidableEq

/-- What an `except` clause or a `suppress` names: some exceptions, `Exception`,
`BaseException` or `CancelledError`. -/
inductive Clause
  | someExceptions
  | exception
  | baseException
  | cancelledError
  deriving DecidableEq

def Clause.mayCatch : Clause → Leaving → Bool
  | _, .returned => false
  | .baseException, _ => true
  | .cancelledError, e => e = .cancelled
  | .someExceptions, e | .exception, e => e = .raised

def Clause.mayPass : Clause → Leaving → Bool
  | .someExceptions, _ => true
  | c, e => !c.mayCatch e

/-- The control flow of a coroutine. -/
inductive Code (L : Type)
  | skip
  /-- An await of something that is not a lock. -/
  | await
  | leave (e : Leaving)
  | seq (first rest : Code L)
  | choice (left right : Code L)
  /-- The rest depends on which object the code has found. -/
  | choose (rest : Nat → Code L)
  /-- `while True`. -/
  | loop (body : Code L)
  /-- `async with lock`. -/
  | withLock (lock : L) (body : Code L)
  | tryExcept (body : Code L) (clause : Clause) (handler : Code L)
  | tryFinally (body cleanup : Code L)
  /-- The body of a method, which a `return` ends. -/
  | call (body : Code L)

variable {L : Type}

def Code.block : List (Code L) → Code L
  | [] => .skip
  | p :: rest => .seq p (.block rest)

/-- What a task has still to do around the statement that it is at. -/
inductive Frame (L : Type)
  | rest (p : Code L)
  | loop (body : Code L)
  | release (lock : L)
  | handler (clause : Clause) (p : Code L)
  | cleanup (p : Code L)
  /-- After a `finally` block: what the block has interrupted goes on. -/
  | resume (e : Leaving)
  | call

inductive Mode (L : Type)
  | running (p : Code L)
  | leaving (e : Leaving)
  | awaiting
  | waiting (lock : L) (body : Code L) (cancelRequested : Bool)

structure Coroutine (L : Type) where
  mode : Mode L
  stack : List (Frame L)

/-- The tasks that have not finished, the locks, and the task that runs. -/
structure State (L : Type) where
  tasks : Nat → Option (Coroutine L)
  locks : L → Lock Nat
  current : Option Nat

inductive Outcome
  | completed
  | raised
  | cancelled

inductive Action (Request : Type)
  | start (task : Nat) (request : Request)
  /-- The current task takes its next step. -/
  | go (pick : Nat)
  /-- The next statement of the current task raises. -/
  | fail
  | resume (task : Nat) (outcome : Outcome)
  | cancel (task : Nat)

namespace State

def put (s : State L) (x : Nat) (task : Coroutine L) : State L :=
  { s with tasks := Function.update s.tasks x (some task) }

def suspend (s : State L) (x : Nat) (task : Coroutine L) : State L :=
  { s with tasks := Function.update s.tasks x (some task), current := none }

def finish (s : State L) (x : Nat) : State L :=
  { s with tasks := Function.update s.tasks x none, current := none }

variable [DecidableEq L]

def setLock (s : State L) (l : L) (lock : Lock Nat) : State L :=
  { s with locks := Function.update s.locks l lock }

def proceed (s : State L) (x : Nat) : List (Frame L) → State L
  | [] => s.finish x
  | .rest p :: k => s.put x ⟨.running p, k⟩
  | .loop body :: k => s.put x ⟨.running body, .loop body :: k⟩
  | .release l :: k => (s.setLock l (s.locks l).release).put x ⟨.running .skip, k⟩
  | .handler _ _ :: k | .call :: k => s.put x ⟨.running .skip, k⟩
  | .cleanup p :: k => s.put x ⟨.running p, k⟩
  | .resume e :: k => s.put x ⟨.leaving e, k⟩

def unwind (s : State L) (x pick : Nat) (e : Leaving) : List (Frame L) → State L
  | [] => s.finish x
  | .release l :: k => (s.setLock l (s.locks l).release).put x ⟨.leaving e, k⟩
  | .handler clause p :: k =>
      if clause.mayCatch e && (pick = 0 || !clause.mayPass e) then s.put x ⟨.running p, k⟩
      else s.put x ⟨.leaving e, k⟩
  | .cleanup p :: k => s.put x ⟨.running p, .resume e :: k⟩
  | .call :: k => s.put x ⟨if e = .returned then .running .skip else .leaving e, k⟩
  | .rest _ :: k | .loop _ :: k | .resume _ :: k => s.put x ⟨.leaving e, k⟩

/-- `async with lock`: at once, or from the end of the queue. -/
def acquire (s : State L) (x : Nat) (l : L) (body : Code L) (k : List (Frame L)) : State L :=
  if (s.locks l).available then
    (s.setLock l ((s.locks l).take x)).put x ⟨.running body, .release l :: k⟩
  else (s.setLock l ((s.locks l).enqueue x)).suspend x ⟨.waiting l body false, k⟩

def execute (s : State L) (x pick : Nat) (k : List (Frame L)) : Code L → State L
  | .skip => s.proceed x k
  | .await => s.suspend x ⟨.awaiting, k⟩
  | .leave e => s.put x ⟨.leaving e, k⟩
  | .seq first rest => s.put x ⟨.running first, .rest rest :: k⟩
  | .choice left right => s.put x ⟨.running (if pick = 0 then left else right), k⟩
  | .choose rest => s.put x ⟨.running (rest pick), k⟩
  | .loop body => s.put x ⟨.running body, .loop body :: k⟩
  | .withLock l body => s.acquire x l body k
  | .tryExcept body clause handler => s.put x ⟨.running body, .handler clause handler :: k⟩
  | .tryFinally body cleanup => s.put x ⟨.running body, .cleanup cleanup :: k⟩
  | .call body => s.put x ⟨.running body, .call :: k⟩

/-- A suspended task runs again. -/
def wake (s : State L) (x : Nat) (task : Coroutine L) : State L :=
  { s with tasks := Function.update s.tasks x (some task), current := some x }

def resume (s : State L) (x : Nat) (outcome : Outcome) : Coroutine L → Option (State L)
  | ⟨.awaiting, k⟩ =>
      match outcome with
      | .completed => some (s.wake x ⟨.running .skip, k⟩)
      | .raised => some (s.wake x ⟨.leaving .raised, k⟩)
      | .cancelled => some (s.wake x ⟨.leaving .cancelled, k⟩)
  | ⟨.waiting l body cancelRequested, k⟩ =>
      match cancelRequested, (s.locks l).waiterState x with
      | false, some .woken =>
          some ((s.setLock l ((s.locks l).grant x)).wake x ⟨.running body, .release l :: k⟩)
      | true, some .woken | true, some .cancelled =>
          some ((s.setLock l ((s.locks l).abandon x)).wake x ⟨.leaving .cancelled, k⟩)
      | _, _ => none
  | _ => none

end State

section Steps

variable [DecidableEq L] {Request : Type} (program : Request → Code L)

/-- A new task waits for its first turn. A cancellation of a task that awaits something
else than a lock is the outcome of its await. -/
def step (s : State L) : Action Request → Option (State L)
  | .start x request =>
      match s.tasks x with
      | some _ => none
      | none => some (s.put x ⟨.awaiting, [.rest (program request)]⟩)
  | .go pick =>
      match s.current with
      | none => none
      | some x =>
          match s.tasks x with
          | some ⟨.running p, k⟩ => some (s.execute x pick k p)
          | some ⟨.leaving e, k⟩ => some (s.unwind x pick e k)
          | _ => none
  | .fail =>
      match s.current with
      | none => none
      | some x =>
          match s.tasks x with
          | some ⟨.running _, k⟩ => some (s.put x ⟨.leaving .raised, k⟩)
          | _ => none
  | .resume x outcome =>
      match s.current, s.tasks x with
      | none, some task => s.resume x outcome task
      | _, _ => none
  | .cancel x =>
      match s.tasks x with
      | some ⟨.waiting l body false, k⟩ =>
          some ((s.setLock l ((s.locks l).cancelWaiter x)).put x ⟨.waiting l body true, k⟩)
      | _ => none

/-- Any number of tasks, each of which runs the program of a request. -/
def eventLoop : System (State L) (Action Request) Empty where
  start := ⟨fun _ => none, fun _ => .free, none⟩
  step s action := (step program s action).map fun s => (s, [])

end Steps

def Waits (s : State L) (x : Nat) (l : L) : Prop :=
  ∃ body cancelRequested k, s.tasks x = some ⟨.waiting l body cancelRequested, k⟩

/-- Each task of the set waits for a lock that one of the set holds. -/
def Deadlocked (s : State L) (tasks : Set Nat) : Prop :=
  ∀ x ∈ tasks, ∃ l y, Waits s x l ∧ (s.locks l).owner = some y ∧ y ∈ tasks

end JarvisCore.Foundation.Coroutines
