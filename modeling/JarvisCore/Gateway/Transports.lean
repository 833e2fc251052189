import JarvisCore.Foundation.AsyncIO
import JarvisCore.Security.DeviceTables

/-!
`WebSocketDeviceTransport`: what the tasks that share a socket write to it. A call of
`send_message` or of `close` is a job; the lock serves the jobs in their order.
-/

namespace JarvisCore.Gateway.Transports

open JarvisCore.Domain.Values
open JarvisCore.Domain.Errors
open JarvisCore.Domain.Models
open JarvisCore.Foundation.AsyncIO

def protocolCloseCodes : List Nat := [1001, 1003, 1009, 1011, 4400, 4403, 4408, 4409]

inductive ServerPayload
  | serverHello (deviceId : UUID) (heartbeatIntervalSeconds maxMessageBytes : Nat)
  | serverReady (deviceId : UUID) (effectiveCapabilities : List String)
  | heartbeatPing (nonce : UUID)
  | capabilitiesAck (effectiveCapabilities : List String)
  | commandExecute (command : DeviceCommand)
  | commandResultRejected (commandId : UUID) (reason : String)
  | protocolError (code detail : String)

structure ServerMessage where
  sessionId : UUID
  payload : ServerPayload

inductive Job
  | send (message : ServerMessage)
  | close (code : Nat) (reason : String)

/-- The task that makes the call: the handler of the socket, its heartbeat task, an
`execute` call, a call of the service that replaces or revokes the session, or a task of
`close_all`. -/
inductive Writer
  | handler
  | heartbeat
  | command (call : Nat)
  | closing (call : Nat)
  | shutdown
  deriving DecidableEq

inductive Progress
  | queued (cancelRequested : Bool)
  /-- It holds the lock and is suspended in a call of the socket. -/
  | active
  /-- It has returned or raised, and its task has not run on yet. -/
  | done (failure : Option Raised)

def Progress.Waits : Progress → Prop
  | .queued _ => True
  | _ => False

structure Task where
  writer : Writer
  job : Job
  progress : Progress

/-- `frames` and `closes` are the calls of `websocket.send_json` and `websocket.close`
so far, the latter with their codes. -/
structure Transport where
  lock : Lock Nat
  closed : Bool
  tasks : Nat → Option Task
  nextTask : Nat
  frames : List ServerMessage
  closes : List Nat

namespace Transport

def fresh : Transport where
  lock := .free
  closed := false
  tasks := fun _ => none
  nextTask := 0
  frames := []
  closes := []

def setTask (t : Transport) (j : Nat) (task : Task) : Transport :=
  { t with tasks := Function.update t.tasks j (some task) }

def leave (t : Transport) (j : Nat) (task : Task) (failure : Option Raised) : Transport :=
  { t with lock := t.lock.release }.setTask j { task with progress := .done failure }

/-- Whether `server_message` accepts the message. Only the payload of a command comes
from outside. -/
def accepts (encodes : DeviceCommand → Bool) (message : ServerMessage) : Bool :=
  match message.payload with
  | .commandExecute command => encodes command
  | _ => true

/-- The body of `async with self._send_lock`, entered with the lock held, up to the call
of the socket. -/
def perform (encodes : DeviceCommand → Bool) (t : Transport) (j : Nat) (task : Task) : Transport :=
  match task.job with
  | .send message =>
      if t.closed then t.leave j task (some (.runtimeError "device transport is closed"))
      else if accepts encodes message then
        { t with frames := t.frames ++ [message] }.setTask j { task with progress := .active }
      else t.leave j task (some (.valueError "validation error for command.execute"))
  | .close code _ =>
      if t.closed then t.leave j task none
      else
        { t with closed := true, closes := t.closes ++ [code] }.setTask j
          { task with progress := .active }

/-- A task calls `send_message` or `close`. -/
def request (encodes : DeviceCommand → Bool) (t : Transport) (writer : Writer) (job : Job) :
    Transport :=
  let j := t.nextTask
  let t := { t with nextTask := j + 1 }
  let task : Task := ⟨writer, job, .queued false⟩
  if t.lock.available then { t with lock := t.lock.take j }.perform encodes j task
  else { t with lock := t.lock.enqueue j }.setTask j task

/-- A waiter of the lock runs again: woken by a release, or by a cancellation. -/
def resume (encodes : DeviceCommand → Bool) (t : Transport) (j : Nat) : Option Transport :=
  let interrupted (task : Task) : Transport :=
    { t with lock := t.lock.abandon j }.setTask j { task with progress := .done (some .cancelled) }
  match t.tasks j, t.lock.waiterState j with
  | some ⟨writer, job, .queued false⟩, some .woken =>
      some ({ t with lock := t.lock.grant j }.perform encodes j ⟨writer, job, .queued false⟩)
  | some ⟨writer, job, .queued true⟩, some .woken
  | some ⟨writer, job, .queued true⟩, some .cancelled =>
      some (interrupted ⟨writer, job, .queued true⟩)
  | _, _ => none

/-- The task of a waiter is cancelled. -/
def cancel (t : Transport) (j : Nat) : Option Transport :=
  match t.tasks j with
  | some ⟨writer, job, .queued _⟩ =>
      some ({ t with lock := t.lock.cancelWaiter j }.setTask j ⟨writer, job, .queued true⟩)
  | _ => none

/-- What becomes of an exception of the socket: `close` suppresses `RuntimeError` and
`WebSocketDisconnect`. -/
def passedOn : Job → Option Raised → Option Raised
  | .close _ _, some (.runtimeError _) | .close _ _, some .disconnected => none
  | _, failure => failure

/-- The call of the socket returns or raises. -/
def complete (t : Transport) (j : Nat) (failure : Option Raised) : Option Transport :=
  match t.tasks j with
  | some ⟨writer, job, .active⟩ => some (t.leave j ⟨writer, job, .active⟩ (passedOn job failure))
  | _ => none

def clear (t : Transport) (j : Nat) : Transport :=
  { t with tasks := Function.update t.tasks j none }

end Transport

section Jobs

variable {encodes : DeviceCommand → Bool} {t t' : Transport} {j : Nat}

/-- The owner of the lock is at work, and those that wait for it are queued. -/
structure Transport.Ok (t : Transport) : Prop where
  owner : ∀ i, t.lock.owner = some i → ∃ writer job, t.tasks i = some ⟨writer, job, .active⟩
  waiting : ∀ i ∈ t.lock.queue, ∃ writer job cancelRequested,
    t.tasks i = some ⟨writer, job, .queued cancelRequested⟩
  unused : ∀ i, t.nextTask ≤ i → t.tasks i = none
  closed : t.closed = true → t.closes ≠ []

structure Transport.Entered (t : Transport) (j : Nat) : Prop where
  waiting : ∀ i ∈ t.lock.queue, i ≠ j ∧ ∃ writer job cancelRequested,
    t.tasks i = some ⟨writer, job, .queued cancelRequested⟩
  unused : ∀ i, t.nextTask ≤ i → i ≠ j ∧ t.tasks i = none
  closed : t.closed = true → t.closes ≠ []
  owner : t.lock.owner = some j

theorem ok_fresh : Transport.fresh.Ok where
  owner i h := by cases h
  waiting i h := by cases h
  unused i _ := rfl
  closed h := by cases h

theorem Transport.Ok.available (hok : t.Ok) (hidle : ∀ i, t.tasks i = none) :
    t.lock.available = true := by
  apply Lock.available_of_idle
  · by_contra howner
    obtain ⟨i, hi⟩ := Option.ne_none_iff_exists'.mp howner
    obtain ⟨writer, job, htask⟩ := hok.owner i hi
    rw [hidle i] at htask
    cases htask
  · apply List.eq_nil_iff_forall_not_mem.mpr
    intro i hi
    obtain ⟨writer, job, cancelRequested, htask⟩ := hok.waiting i hi
    rw [hidle i] at htask
    cases htask

namespace Transport

@[simp] theorem setTask_self (t : Transport) (j : Nat) (task : Task) :
    (t.setTask j task).tasks j = some task :=
  Function.update_self _ _ _

theorem setTask_of_ne {t : Transport} {i j : Nat} (task : Task) (h : i ≠ j) :
    (t.setTask j task).tasks i = t.tasks i :=
  Function.update_of_ne h _ _

theorem setTask_cases {i : Nat} {task task' : Task} (h : (t.setTask j task).tasks i = some task') :
    (i = j ∧ task' = task) ∨ (i ≠ j ∧ t.tasks i = some task') := by
  by_cases hi : i = j
  · subst hi
    rw [setTask_self] at h
    exact .inl ⟨rfl, (Option.some.inj h).symm⟩
  · rw [setTask_of_ne task hi] at h
    exact .inr ⟨hi, h⟩

theorem Ok.setTask {task : Task} (hok : t.Ok) (howner : t.lock.owner ≠ some j)
    (hqueue : j ∉ t.lock.queue) (hused : j < t.nextTask) : (t.setTask j task).Ok := by
  refine ⟨?_, ?_, ?_, hok.closed⟩
  · intro i hi
    have hne : i ≠ j := by
      rintro rfl
      exact howner hi
    rw [setTask_of_ne task hne]
    exact hok.owner i hi
  · intro i hi
    have hne : i ≠ j := by
      rintro rfl
      exact hqueue hi
    rw [setTask_of_ne task hne]
    exact hok.waiting i hi
  · intro i hi
    have hne : i ≠ j := (hused.trans_le hi).ne'
    rw [setTask_of_ne task hne]
    exact hok.unused i hi

theorem Entered.leave {task : Task} (h : t.Entered j) (failure : Option Raised) :
    (t.leave j task failure).Ok := by
  refine ⟨?_, ?_, ?_, h.closed⟩
  · intro i hi
    have hnone : t.lock.release.owner = some i := hi
    rw [Lock.owner_release] at hnone
    cases hnone
  · intro i hi
    have hmem : i ∈ t.lock.release.queue := hi
    rw [Lock.queue_release] at hmem
    obtain ⟨hne, htask⟩ := h.waiting i hmem
    rw [Transport.leave, setTask_of_ne _ hne]
    exact htask
  · intro i hi
    obtain ⟨hne, hnone⟩ := h.unused i hi
    rw [Transport.leave, setTask_of_ne _ hne]
    exact hnone

theorem Entered.work {task : Task} (h : t.Entered j) {frames : List ServerMessage}
    {closes : List Nat} {closed : Bool} (hclosed : closed = true → closes ≠ [])
    (hprogress : task.progress = .active) :
    ({ t with frames, closes, closed }.setTask j task).Ok := by
  refine ⟨?_, ?_, ?_, hclosed⟩
  · intro i hi
    obtain rfl : j = i := Option.some.inj (h.owner.symm.trans hi)
    rw [setTask_self]
    exact ⟨task.writer, task.job, by rw [← hprogress]⟩
  · intro i hi
    obtain ⟨hne, htask⟩ := h.waiting i hi
    rw [setTask_of_ne task hne]
    exact htask
  · intro i hi
    obtain ⟨hne, hnone⟩ := h.unused i hi
    rw [setTask_of_ne task hne]
    exact hnone

theorem Entered.perform {task : Task} (h : t.Entered j) : (t.perform encodes j task).Ok := by
  unfold Transport.perform
  split
  · split
    · exact h.leave _
    · split
      · exact h.work h.closed rfl
      · exact h.leave _
  · split
    · exact h.leave _
    · exact h.work (by simp) rfl

theorem Ok.request (hok : t.Ok) (writer : Writer) (job : Job) :
    (t.request encodes writer job).Ok := by
  have hnew : t.tasks t.nextTask = none := hok.unused _ le_rfl
  have hne {i : Nat} {task : Task} (hi : t.tasks i = some task) : i ≠ t.nextTask := by
    rintro rfl
    rw [hnew] at hi
    cases hi
  unfold Transport.request
  dsimp only
  split
  · refine Entered.perform ⟨?_, ?_, hok.closed, rfl⟩
    · intro i hi
      obtain ⟨writer', job', cancelRequested, htask⟩ := hok.waiting i hi
      exact ⟨hne htask, writer', job', cancelRequested, htask⟩
    · intro i hi
      have hi : t.nextTask < i := hi
      exact ⟨hi.ne', hok.unused i hi.le⟩
  · refine ⟨?_, ?_, ?_, hok.closed⟩
    · intro i hi
      obtain ⟨writer', job', htask⟩ := hok.owner i hi
      rw [setTask_of_ne _ (hne htask)]
      exact ⟨writer', job', htask⟩
    · intro i hi
      have hmem : i ∈ (t.lock.enqueue t.nextTask).queue := hi
      rw [Lock.queue_enqueue, List.mem_append] at hmem
      rcases hmem with hold | hlast
      · obtain ⟨writer', job', cancelRequested, htask⟩ := hok.waiting i hold
        rw [setTask_of_ne _ (hne htask)]
        exact ⟨writer', job', cancelRequested, htask⟩
      · obtain rfl := List.mem_singleton.mp hlast
        rw [setTask_self]
        exact ⟨writer, job, false, rfl⟩
    · intro i hi
      have hi : t.nextTask < i := hi
      rw [setTask_of_ne _ hi.ne']
      exact hok.unused i hi.le

theorem Ok.not_queued (hok : t.Ok) {writer : Writer} {job : Job} {progress : Progress}
    (htask : t.tasks j = some ⟨writer, job, progress⟩)
    (hprogress : ∀ cancelRequested, progress ≠ .queued cancelRequested) : j ∉ t.lock.queue := by
  intro hmem
  obtain ⟨writer', job', cancelRequested, hqueued⟩ := hok.waiting j hmem
  rw [htask] at hqueued
  cases hqueued
  exact hprogress cancelRequested rfl

theorem Ok.not_owner (hok : t.Ok) {writer : Writer} {job : Job} {progress : Progress}
    (htask : t.tasks j = some ⟨writer, job, progress⟩) (hprogress : progress ≠ .active) :
    t.lock.owner ≠ some j := by
  intro howner
  obtain ⟨writer', job', hactive⟩ := hok.owner j howner
  rw [htask] at hactive
  cases hactive
  exact hprogress rfl

theorem Ok.used (hok : t.Ok) {task : Task} (htask : t.tasks j = some task) : j < t.nextTask := by
  by_contra hj
  rw [hok.unused j (not_lt.mp hj)] at htask
  cases htask

theorem Ok.grant (hok : t.Ok) (hused : j < t.nextTask) :
    Entered { t with lock := t.lock.grant j } j := by
  refine ⟨?_, ?_, hok.closed, rfl⟩
  · intro i hi
    have hmem : i ∈ (t.lock.grant j).queue := hi
    rw [Lock.queue_grant, List.mem_filter] at hmem
    exact ⟨of_decide_eq_true hmem.2, hok.waiting i hmem.1⟩
  · intro i hi
    exact ⟨(hused.trans_le hi).ne', hok.unused i hi⟩

theorem Ok.abandon (hok : t.Ok) {writer : Writer} {job : Job} {cancelRequested : Bool}
    (htask : t.tasks j = some ⟨writer, job, .queued cancelRequested⟩) (task : Task) :
    ({ t with lock := t.lock.abandon j }.setTask j task).Ok := by
  have howner := hok.not_owner htask (by simp)
  have habandoned : Ok { t with lock := t.lock.abandon j } := by
    refine ⟨?_, ?_, hok.unused, hok.closed⟩
    · intro i hi
      exact hok.owner i ((Lock.owner_abandon j t.lock).symm.trans hi)
    · intro i hi
      have hmem : i ∈ (t.lock.abandon j).queue := hi
      rw [Lock.queue_abandon, List.mem_filter] at hmem
      exact hok.waiting i hmem.1
  refine habandoned.setTask ?_ ?_ (hok.used htask)
  · rw [show ({ t with lock := t.lock.abandon j } : Transport).lock.owner = t.lock.owner from
      Lock.owner_abandon j t.lock]
    exact howner
  · rw [show ({ t with lock := t.lock.abandon j } : Transport).lock.queue =
      t.lock.queue.filter (· ≠ j) from Lock.queue_abandon j t.lock, List.mem_filter]
    simp

theorem Ok.resume (hok : t.Ok) (h : t.resume encodes j = some t') : t'.Ok := by
  unfold Transport.resume at h
  dsimp only at h
  split at h
  · rename_i htask _
    cases h
    exact (hok.grant (hok.used htask)).perform
  · rename_i htask _
    cases h
    exact hok.abandon htask _
  · rename_i htask _
    cases h
    exact hok.abandon htask _
  · cases h

theorem Ok.cancel (hok : t.Ok) (h : t.cancel j = some t') : t'.Ok := by
  unfold Transport.cancel at h
  split at h
  · rename_i writer job cancelRequested htask
    cases h
    have howner := hok.not_owner htask (by simp)
    refine ⟨?_, ?_, ?_, hok.closed⟩
    · intro i hi
      have hold : t.lock.owner = some i := hi
      have hne : i ≠ j := by
        rintro rfl
        exact howner hold
      rw [setTask_of_ne _ hne]
      exact hok.owner i hold
    · intro i hi
      have hmem : i ∈ (t.lock.cancelWaiter j).queue := hi
      rw [Lock.queue_cancelWaiter] at hmem
      by_cases hne : i = j
      · subst hne
        rw [setTask_self]
        exact ⟨writer, job, true, rfl⟩
      · rw [setTask_of_ne _ hne]
        exact hok.waiting i hmem
    · intro i hi
      rw [setTask_of_ne _ ((hok.used htask).trans_le hi).ne']
      exact hok.unused i hi
  · cases h

theorem Ok.complete {failure : Option Raised} (hok : t.Ok)
    (h : t.complete j failure = some t') : t'.Ok := by
  unfold Transport.complete at h
  split at h
  · rename_i writer job htask
    cases h
    have hreleased : Ok { t with lock := t.lock.release } := by
      refine ⟨?_, ?_, hok.unused, hok.closed⟩
      · intro i hi
        rw [show ({ t with lock := t.lock.release } : Transport).lock.owner = none from
          Lock.owner_release t.lock] at hi
        cases hi
      · intro i hi
        have hmem : i ∈ t.lock.release.queue := hi
        rw [Lock.queue_release] at hmem
        exact hok.waiting i hmem
    refine hreleased.setTask ?_ ?_ (hok.used htask)
    · rw [show ({ t with lock := t.lock.release } : Transport).lock.owner = none from
        Lock.owner_release t.lock]
      simp
    · rw [show ({ t with lock := t.lock.release } : Transport).lock.queue = t.lock.queue from
        Lock.queue_release t.lock]
      exact hok.not_queued htask (by simp)
  · cases h

theorem Ok.clear (hok : t.Ok) {writer : Writer} {job : Job} {failure : Option Raised}
    (htask : t.tasks j = some ⟨writer, job, .done failure⟩) : (t.clear j).Ok := by
  have howner := hok.not_owner htask (by simp)
  have hqueue := hok.not_queued htask (by simp)
  have hother {i : Nat} (h : i ≠ j) : (t.clear j).tasks i = t.tasks i :=
    Function.update_of_ne h _ _
  refine ⟨?_, ?_, ?_, hok.closed⟩
  · intro i hi
    have hold : t.lock.owner = some i := hi
    rw [hother (by rintro rfl; exact howner hold)]
    exact hok.owner i hold
  · intro i hi
    have hold : i ∈ t.lock.queue := hi
    rw [hother (by rintro rfl; exact hqueue hold)]
    exact hok.waiting i hold
  · intro i hi
    rw [hother ((hok.used htask).trans_le hi).ne']
    exact hok.unused i hi

/-- How a job can end, or be queued, without a new call of the socket. -/
inductive Settles (t : Transport) (task : Task) : Progress → Prop
  | queued (cancelRequested : Bool) : task.progress.Waits →
      Settles t task (.queued cancelRequested)
  | cancelled : task.progress.Waits → Settles t task (.done (some .cancelled))
  | ended (failure : Option Raised) : task.progress = .active → Settles t task (.done failure)
  | refused (message : ServerMessage) (text : String) : task.job = .send message →
      t.closed = true → task.progress.Waits → Settles t task (.done (some (.runtimeError text)))
  | invalid (message : ServerMessage) (command : DeviceCommand) (error : Raised) :
      task.job = .send message → message.payload = .commandExecute command →
      task.progress.Waits → Settles t task (.done (some error))
  | closedBefore (code : Nat) (reason : String) : task.job = .close code reason →
      t.closed = true → task.progress.Waits → Settles t task (.done none)

/-- What an operation makes of job `j`, which was `task`, apart from the lock. -/
inductive Evolves (t : Transport) (j : Nat) (task : Task) (t' : Transport) : Prop
  | settles (progress : Progress) : Settles t task progress →
      t'.tasks = Function.update t.tasks j (some { task with progress }) →
      t'.frames = t.frames → t'.closes = t.closes → t'.closed = t.closed → Evolves t j task t'
  | sends (message : ServerMessage) : task.job = .send message → t.closed = false →
      t'.tasks = Function.update t.tasks j (some { task with progress := .active }) →
      t'.frames = t.frames ++ [message] → t'.closes = t.closes → t'.closed = t.closed →
      task.progress.Waits → Evolves t j task t'
  | closes (code : Nat) (reason : String) : task.job = .close code reason → t.closed = false →
      t'.tasks = Function.update t.tasks j (some { task with progress := .active }) →
      t'.frames = t.frames → t'.closes = t.closes ++ [code] → t'.closed = true →
      task.progress.Waits → Evolves t j task t'

theorem perform_evolves {task : Task} {lock : Lock Nat} {nextTask : Nat}
    (hwaits : task.progress.Waits) :
    Evolves t j task (perform encodes { t with lock, nextTask } j task) := by
  obtain ⟨writer, job, progress⟩ := task
  cases job with
  | send message =>
      unfold perform
      dsimp only
      split
      · rename_i hclosed
        exact .settles _ (.refused message _ rfl hclosed hwaits) rfl rfl rfl rfl
      · rename_i hopen
        split
        · exact .sends message rfl (by simpa using hopen) rfl rfl rfl rfl hwaits
        · rename_i hrejected
          cases hpayload : message.payload with
          | commandExecute command =>
              exact .settles _ (.invalid message command _ rfl hpayload hwaits) rfl rfl rfl rfl
          | serverHello | serverReady | heartbeatPing | capabilitiesAck | commandResultRejected
          | protocolError => simp [accepts, hpayload] at hrejected
  | close code reason =>
      unfold perform
      dsimp only
      split
      · rename_i hclosed
        exact .settles _ (.closedBefore code reason rfl hclosed hwaits) rfl rfl rfl rfl
      · rename_i hopen
        exact .closes code reason rfl (by simpa using hopen) rfl rfl rfl rfl hwaits

theorem request_evolves (writer : Writer) (job : Job) :
    Evolves t t.nextTask ⟨writer, job, .queued false⟩ (t.request encodes writer job) := by
  unfold request
  dsimp only
  split
  · exact perform_evolves trivial
  · exact .settles _ (.queued false trivial) rfl rfl rfl rfl

theorem resume_evolves (h : t.resume encodes j = some t') :
    ∃ task, t.tasks j = some task ∧ Evolves t j task t' := by
  unfold resume at h
  dsimp only at h
  split at h
  · rename_i htask _
    cases h
    exact ⟨_, htask, perform_evolves trivial⟩
  · rename_i htask _
    cases h
    exact ⟨_, htask, .settles _ (.cancelled trivial) rfl rfl rfl rfl⟩
  · rename_i htask _
    cases h
    exact ⟨_, htask, .settles _ (.cancelled trivial) rfl rfl rfl rfl⟩
  · cases h

theorem cancel_evolves (h : t.cancel j = some t') :
    ∃ task, t.tasks j = some task ∧ Evolves t j task t' := by
  unfold cancel at h
  split at h
  · rename_i htask
    cases h
    exact ⟨_, htask, .settles _ (.queued true trivial) rfl rfl rfl rfl⟩
  · cases h

theorem complete_evolves {failure : Option Raised} (h : t.complete j failure = some t') :
    ∃ task, t.tasks j = some task ∧ Evolves t j task t' := by
  unfold complete at h
  split at h
  · rename_i htask
    cases h
    exact ⟨_, htask, .settles _ (.ended _ rfl) rfl rfl rfl rfl⟩
  · cases h

/-- The frames only grow, the closing is final, and a closed transport writes nothing. -/
theorem Evolves.monotone {task : Task} (h : Evolves t j task t') :
    t.frames <+: t'.frames ∧ (t.closed = true → t'.closed = true ∧ t'.frames = t.frames) ∧
      t.closes <+: t'.closes := by
  cases h with
  | settles _ _ _ hframes hcloses hclosed =>
      rw [hframes, hcloses, hclosed]
      exact ⟨List.prefix_rfl, fun h => ⟨h, rfl⟩, List.prefix_rfl⟩
  | sends message _ hopen _ hframes hcloses hclosed =>
      rw [hframes, hcloses, hclosed, hopen]
      exact ⟨List.prefix_append _ _, fun h => absurd h (by simp), List.prefix_rfl⟩
  | closes code reason _ hopen _ hframes hcloses hclosed =>
      rw [hframes, hcloses, hclosed, hopen]
      exact ⟨List.prefix_rfl, fun h => absurd h (by simp), List.prefix_append _ _⟩

end Transport

end Jobs

end JarvisCore.Gateway.Transports
