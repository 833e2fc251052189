import JarvisCore.Foundation.TransitionSystem
import JarvisCore.Manager.Operations

/-!
`InMemoryDeviceConnectionManager.execute` from one await to the next, and the
system in which any number of its calls interleave with the other operations.
The clock, fresh identifiers, the socket and the timers are inputs of the steps.
-/

namespace JarvisCore.Manager.Execution

open JarvisCore.Domain.Values
open JarvisCore.Domain.Errors
open JarvisCore.Domain.Models
open JarvisCore.Foundation.AsyncIO
open JarvisCore.Foundation.Dictionary
open JarvisCore.Foundation.TransitionSystem
open JarvisCore.Manager.Operations

abbrev Result := State × List TransportCall

def setCall (s : State) (x : Nat) (call : ExecuteCall) : State :=
  { s with calls := Function.update s.calls x (some call) }

def setLock (s : State) (connection : Nat) (lock : Lock Nat) : State :=
  { s with sendLocks := Function.update s.sendLocks connection lock }

/-- The outer `finally` block of `execute`, after which the call is over. -/
def cleanUp (s : State) (x : Nat) (call : AdmittedCall) (outcome : Outcome) : State :=
  let commandId := call.admission.command.id
  { s with
    pending :=
      if (s.pending.lookup commandId).map (fun p => p.future) = some x then
        s.pending.erase commandId
      else s.pending
    futures := Function.update s.futures x ((s.futures x).completeWith .cancelled)
    calls := Function.update s.calls x (some (.admitted { call with stage := .finished outcome })) }

def releaseSendLock (s : State) (a : Admission) : State :=
  setLock s a.connection (s.sendLocks a.connection).release

/-- The body of `async with connection.send_lock` up to the call of
`send_command`, entered with the lock held. -/
def send (s : State) (x : Nat) (call : AdmittedCall) : Result :=
  let a := call.admission
  if (s.connections.lookup a.command.deviceId).map (fun k => k.ref) = some a.connection then
    (setCall s x (.admitted { call with stage := .sending }),
      [.sendCommand x a.transport a.command a.sessionId])
  else
    (cleanUp (releaseSendLock s a) x call (.raised (.device (.deviceOffline a.command.deviceId))), [])

def admissionOf (command : DeviceCommand) (timeoutSeconds : Int) (k : LiveConnection) :
    Admission where
  command := command
  timeoutSeconds := timeoutSeconds
  connection := k.ref
  sessionId := k.sessionId
  transport := k.transport

/-- The entry is stored and the call is on its way to the send lock. -/
def register (s : State) (x : Nat) (a : Admission) : State :=
  { s with
    pending := s.pending.insert a.command.id (a.entry x)
    futures := Function.update s.futures x .pending
    calls := Function.update s.calls x (some (.admitted ⟨a, false, .waitingForLock⟩)) }

/-- The checks that `execute` makes before it stores an entry. -/
def checkAdmission (s : State) (command : DeviceCommand) (timeoutSeconds : Int) (now : AwareDatetime) :
    Except Raised LiveConnection :=
  if timeoutSeconds ≤ 0 then
    .error (.valueError "command timeout must be greater than zero")
  else if command.deadlineAt.instant - now.instant ≤ 0 then
    .error (.device (.deviceCommandTimeout command.id))
  else
    match s.connections.lookup command.deviceId with
    | none => .error (.device (.deviceOffline command.deviceId))
    | some k =>
        if k.status ≠ .online then .error (.device (.deviceOffline command.deviceId))
        else if command.capability ∉ k.effectiveCapabilities then
          .error (.device (.deviceCapabilityUnavailable command.deviceId command.capability))
        else if (s.pending.lookup command.id).isSome then
          .error (.valueError ("Command '" ++ command.id.text ++ "' is already pending."))
        else .ok k

/-- `execute` from its start to its first suspension. -/
def execute (s : State) (x : Nat) (command : DeviceCommand) (timeoutSeconds : Int)
    (now : AwareDatetime) : Result :=
  match checkAdmission s command timeoutSeconds now with
  | .error error => (setCall s x (.refused command error), [])
  | .ok k =>
      let a := admissionOf command timeoutSeconds k
      let lock := s.sendLocks k.ref
      if lock.available then
        send (setLock (register s x a) k.ref (lock.take x)) x ⟨a, false, .waitingForLock⟩
      else (setLock (register s x a) k.ref (lock.enqueue x), [])

/-- A waiter of `send_lock` runs again: woken by a release, or by a cancellation. -/
def resumeLock (s : State) (x : Nat) (call : AdmittedCall) : Option Result :=
  let a := call.admission
  let lock := s.sendLocks a.connection
  let interrupted :=
    (cleanUp (setLock s a.connection (lock.abandon x)) x call (.raised .cancelled), [])
  match call.stage, lock.waiterState x with
  | .waitingForLock, some .woken =>
      if call.cancelRequested then some interrupted
      else some (send (setLock s a.connection (lock.grant x)) x call)
  | .waitingForLock, some .cancelled => if call.cancelRequested then some interrupted else none
  | _, _ => none

/-- What `return await` does with a future that is done. -/
def settle : ResultFuture → Outcome
  | .result result => .returned result
  | .exception error => .raised error
  | .pending | .cancelled => .raised .cancelled

def effectiveTimeout (a : Admission) (now : AwareDatetime) : Int :=
  min a.timeoutSeconds (max 0 (a.command.deadlineAt.instant - now.instant))

/-- `wait_for(shield(future))` returns at once when the future is done. A
cancellation that `send_command` caught and did not pass on is over by now. -/
def beginWait (s : State) (x : Nat) (call : AdmittedCall) (now : AwareDatetime) : State :=
  if (s.futures x).done then cleanUp s x call (settle (s.futures x))
  else
    setCall s x (.admitted
      ⟨call.admission, false, .waiting (.start (effectiveTimeout call.admission now))⟩)

/-- `send_command` returns, or raises; a failure that is an `Exception` disconnects
the session, a cancellation does not. -/
def completeSend (s : State) (x : Nat) (call : AdmittedCall) (failure : Option Raised)
    (now : AwareDatetime) : Option Result :=
  let a := call.admission
  match call.stage, failure with
  | .sending, none => some (beginWait (releaseSendLock s a) x call now, [])
  | .sending, some error =>
      if error.isException then
        let s := (disconnect s a.command.deviceId a.sessionId).1
        some (cleanUp (releaseSendLock s a) x call (.raised error), [])
      else if call.cancelRequested then
        some (cleanUp (releaseSendLock s a) x call (.raised error), [])
      else none
  | _, _ => none

/-- The callback of `shield`, which runs some time after the future is done. -/
def copyResult (s : State) (x : Nat) (call : AdmittedCall) : Option Result :=
  match call.stage with
  | .waiting w =>
      if (s.futures x).done && !w.outer.done then
        some (setCall s x (.admitted { call with stage := .waiting (w.copyFrom (s.futures x)) }), [])
      else none
  | _ => none

def fireTimer (s : State) (x : Nat) (call : AdmittedCall) : Option Result :=
  match call.stage with
  | .waiting w =>
      if w.timedOut then none
      else some (setCall s x (.admitted { call with stage := .waiting w.fireTimer }), [])
  | _ => none

/-- The outcome with which a resumed `wait_for` leaves the call. -/
def waitOutcome (call : AdmittedCall) (w : ShieldedWait DeviceCommandResult Raised) : Outcome :=
  match w.conclude call.cancelRequested with
  | .cancelled => .raised .cancelled
  | .timeout => .raised (.device (.deviceCommandTimeout call.admission.command.id))
  | .settled outer => settle outer

/-- The task suspended in `wait_for` runs again. -/
def resumeWait (s : State) (x : Nat) (call : AdmittedCall) : Option Result :=
  match call.stage with
  | .waiting w =>
      if w.outer.done then some (cleanUp s x call (waitOutcome call w), []) else none
  | _ => none

/-- The caller cancels the task; the `CancelledError` is raised when it runs again. -/
def cancel (s : State) (x : Nat) (call : AdmittedCall) : Option Result :=
  let a := call.admission
  match call.stage with
  | .waitingForLock =>
      let s := setLock s a.connection ((s.sendLocks a.connection).cancelWaiter x)
      some (setCall s x (.admitted { call with cancelRequested := true }), [])
  | .sending => some (setCall s x (.admitted { call with cancelRequested := true }), [])
  | .waiting w =>
      some (setCall s x (.admitted
        { call with cancelRequested := true, stage := .waiting w.cancel }), [])
  | .finished _ => none

def onCall (s : State) (x : Nat) (f : AdmittedCall → Option Result) : Option Result :=
  match s.calls x with
  | some (.admitted call) => f call
  | _ => none

inductive Action
  | connect (deviceId : UUID) (transport : Nat) (sessionId : UUID) (now : AwareDatetime)
  | activate (deviceId sessionId : UUID)
      (advertisedCapabilities effectiveCapabilities : Finset DeviceCapability)
      (now : AwareDatetime)
  | disconnect (deviceId sessionId : UUID)
  | disconnectDevice (deviceId : UUID) (code : Nat) (reason : String)
  | touch (deviceId sessionId : UUID) (now : AwareDatetime)
  | resolve (deviceId sessionId : UUID) (result : DeviceCommandResult)
  | closeAll
  | execute (call : Nat) (command : DeviceCommand) (timeoutSeconds : Int) (now : AwareDatetime)
  | resumeLock (call : Nat)
  | completeSend (call : Nat) (failure : Option Raised) (now : AwareDatetime)
  | copyResult (call : Nat)
  | fireTimer (call : Nat)
  | resumeWait (call : Nat)
  | cancel (call : Nat)

def closeCalls (code : Nat) (reason : String) (removed : List LiveConnection) :
    List TransportCall :=
  removed.map fun k => .close k.transport code reason

def step (s : State) : Action → Option Result
  | .connect deviceId transport sessionId now =>
      let (t, replaced) := connect s deviceId transport sessionId now
      some (t, closeCalls replacedCloseCode "Connection replaced by a newer session."
        replaced.toList)
  | .activate deviceId sessionId advertised effective now =>
      match activate s deviceId sessionId advertised effective now with
      | .ok t => some (t, [])
      | .error _ => some (s, [])
  | .disconnect deviceId sessionId => some ((disconnect s deviceId sessionId).1, [])
  | .disconnectDevice deviceId code reason =>
      let (t, removed) := disconnectDevice s deviceId
      some (t, closeCalls code reason removed.toList)
  | .touch deviceId sessionId now => some ((touch s deviceId sessionId now).1, [])
  | .resolve deviceId sessionId result => some ((resolve s deviceId sessionId result).1, [])
  | .closeAll =>
      let (t, removed) := closeAll s
      some (t, closeCalls 1001 "Application shutting down." (removed.map Prod.snd))
  | .execute x command timeoutSeconds now =>
      match s.calls x with
      | none => some (execute s x command timeoutSeconds now)
      | some _ => none
  | .resumeLock x => onCall s x (resumeLock s x)
  | .completeSend x failure now => onCall s x fun call => completeSend s x call failure now
  | .copyResult x => onCall s x (copyResult s x)
  | .fireTimer x => onCall s x (fireTimer s x)
  | .resumeWait x => onCall s x (resumeWait s x)
  | .cancel x => onCall s x (cancel s x)

def manager : System State Action TransportCall where
  start := State.initial
  step := step

theorem onCall_eq_some {s : State} {x : Nat} {f : AdmittedCall → Option Result} {r : Result}
    (h : onCall s x f = some r) : ∃ call, s.calls x = some (.admitted call) ∧ f call = some r := by
  unfold onCall at h
  split at h
  · rename_i call hcall
    exact ⟨call, hcall, h⟩
  · cases h

theorem admission_eq_ok {s : State} {command : DeviceCommand} {timeoutSeconds : Int}
    {now : AwareDatetime} {k : LiveConnection} (h : checkAdmission s command timeoutSeconds now = .ok k) :
    s.connections.lookup command.deviceId = some k ∧ k.status = .online ∧
      command.capability ∈ k.effectiveCapabilities ∧ s.pending.lookup command.id = none ∧
      now.instant < command.deadlineAt.instant := by
  unfold checkAdmission at h
  split at h
  · cases h
  split at h
  · cases h
  rename_i hdeadline
  split at h
  · cases h
  rename_i k' hk
  split at h
  · cases h
  rename_i hstatus
  split at h
  · cases h
  rename_i hcapability
  split at h
  · cases h
  rename_i hpending
  cases h
  refine ⟨hk, by simpa using hstatus, by simpa using hcapability, by simpa using hpending, ?_⟩
  omega

theorem send_cases (s : State) (x : Nat) (call : AdmittedCall) :
    ((∃ k, s.connections.lookup call.admission.command.deviceId = some k ∧
        k.ref = call.admission.connection) ∧
      send s x call = (setCall s x (.admitted { call with stage := .sending }),
        [.sendCommand x call.admission.transport call.admission.command
          call.admission.sessionId])) ∨
    ((∀ k, s.connections.lookup call.admission.command.deviceId = some k →
        k.ref ≠ call.admission.connection) ∧
      send s x call = (cleanUp (releaseSendLock s call.admission) x call
        (.raised (.device (.deviceOffline call.admission.command.deviceId))), [])) := by
  unfold send
  by_cases h : (s.connections.lookup call.admission.command.deviceId).map (fun k => k.ref) =
      some call.admission.connection
  · obtain ⟨k, hk, href⟩ := Option.map_eq_some_iff.mp h
    exact .inl ⟨⟨k, hk, href⟩, if_pos h⟩
  · refine .inr ⟨?_, if_neg h⟩
    intro k hk href
    exact h (by simp [hk, href])

theorem execute_cases (s : State) (x : Nat) (command : DeviceCommand) (timeoutSeconds : Int)
    (now : AwareDatetime) :
    (∃ error, checkAdmission s command timeoutSeconds now = .error error ∧
      execute s x command timeoutSeconds now = (setCall s x (.refused command error), [])) ∨
    ∃ k lock, checkAdmission s command timeoutSeconds now = .ok k ∧
      let a := admissionOf command timeoutSeconds k
      let registered := setLock (register s x a) k.ref lock
      (execute s x command timeoutSeconds now = send registered x ⟨a, false, .waitingForLock⟩ ∨
        execute s x command timeoutSeconds now = (registered, [])) := by
  unfold execute
  cases hallowed : checkAdmission s command timeoutSeconds now with
  | error error => exact .inl ⟨error, rfl, rfl⟩
  | ok k =>
      dsimp only
      split
      · exact .inr ⟨k, _, rfl, .inl rfl⟩
      · exact .inr ⟨k, _, rfl, .inr rfl⟩

theorem resumeLock_cases {s : State} {x : Nat} {call : AdmittedCall} {r : Result}
    (h : resumeLock s x call = some r) :
    call.stage = .waitingForLock ∧ ∃ lock,
      (call.cancelRequested = true ∧
        r = (cleanUp (setLock s call.admission.connection lock) x call (.raised .cancelled), [])) ∨
      (call.cancelRequested = false ∧
        r = send (setLock s call.admission.connection lock) x call) := by
  unfold resumeLock at h
  dsimp only at h
  split at h
  · rename_i hstage _
    refine ⟨hstage, ?_⟩
    split at h
    · rename_i hcancel
      cases h
      exact ⟨_, .inl ⟨hcancel, rfl⟩⟩
    · rename_i hcancel
      exact ⟨_, .inr ⟨by simpa using hcancel, (Option.some.inj h).symm⟩⟩
  · rename_i hstage _
    refine ⟨hstage, ?_⟩
    split at h
    · rename_i hcancel
      cases h
      exact ⟨_, .inl ⟨hcancel, rfl⟩⟩
    · cases h
  · cases h

theorem completeSend_cases {s : State} {x : Nat} {call : AdmittedCall} {failure : Option Raised}
    {now : AwareDatetime} {r : Result} (h : completeSend s x call failure now = some r) :
    call.stage = .sending ∧
      ((failure = none ∧ r = (beginWait (releaseSendLock s call.admission) x call now, [])) ∨
      ∃ error, failure = some error ∧
        ((error.isException = true ∧
          r = (cleanUp (releaseSendLock (disconnect s call.admission.command.deviceId
              call.admission.sessionId).1 call.admission) x call (.raised error), [])) ∨
        (error.isException = false ∧ call.cancelRequested = true ∧
          r = (cleanUp (releaseSendLock s call.admission) x call (.raised error), [])))) := by
  unfold completeSend at h
  dsimp only at h
  split at h
  · rename_i hstage
    exact ⟨hstage, .inl ⟨rfl, (Option.some.inj h).symm⟩⟩
  · rename_i error hstage
    refine ⟨hstage, .inr ⟨error, rfl, ?_⟩⟩
    split at h
    · rename_i hexception
      exact .inl ⟨hexception, (Option.some.inj h).symm⟩
    · rename_i hexception
      split at h
      · rename_i hcancel
        exact .inr ⟨by simpa using hexception, hcancel, (Option.some.inj h).symm⟩
      · cases h
  · cases h

theorem beginWait_cases (s : State) (x : Nat) (call : AdmittedCall) (now : AwareDatetime) :
    ((s.futures x).done = true ∧
      beginWait s x call now = cleanUp s x call (settle (s.futures x))) ∨
    (s.futures x = .pending ∧ beginWait s x call now =
      setCall s x (.admitted
        ⟨call.admission, false, .waiting (.start (effectiveTimeout call.admission now))⟩)) := by
  unfold beginWait
  split
  · rename_i hdone
    exact .inl ⟨hdone, rfl⟩
  · rename_i hdone
    exact .inr ⟨FutureState.done_eq_false_iff.mp (by simpa using hdone), rfl⟩

theorem copyResult_cases {s : State} {x : Nat} {call : AdmittedCall} {r : Result}
    (h : copyResult s x call = some r) :
    ∃ w, call.stage = .waiting w ∧ (s.futures x).done = true ∧ w.outer = .pending ∧
      r = (setCall s x (.admitted
        { call with stage := .waiting (w.copyFrom (s.futures x)) }), []) := by
  unfold copyResult at h
  split at h
  · rename_i w hstage
    split at h
    · rename_i hready
      simp only [Bool.and_eq_true, Bool.not_eq_true'] at hready
      exact ⟨w, hstage, hready.1, FutureState.done_eq_false_iff.mp hready.2,
        (Option.some.inj h).symm⟩
    · cases h
  · cases h

theorem fireTimer_cases {s : State} {x : Nat} {call : AdmittedCall} {r : Result}
    (h : fireTimer s x call = some r) :
    ∃ w, call.stage = .waiting w ∧ w.timedOut = false ∧
      r = (setCall s x (.admitted { call with stage := .waiting w.fireTimer }), []) := by
  unfold fireTimer at h
  split at h
  · rename_i w hstage
    split at h
    · cases h
    · rename_i htimer
      exact ⟨w, hstage, by simpa using htimer, (Option.some.inj h).symm⟩
  · cases h

theorem resumeWait_cases {s : State} {x : Nat} {call : AdmittedCall} {r : Result}
    (h : resumeWait s x call = some r) :
    ∃ w, call.stage = .waiting w ∧ w.outer.done = true ∧
      r = (cleanUp s x call (waitOutcome call w), []) := by
  unfold resumeWait at h
  split at h
  · rename_i w hstage
    split at h
    · rename_i hdone
      exact ⟨w, hstage, hdone, (Option.some.inj h).symm⟩
    · cases h
  · cases h

theorem cancel_cases {s : State} {x : Nat} {call : AdmittedCall} {r : Result}
    (h : cancel s x call = some r) :
    ∃ lock stage,
      ((call.stage = .waitingForLock ∧ stage = .waitingForLock) ∨
        (call.stage = .sending ∧ stage = .sending) ∨
        ∃ w, call.stage = .waiting w ∧ stage = .waiting w.cancel) ∧
      r = (setCall (setLock s call.admission.connection lock) x
        (.admitted ⟨call.admission, true, stage⟩), []) := by
  have hsame : setLock s call.admission.connection (s.sendLocks call.admission.connection) = s := by
    simp [setLock, Function.update_eq_self]
  unfold cancel at h
  split at h
  · rename_i hstage
    cases h
    exact ⟨_, .waitingForLock, .inl ⟨hstage, rfl⟩, by rw [hstage]⟩
  · rename_i hstage
    cases h
    refine ⟨s.sendLocks call.admission.connection, .sending, .inr (.inl ⟨hstage, rfl⟩), ?_⟩
    rw [hsame, hstage]
  · rename_i w hstage
    cases h
    refine ⟨s.sendLocks call.admission.connection, .waiting w.cancel,
      .inr (.inr ⟨w, hstage, rfl⟩), ?_⟩
    rw [hsame]
  · cases h

end JarvisCore.Manager.Execution
