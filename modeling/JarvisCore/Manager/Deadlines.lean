import JarvisCore.Manager.PendingOwnership
import JarvisCore.Manager.SendLocks

namespace JarvisCore.Manager.Deadlines

open JarvisCore.Domain.Values
open JarvisCore.Domain.Errors
open JarvisCore.Domain.Models
open JarvisCore.Foundation.AsyncIO
open JarvisCore.Foundation.Dictionary
open JarvisCore.Foundation.TransitionSystem
open JarvisCore.Manager.Operations
open JarvisCore.Manager.Execution
open JarvisCore.Manager.Invariant
open JarvisCore.Manager.Evolution
open JarvisCore.Manager.Connections
open JarvisCore.Manager.PendingOwnership
open JarvisCore.Manager.SendLocks

def reading : Action → Option Int
  | .connect _ _ _ now | .activate _ _ _ _ now | .touch _ _ now | .execute _ _ _ now
  | .completeSend _ _ now => some now.instant
  | _ => none

abbrev timedManager (origin : Int) : System (State × Int) (Action × Int) TransportCall :=
  clocked manager reading origin

abbrev TimedStep := Transition (State × Int) (Action × Int) TransportCall

/-- Nothing suspends the call any more before its send: it has been admitted and the
lock is free, or it leaves the queue of the lock. -/
def ReachesSend (s : State) (x : Nat) (command : DeviceCommand) : Action → Prop
  | .execute y c timeoutSeconds now => y = x ∧ c = command ∧
      ∃ k, checkAdmission s c timeoutSeconds now = .ok k ∧ (s.sendLocks k.ref).available = true
  | .resumeLock y => y = x ∧ ∃ call, s.calls x = some (.admitted call) ∧
      call.cancelRequested = false ∧ call.admission.command = command
  | _ => False

/-- The device still has the connection under which the call was admitted. -/
def StillCurrent (s : State) (x : Nat) : Action → Prop
  | .resumeLock _ => ∃ call, s.calls x = some (.admitted call) ∧ HoldsCurrent s call.admission
  | _ => True

/-- What keeps the queue of a `send_lock` waiting: another send over the connection, or a
waiter that has been woken, or cancelled, and whose task has not run yet. -/
inductive HeldUp (s : State) (connection : Nat) : Prop
  | sending (y : Nat) : Holds (s.calls y) connection → HeldUp s connection
  | turn (y : Nat) (state : WaiterState) : (s.sendLocks connection).owner = none →
      (s.sendLocks connection).waiters.head? = some (y, state) → state ≠ .pending →
      HeldUp s connection

/-- The deadline passes before the command is sent: in the queue of the `send_lock`, or
between the check and the end of the step that admits the call. -/
inductive Delayed (u : TimedStep) (x : Nat) (command : DeviceCommand) : Prop
  | queued (call : AdmittedCall) : u.source.1.calls x = some (.admitted call) →
      call.stage = .waitingForLock → call.admission.command = command →
      HeldUp u.source.1 call.admission.connection → u.source.2 < command.deadlineAt.instant →
      command.deadlineAt.instant ≤ u.action.2 → Delayed u x command
  | admitted (timeoutSeconds : Int) (now : AwareDatetime) :
      u.action.1 = .execute x command timeoutSeconds now → now.instant < command.deadlineAt.instant →
      command.deadlineAt.instant ≤ u.action.2 → Delayed u x command

def DelayedIn (history : List TimedStep) (x : Nat) (command : DeviceCommand) : Prop :=
  ∃ u ∈ history, Delayed u x command

/-- The call can no longer meet the deadline: it begins too late, or it gets to its
send too late. -/
def Overdue (u : TimedStep) (x : Nat) (command : DeviceCommand) : Prop :=
  (∃ timeoutSeconds now, u.action.1 = .execute x command timeoutSeconds now ∧
    0 < timeoutSeconds ∧ command.deadlineAt.instant ≤ now.instant) ∨
  (ReachesSend u.source.1 x command u.action.1 ∧ command.deadlineAt.instant ≤ u.action.2)

def timeout (command : DeviceCommand) : Raised := .device (.deviceCommandTimeout command.id)

def TimesOut (s : State) (x : Nat) (command : DeviceCommand) : Prop :=
  s.calls x = some (.refused command (timeout command)) ∨
    ∃ call, s.calls x = some (.admitted call) ∧ call.stage = .finished (.raised (timeout command))

def Sends (u : TimedStep) (x : Nat) : Prop :=
  ∃ transport command sessionId, .sendCommand x transport command sessionId ∈ u.events

/-- What is sent in the step is sent before its deadline. -/
def InTime (u : TimedStep) : Prop :=
  ∀ x transport command sessionId, .sendCommand x transport command sessionId ∈ u.events →
    u.action.2 < command.deadlineAt.instant

/-- Besides, what is too late times out without ever being sent. -/
structure Prompt (history : List TimedStep) (u : TimedStep) : Prop where
  sent : InTime u
  overdue : ∀ x command, Overdue u x command →
    TimesOut u.target.1 x command ∧ ∀ v ∈ history, ¬ Sends v x

theorem execute_eq {s : State} {x : Nat} {command : DeviceCommand} {timeoutSeconds : Int}
    {now : AwareDatetime} {k : LiveConnection}
    (hallowed : checkAdmission s command timeoutSeconds now = .ok k) :
    execute s x command timeoutSeconds now =
      let a := admissionOf command timeoutSeconds k
      let lock := s.sendLocks k.ref
      if lock.available then
        send (setLock (register s x a) k.ref (lock.take x)) x ⟨a, false, .waitingForLock⟩
      else (setLock (register s x a) k.ref (lock.enqueue x), []) := by
  simp only [execute, hallowed]

theorem send_outcome (s : State) (x : Nat) (call : AdmittedCall) :
    (∃ call', (send s x call).1.calls x = some (.admitted call') ∧
      call'.admission = call.admission ∧
      (call'.stage = .sending ∨ call'.stage = .finished (offline call.admission))) ∧
    ∀ y transport command sessionId,
      .sendCommand y transport command sessionId ∈ (send s x call).2 →
        y = x ∧ command = call.admission.command := by
  rcases send_cases s x call with ⟨-, h⟩ | ⟨-, h⟩
  · rw [h]
    refine ⟨⟨_, setCall_calls_self _ _ _, rfl, .inl rfl⟩, ?_⟩
    intro y transport command sessionId hsend
    obtain ⟨rfl, -, rfl, -⟩ := by simpa using hsend
    exact ⟨rfl, rfl⟩
  · rw [h]
    refine ⟨⟨_, cleanUp_calls_self _ _ _ _, rfl, .inr rfl⟩, ?_⟩
    intro y transport command sessionId hsend
    cases hsend

/-- A call that gets to its send is sending after the step, or it has found its
connection gone. -/
theorem stage_of_reachesSend {s t : State} {action : Action} {events : List TransportCall}
    (h : step s action = some (t, events)) {x : Nat} {command : DeviceCommand}
    (hreaches : ReachesSend s x command action) :
    ∃ call, t.calls x = some (.admitted call) ∧ call.admission.command = command ∧
      (call.stage = .sending ∨ call.stage = .finished (offline call.admission)) := by
  cases action with
  | execute y c timeoutSeconds now =>
      obtain ⟨rfl, rfl, k, hallowed, hfree⟩ := hreaches
      simp only [step] at h
      split at h
      · rw [execute_eq hallowed] at h
        dsimp only at h
        rw [if_pos hfree] at h
        obtain ⟨call, hcall, hadmission, hstage⟩ := (send_outcome _ y _).1
        rw [Option.some.inj h] at hcall
        rw [← hadmission] at hstage
        exact ⟨call, hcall, congrArg Admission.command hadmission, hstage⟩
      · cases h
  | resumeLock y =>
      obtain ⟨rfl, call, hcall, hcancel, rfl⟩ := hreaches
      obtain ⟨call', hcall', hr⟩ := onCall_eq_some h
      obtain rfl : call = call' := by simpa [hcall] using hcall'
      obtain ⟨-, lock, ⟨hcancelled, -⟩ | ⟨-, hr⟩⟩ := resumeLock_cases hr
      · rw [hcancel] at hcancelled
        cases hcancelled
      · obtain ⟨call', hcall', hadmission, hstage⟩ := (send_outcome _ y _).1
        rw [← hr] at hcall'
        rw [← hadmission] at hstage
        exact ⟨call', hcall', congrArg Admission.command hadmission, hstage⟩
  | connect | activate | disconnect | disconnectDevice | touch | resolve | closeAll | completeSend
  | copyResult | fireTimer | resumeWait | cancel => exact hreaches.elim

theorem waiting_of_reachesSend {s t : State} {action : Action} {events : List TransportCall}
    (h : step s action = some (t, events)) {x : Nat} {command : DeviceCommand}
    (hreaches : ReachesSend s x command action) {call : AdmittedCall}
    (hcall : s.calls x = some (.admitted call)) : call.stage = .waitingForLock := by
  cases action with
  | execute y c timeoutSeconds now =>
      obtain ⟨rfl, -⟩ := hreaches
      simp only [step, hcall] at h
      cases h
  | resumeLock y =>
      obtain ⟨rfl, -⟩ := hreaches
      obtain ⟨call', hcall', hr⟩ := onCall_eq_some h
      obtain rfl : call' = call := by simpa [hcall'] using hcall
      exact (resumeLock_cases hr).1
  | connect | activate | disconnect | disconnectDevice | touch | resolve | closeAll | completeSend
  | copyResult | fireTimer | resumeWait | cancel => exact hreaches.elim

theorem reachesSend_of_sends {s t : State} {action : Action} {events : List TransportCall}
    (h : step s action = some (t, events)) {x transport : Nat} {command : DeviceCommand}
    {sessionId : UUID} (hsend : .sendCommand x transport command sessionId ∈ events) :
    ReachesSend s x command action := by
  obtain ⟨hactor, -⟩ := step_dispatches h hsend
  cases action with
  | execute y c timeoutSeconds now =>
      obtain rfl : y = x := Option.some.inj hactor
      simp only [step] at h
      split at h
      · cases hallowed : checkAdmission s c timeoutSeconds now with
        | error error =>
            simp only [execute, hallowed] at h
            cases h
            cases hsend
        | ok k =>
            rw [execute_eq hallowed] at h
            dsimp only at h
            split at h
            · rename_i hfree
              rw [show events = (send _ y _).2 from
                (congrArg Prod.snd (Option.some.inj h)).symm] at hsend
              obtain ⟨-, rfl⟩ := (send_outcome _ y _).2 _ _ _ _ hsend
              exact ⟨rfl, rfl, k, hallowed, hfree⟩
            · cases h
              cases hsend
      · cases h
  | resumeLock y =>
      obtain rfl : y = x := Option.some.inj hactor
      obtain ⟨call, hcall, hr⟩ := onCall_eq_some h
      obtain ⟨-, lock, ⟨-, hr⟩ | ⟨hcancel, hr⟩⟩ := resumeLock_cases hr
      · cases hr
        cases hsend
      · rw [show events = (send _ y _).2 from congrArg Prod.snd hr] at hsend
        obtain ⟨-, rfl⟩ := (send_outcome _ y _).2 _ _ _ _ hsend
        exact ⟨rfl, call, hcall, hcancel, rfl⟩
  | completeSend y failure now =>
      obtain ⟨call, -, hr⟩ := onCall_eq_some h
      obtain ⟨-, ⟨-, hr⟩ | ⟨error, -, ⟨-, hr⟩ | ⟨-, -, hr⟩⟩⟩ := completeSend_cases hr
      all_goals
        cases hr
        cases hsend
  | copyResult y =>
      obtain ⟨call, -, hr⟩ := onCall_eq_some h
      obtain ⟨w, -, -, -, hr⟩ := copyResult_cases hr
      cases hr
      cases hsend
  | fireTimer y =>
      obtain ⟨call, -, hr⟩ := onCall_eq_some h
      obtain ⟨w, -, -, hr⟩ := fireTimer_cases hr
      cases hr
      cases hsend
  | resumeWait y =>
      obtain ⟨call, -, hr⟩ := onCall_eq_some h
      obtain ⟨w, -, -, hr⟩ := resumeWait_cases hr
      cases hr
      cases hsend
  | cancel y =>
      obtain ⟨call, -, hr⟩ := onCall_eq_some h
      obtain ⟨lock, stage, -, hr⟩ := cancel_cases hr
      cases hr
      cases hsend
  | connect | activate | disconnect | disconnectDevice | touch | resolve | closeAll => cases hactor

theorem timesOut_of_expired {s t : State} {x : Nat} {command : DeviceCommand}
    {timeoutSeconds : Int} {now : AwareDatetime} {events : List TransportCall}
    (h : step s (.execute x command timeoutSeconds now) = some (t, events))
    (htimeout : 0 < timeoutSeconds) (hexpired : command.deadlineAt.instant ≤ now.instant) :
    t.calls x = some (.refused command (timeout command)) := by
  have hrefused : checkAdmission s command timeoutSeconds now = .error (timeout command) := by
    unfold checkAdmission
    rw [if_neg (by omega), if_pos (by omega)]
    rfl
  simp only [step] at h
  split at h
  · simp only [execute, hrefused] at h
    cases h
    exact setCall_calls_self _ _ _
  · cases h

theorem step_refused {s t : State} {action : Action} {events : List TransportCall}
    (h : step s action = some (t, events)) {x : Nat} {command : DeviceCommand} {error : Raised}
    (hx : s.calls x = some (.refused command error)) :
    t.calls x = some (.refused command error) := by
  have hactor : actor action ≠ some x := by
    intro hactor
    cases action with
    | connect | activate | disconnect | disconnectDevice | touch | resolve | closeAll =>
        cases hactor
    | execute y c timeoutSeconds now =>
        obtain rfl : y = x := Option.some.inj hactor
        simp only [step, hx] at h
        cases h
    | resumeLock y | completeSend y | copyResult y | fireTimer y | resumeWait y | cancel y =>
        obtain rfl : y = x := Option.some.inj hactor
        obtain ⟨call, hcall, -⟩ := onCall_eq_some h
        rw [hx] at hcall
        cases hcall
  exact (step_frame h hactor).1.trans hx

theorem not_sends_of_refused {s : State} {history : List Step}
    (hrun : Run manager State.initial history s) {x : Nat} {command : DeviceCommand}
    {error : Raised} (hx : s.calls x = some (.refused command error)) {v : Step} (hv : v ∈ history)
    {transport : Nat} {sent : DeviceCommand} {sessionId : UUID} :
    .sendCommand x transport sent sessionId ∉ v.events := by
  intro hsend
  obtain ⟨later, earlier, -, -, hfire, hlater⟩ := hrun.exists_of_mem hv
  obtain ⟨-, call, hdispatches⟩ := step_dispatches hfire hsend
  obtain ⟨call', hcall', -⟩ := run_continues hlater hdispatches.admitted
  rw [hx] at hcall'
  cases hcall'

theorem not_timesOut_of_reachesSend {s t : State} {action : Action} {events : List TransportCall}
    (h : step s action = some (t, events)) {x : Nat} {command : DeviceCommand}
    (hreaches : ReachesSend s x command action) : ¬ TimesOut t x command := by
  obtain ⟨call, hcall, -, hstage⟩ := stage_of_reachesSend h hreaches
  rintro (hrefused | ⟨call', hcall', hfinished⟩)
  · rw [hcall] at hrefused
    cases hrefused
  · obtain rfl : call = call' := by simpa [hcall] using hcall'
    rcases hstage with hsending | hoffline
    · rw [hsending] at hfinished
      cases hfinished
    · rw [hoffline] at hfinished
      cases hfinished

theorem sends_of_reachesSend {s t : State} {action : Action} {events : List TransportCall}
    (h : step s action = some (t, events)) {x : Nat} {command : DeviceCommand}
    (hreaches : ReachesSend s x command action) (hcurrent : StillCurrent s x action) :
    ∃ transport sessionId, .sendCommand x transport command sessionId ∈ events := by
  obtain ⟨call, hcall, hcommand, hstage⟩ := stage_of_reachesSend h hreaches
  have hsending : call.stage = .sending := by
    refine hstage.resolve_right ?_
    intro hoffline
    rcases step_admitted h hcall with ⟨call₀, hcall₀, ⟨-, rfl⟩ | ⟨-, hcontinuation⟩⟩ | hstarts
    · rw [waiting_of_reachesSend h hreaches hcall₀] at hoffline
      cases hoffline
    · cases action with
      | resumeLock y =>
          obtain ⟨call₁, hcall₁, hcurrent⟩ := hcurrent
          obtain rfl : call₁ = call₀ := by simpa [hcall₁] using hcall₀
          cases hcontinuation with
          | interrupted => cases hoffline
          | dropped _ hlost => exact hlost hcurrent
          | sends => cases hoffline
      | execute y c timeoutSeconds now => cases hcontinuation
      | connect | activate | disconnect | disconnectDevice | touch | resolve | closeAll
      | completeSend | copyResult | fireTimer | resumeWait | cancel => exact hreaches
    · rcases hstarts.stage with hwaits | hsends
      · cases hoffline.symm.trans hwaits
      · cases hoffline.symm.trans hsends
  rcases step_pastSend h hcall (by rw [hsending]; trivial) with
    ⟨call₀, hcall₀, -, hpast⟩ | hdispatched
  · rw [waiting_of_reachesSend h hreaches hcall₀] at hpast
    exact hpast.elim
  · subst hcommand
    exact ⟨_, _, hdispatched⟩

theorem stillCurrent_of_sends {s t : State} {action : Action} {events : List TransportCall}
    (h : step s action = some (t, events)) {x transport : Nat} {command : DeviceCommand}
    {sessionId : UUID} (hsend : .sendCommand x transport command sessionId ∈ events) :
    StillCurrent s x action := by
  have hreaches := reachesSend_of_sends h hsend
  obtain ⟨-, call', hdispatches⟩ := step_dispatches h hsend
  cases action with
  | resumeLock y =>
      obtain ⟨rfl, call, hcall, -⟩ := hreaches
      obtain ⟨last, hlast, hcontinues⟩ := step_continues h hcall
      obtain rfl : last = call' := by simpa [hlast] using hdispatches.admitted
      exact ⟨call, hcall, hcontinues.admission ▸ hdispatches.current⟩
  | connect | activate | disconnect | disconnectDevice | touch | resolve | closeAll | execute
  | completeSend | copyResult | fireTimer | resumeWait | cancel => trivial

section Delays

theorem heldUp_of_waiting {s : State} (hinv : LockInv s) {x : Nat} {call : AdmittedCall}
    (hcall : s.calls x = some (.admitted call)) (hstage : call.stage = .waitingForLock) :
    HeldUp s call.admission.connection := by
  cases howner : (s.sendLocks call.admission.connection).owner with
  | some y => exact .sending y ((hinv.held _ y).mp howner)
  | none =>
      have hmem := hinv.mem_queue hcall hstage
      cases hwaiters : (s.sendLocks call.admission.connection).waiters with
      | nil => simp [Lock.queue, hwaiters] at hmem
      | cons w rest =>
          have hhead : (s.sendLocks call.admission.connection).waiters.head? = some w := by
            rw [hwaiters, List.head?_cons]
          exact .turn w.1 w.2 howner hhead ((hinv.orderly _).awake howner w hhead)

/-- The call is past the queue of the lock. -/
def Passed (s : State) (x : Nat) : Prop :=
  ∃ call, s.calls x = some (.admitted call) ∧ call.stage ≠ .waitingForLock

theorem step_waiting {s t : State} {action : Action} {events : List TransportCall}
    (h : step s action = some (t, events)) {x : Nat} {call : AdmittedCall}
    (hcall : t.calls x = some (.admitted call)) (hstage : call.stage = .waitingForLock) :
    (∃ call₀, s.calls x = some (.admitted call₀) ∧ call₀.stage = .waitingForLock ∧
      call₀.admission = call.admission) ∨ Starts ⟨s, action, events, t⟩ x call := by
  rcases step_admitted h hcall with ⟨call₀, hcall₀, ⟨-, rfl⟩ | ⟨-, hcontinuation⟩⟩ | hstarts
  · exact .inl ⟨call, hcall₀, hstage, rfl⟩
  · left
    cases hcontinuation with
    | cancelled stage hstages =>
        rcases hstages with ⟨hwaits, -⟩ | ⟨-, rfl⟩ | ⟨w, -, rfl⟩
        · exact ⟨call₀, hcall₀, hwaits, rfl⟩
        · cases hstage
        · cases hstage
    | interrupted | dropped | sends | failed | answered | waits | copies | expires | resumes =>
        cases hstage
  · exact .inr hstarts

theorem step_passed {s t : State} {action : Action} {events : List TransportCall}
    (h : step s action = some (t, events)) {x : Nat} (hpassed : Passed s x) : Passed t x := by
  obtain ⟨call, hcall, hstage⟩ := hpassed
  obtain ⟨call', hcall', -⟩ := step_continues h hcall
  refine ⟨call', hcall', ?_⟩
  intro hwaits
  rcases step_waiting h hcall' hwaits with ⟨call₀, hcall₀, hwaits₀, -⟩ | hstarts
  · obtain rfl : call₀ = call := by simpa [hcall₀] using hcall
    exact hstage hwaits₀
  · cases hcall.symm.trans hstarts.fresh

theorem passed_of_reachesSend {s t : State} {action : Action} {events : List TransportCall}
    (h : step s action = some (t, events)) {x : Nat} {command : DeviceCommand}
    (hreaches : ReachesSend s x command action) : Passed t x := by
  obtain ⟨call, hcall, -, hstage⟩ := stage_of_reachesSend h hreaches
  refine ⟨call, hcall, ?_⟩
  intro hwaits
  rcases hstage with hsending | hoffline
  · cases hwaits.symm.trans hsending
  · cases hwaits.symm.trans hoffline

variable {origin : Int} {history : List TimedStep} {s : State × Int} {u v : TimedStep} {x : Nat}
  {command : DeviceCommand}

theorem Delayed.late (h : Delayed u x command) : command.deadlineAt.instant ≤ u.action.2 := by
  cases h with
  | queued call _ _ _ _ _ hlate => exact hlate
  | admitted timeoutSeconds now _ _ hlate => exact hlate

theorem Delayed.not_passed (h : Delayed u x command)
    (hfire : step u.source.1 u.action.1 = some (u.target.1, u.events)) :
    ¬ Passed u.source.1 x := by
  rintro ⟨call, hcall, hstage⟩
  cases h with
  | queued call' hcall' hwaits =>
      obtain rfl : call' = call := by simpa [hcall'] using hcall
      exact hstage hwaits
  | admitted timeoutSeconds now haction =>
      rw [haction] at hfire
      simp only [step, hcall] at hfire
      cases hfire

theorem late_of_delayedIn {first : State × Int}
    (hrun : Run (timedManager origin) first history s) (hdelayed : DelayedIn history x command) :
    command.deadlineAt.instant ≤ s.2 := by
  obtain ⟨u, hu, hdelayed⟩ := hdelayed
  obtain ⟨later, earlier, -, -, hfire, hlater⟩ := hrun.exists_of_mem hu
  calc command.deadlineAt.instant
      ≤ u.action.2 := hdelayed.late
    _ = u.target.2 := (clocked_step hfire).2.symm
    _ ≤ s.2 := hlater.clock_le

/-- A delayed call that gets to its send gets there late: once it is past the queue,
nothing delays it any more. -/
theorem late_of_reachesSend (hrun : Run (timedManager origin) (State.initial, origin) history s)
    (hdelayed : DelayedIn history x command) (hv : v ∈ history)
    (hreaches : ReachesSend v.source.1 x command v.action.1) :
    command.deadlineAt.instant ≤ v.action.2 := by
  obtain ⟨u, hu, hdelayed⟩ := hdelayed
  obtain ⟨later, earlier, rfl, hearlier, hfire, hlater⟩ := hrun.exists_of_mem hv
  rcases List.mem_append.mp hu with hu | hu
  · obtain ⟨-, middle, -, hmiddle, hfire', -⟩ := hlater.exists_of_mem hu
    have hpassed : Passed u.source.1 x :=
      hmiddle.untimed.invariant (fun t => Passed t x)
        (passed_of_reachesSend (clocked_step hfire).1 hreaches)
        fun _ _ _ _ hpassed hstep => step_passed hstep hpassed
    exact absurd hpassed (hdelayed.not_passed (clocked_step hfire').1)
  · rcases List.mem_cons.mp hu with rfl | hu
    · exact hdelayed.late
    · exact (late_of_delayedIn hearlier ⟨u, hu, hdelayed⟩).trans (clocked_le hfire)

/-- If the deadline of a call in the queue is over after a step, it was over before or
passes there. -/
theorem delayed_of_waiting (hinv : LockInv u.source.1) {call : AdmittedCall}
    (hcall : u.source.1.calls x = some (.admitted call)) (hstage : call.stage = .waitingForLock)
    (hlate : call.admission.command.deadlineAt.instant ≤ u.action.2) :
    call.admission.command.deadlineAt.instant ≤ u.source.2 ∨
      Delayed u x call.admission.command := by
  rcases le_or_gt call.admission.command.deadlineAt.instant u.source.2 with hbefore | hpasses
  · exact .inl hbefore
  · exact .inr (.queued call hcall hstage rfl (heldUp_of_waiting hinv hcall hstage) hpasses hlate)

theorem delayedIn_of_waiting (hrun : Run (timedManager origin) (State.initial, origin) history s)
    {call : AdmittedCall} (hcall : s.1.calls x = some (.admitted call))
    (hstage : call.stage = .waitingForLock)
    (hlate : call.admission.command.deadlineAt.instant ≤ s.2) :
    DelayedIn history x call.admission.command := by
  revert call
  refine hrun.historyInvariant (fun history s => ∀ {call : AdmittedCall},
    s.1.calls x = some (.admitted call) → call.stage = .waitingForLock →
      call.admission.command.deadlineAt.instant ≤ s.2 →
        DelayedIn history x call.admission.command) ?_ ?_
  · intro call hcall
    cases hcall
  · intro history s action t events hprev ih hfire call hcall hstage hlate
    obtain ⟨hstep, hclock⟩ := clocked_step hfire
    rw [hclock] at hlate
    rcases step_waiting hstep hcall hstage with ⟨call₀, hcall₀, hwaits, hadmission⟩ | hstarts
    · rw [← hadmission] at hlate ⊢
      have hinv := lockInv_of_reachable hprev.untimed.reachable
      rcases delayed_of_waiting (u := ⟨s, action, events, t⟩) hinv hcall₀ hwaits hlate with
        hbefore | hdelayed
      · obtain ⟨u, hu, hdelayed⟩ := ih hcall₀ hwaits hbefore
        exact ⟨u, List.mem_cons_of_mem _ hu, hdelayed⟩
      · exact ⟨_, List.mem_cons_self, hdelayed⟩
    · obtain ⟨k, now, haction, hallowed, -⟩ := hstarts.registers
      exact ⟨_, List.mem_cons_self,
        .admitted _ now haction (admission_eq_ok hallowed).2.2.2.2 hlate⟩

theorem delayedIn_of_reachesSend
    (hrun : Run (timedManager origin) (State.initial, origin) history s) (hv : v ∈ history)
    (hreaches : ReachesSend v.source.1 x command v.action.1)
    (hlate : command.deadlineAt.instant ≤ v.action.2) : DelayedIn history x command := by
  obtain ⟨later, earlier, rfl, hearlier, hfire, -⟩ := hrun.exists_of_mem hv
  have hstep : step v.source.1 v.action.1 = some (v.target.1, v.events) := (clocked_step hfire).1
  obtain ⟨source, ⟨action, moment⟩, events, target⟩ := v
  cases action with
  | execute y c timeoutSeconds now =>
      obtain ⟨rfl, rfl, k, hallowed, -⟩ := hreaches
      exact ⟨_, hv, .admitted timeoutSeconds now rfl (admission_eq_ok hallowed).2.2.2.2 hlate⟩
  | resumeLock y =>
      have hwaits {call : AdmittedCall} (hcall : source.1.calls x = some (.admitted call)) :=
        waiting_of_reachesSend hstep hreaches hcall
      obtain ⟨rfl, call, hcall, -, rfl⟩ := hreaches
      have hinv := lockInv_of_reachable hearlier.untimed.reachable
      rcases delayed_of_waiting hinv hcall (hwaits hcall) hlate with hbefore | hdelayed
      · obtain ⟨u, hu, hdelayed⟩ := delayedIn_of_waiting hearlier hcall (hwaits hcall) hbefore
        exact ⟨u, List.mem_append_right _ (List.mem_cons_of_mem _ hu), hdelayed⟩
      · exact ⟨_, hv, hdelayed⟩
  | connect | activate | disconnect | disconnectDevice | touch | resolve | closeAll | completeSend
  | copyResult | fireTimer | resumeWait | cancel => exact hreaches.elim

end Delays

/-- Commands are sent before their deadline, and those that are too late time out
unsent, exactly in the runs in which no call whose deadline passes in the queue of the
`send_lock`, or as it is admitted, goes on to its send: nothing checks the deadline again
there. What is sent is in time exactly when no such call finds its connection current. -/
theorem sent_before_deadline_iff {origin : Int} {history : List TimedStep} {s : State × Int}
    (hrun : Run (timedManager origin) (State.initial, origin) history s) :
    ((∀ u ∈ history, Prompt history u) ↔
      ∀ x command, DelayedIn history x command →
        ∀ v ∈ history, ¬ ReachesSend v.source.1 x command v.action.1) ∧
    ((∀ u ∈ history, InTime u) ↔
      ∀ x command, DelayedIn history x command →
        ∀ v ∈ history, ReachesSend v.source.1 x command v.action.1 →
          ¬ StillCurrent v.source.1 x v.action.1) := by
  have fired : ∀ u ∈ history, step u.source.1 u.action.1 = some (u.target.1, u.events) := by
    intro u hu
    obtain ⟨-, -, -, -, hfire, -⟩ := hrun.exists_of_mem hu
    exact (clocked_step hfire).1
  refine ⟨⟨?_, ?_⟩, ⟨?_, ?_⟩⟩
  · intro hprompt x command hdelayed v hv hreaches
    have hlate := late_of_reachesSend hrun hdelayed hv hreaches
    exact not_timesOut_of_reachesSend (fired v hv) hreaches
      ((hprompt v hv).overdue x command (.inr ⟨hreaches, hlate⟩)).1
  · intro hnever u hu
    refine ⟨?_, ?_⟩
    · intro x transport command sessionId hsend
      by_contra hlate
      have hreaches := reachesSend_of_sends (fired u hu) hsend
      exact hnever x command (delayedIn_of_reachesSend hrun hu hreaches (not_lt.mp hlate)) u hu
        hreaches
    · rintro x command (⟨timeoutSeconds, now, haction, htimeout, hexpired⟩ | ⟨hreaches, hlate⟩)
      · have hfire := fired u hu
        rw [haction] at hfire
        have hrefused := timesOut_of_expired hfire htimeout hexpired
        refine ⟨.inl hrefused, ?_⟩
        rintro v hv ⟨transport, sent, sessionId, hsend⟩
        obtain ⟨later, earlier, -, -, -, hlater⟩ := hrun.exists_of_mem hu
        have hlast : s.1.calls x = some (.refused command (timeout command)) :=
          hlater.untimed.invariant (fun t => t.calls x = some (.refused command (timeout command)))
            hrefused fun _ _ _ _ hx hstep => step_refused hstep hx
        exact not_sends_of_refused hrun.untimed hlast
          (List.mem_map.mpr ⟨v, hv, rfl⟩) hsend
      · exact absurd hreaches
          (hnever x command (delayedIn_of_reachesSend hrun hu hreaches hlate) u hu)
  · intro htime x command hdelayed v hv hreaches hcurrent
    obtain ⟨transport, sessionId, hsend⟩ := sends_of_reachesSend (fired v hv) hreaches hcurrent
    have hintime := htime v hv x transport command sessionId hsend
    exact absurd (late_of_reachesSend hrun hdelayed hv hreaches) (not_le.mpr hintime)
  · intro hnever u hu x transport command sessionId hsend
    by_contra hlate
    have hreaches := reachesSend_of_sends (fired u hu) hsend
    exact hnever x command (delayedIn_of_reachesSend hrun hu hreaches (not_lt.mp hlate)) u hu
      hreaches (stillCurrent_of_sends (fired u hu) hsend)

/-- Two commands with a deadline after 30 seconds; the first send takes 40 seconds, and
the second command waits for it. -/
def sampleSlowSend : List (Action × Int) :=
  (sampleOnline ++ [sampleExecute 0 ⟨3⟩, sampleExecute 1 ⟨4⟩]).map (fun a => (a, 0)) ++
    [(.completeSend 0 none ⟨40000000, 0⟩, 40000000), (.resumeLock 1, 40000001)]

/-- The call hands out a command whose deadline is over. -/
def isLateSend (moment : Int) : TransportCall → Bool
  | .sendCommand _ _ command _ => command.deadlineAt.instant ≤ moment
  | .close _ _ _ => false

def hasLateSend (history : List TimedStep) : Bool :=
  history.any fun u => u.events.any (isLateSend u.action.2)

theorem exists_of_hasLateSend {history : List TimedStep} (h : hasLateSend history = true) :
    ∃ u ∈ history, ∃ x transport command sessionId,
      .sendCommand x transport command sessionId ∈ u.events ∧
        command.deadlineAt.instant ≤ u.action.2 := by
  obtain ⟨u, hu, hevents⟩ := List.any_eq_true.mp h
  obtain ⟨event, hevent, hlate⟩ := List.any_eq_true.mp hevents
  cases event with
  | sendCommand x transport command sessionId =>
      exact ⟨u, hu, x, transport, command, sessionId, hevent, of_decide_eq_true hlate⟩
  | close => cases hlate

theorem sent_before_deadline_queued :
    ∃ history s, Run (timedManager 0) (State.initial, 0) history s ∧
      (∃ x command, DelayedIn history x command ∧
        ∃ v ∈ history, ReachesSend v.source.1 x command v.action.1) ∧
      ¬ (∀ u ∈ history, InTime u) := by
  obtain ⟨history, s, hrun, htest⟩ := exists_run_of_replay (S := timedManager 0)
    (s := (State.initial, 0)) sampleSlowSend (fun history _ => hasLateSend history)
    (by decide)
  obtain ⟨u, hu, x, transport, command, sessionId, hsend, hlate⟩ :=
    exists_of_hasLateSend htest
  have hlateSend : ¬ (∀ u ∈ history, InTime u) := by
    intro htime
    have hintime := htime u hu x transport command sessionId hsend
    omega
  have hdelayed := mt (sent_before_deadline_iff hrun).2.mpr hlateSend
  push Not at hdelayed
  obtain ⟨x, command, hdelayed, v, hv, hreaches, -⟩ := hdelayed
  exact ⟨history, s, hrun, ⟨x, command, hdelayed, v, hv, hreaches⟩, hlateSend⟩

/-- A command that was queued behind a slow send goes out after its deadline. -/
theorem sent_after_deadline :
    ¬ ∀ origin history s, Run (timedManager origin) (State.initial, origin) history s →
      ∀ u ∈ history, Prompt history u := by
  intro hclaim
  obtain ⟨history, s, hrun, htest⟩ := exists_run_of_replay (S := timedManager 0)
    (s := (State.initial, 0)) sampleSlowSend (fun history _ => hasLateSend history)
    (by decide)
  obtain ⟨u, hu, x, transport, command, sessionId, hsend, hlate⟩ :=
    exists_of_hasLateSend htest
  have hintime := (hclaim 0 history s hrun u hu).sent x transport command sessionId hsend
  omega

end JarvisCore.Manager.Deadlines
