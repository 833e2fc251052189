import JarvisCore.Foundation.FairLock
import JarvisCore.Manager.Connections

namespace JarvisCore.Manager.SendLocks

open JarvisCore.Domain.Values
open JarvisCore.Domain.Errors
open JarvisCore.Domain.Models
open JarvisCore.Foundation.AsyncIO
open JarvisCore.Foundation.AsyncIO.Lock
open JarvisCore.Foundation.Dictionary
open JarvisCore.Foundation.FairLock
open JarvisCore.Foundation.TransitionSystem
open JarvisCore.Manager.Operations
open JarvisCore.Manager.Execution
open JarvisCore.Manager.Invariant
open JarvisCore.Manager.Evolution

/-- The state of call `x` and the lock of connection `c` are all that changes. -/
structure Moves (s t : State) (x : Nat) (call : ExecuteCall) (c : Nat) (lock : Lock Nat) :
    Prop where
  calls : t.calls = Function.update s.calls x (some call)
  sendLocks : t.sendLocks = Function.update s.sendLocks c lock

/-- The call neither waits for a send lock nor holds one. -/
def LockFree (call : AdmittedCall) : Prop :=
  call.stage ≠ .waitingForLock ∧ call.stage ≠ .sending

/-- The call of `send_command` with the data of the admission. -/
def dispatchOf (x : Nat) (a : Admission) : TransportCall :=
  .sendCommand x a.transport a.command a.sessionId

/-- What a step does to the calls and to the send locks, and which command it dispatches. -/
inductive LockStep (s t : State) (events : List TransportCall) : Action → Prop
  | frame (action : Action) : actor action = none → t.calls = s.calls →
      t.sendLocks = s.sendLocks → (∀ x a, dispatchOf x a ∉ events) → LockStep s t events action
  | refused (x : Nat) (command : DeviceCommand) (timeoutSeconds : Int) (now : AwareDatetime)
      (error : Raised) : s.calls x = none →
      Moves s t x (.refused command error) 0 (s.sendLocks 0) → events = [] →
      LockStep s t events (.execute x command timeoutSeconds now)
  | takes (x : Nat) (a : Admission) (now : AwareDatetime) : s.calls x = none →
      (s.sendLocks a.connection).available = true →
      Moves s t x (.admitted ⟨a, false, .sending⟩) a.connection
        ((s.sendLocks a.connection).take x) → events = [dispatchOf x a] →
      LockStep s t events (.execute x a.command a.timeoutSeconds now)
  | queues (x : Nat) (a : Admission) (now : AwareDatetime) : s.calls x = none →
      (s.sendLocks a.connection).available = false →
      Moves s t x (.admitted ⟨a, false, .waitingForLock⟩) a.connection
        ((s.sendLocks a.connection).enqueue x) → events = [] →
      LockStep s t events (.execute x a.command a.timeoutSeconds now)
  | granted (x : Nat) (call : AdmittedCall) : s.calls x = some (.admitted call) →
      call.stage = .waitingForLock →
      (s.sendLocks call.admission.connection).waiterState x = some .woken →
      Moves s t x (.admitted { call with stage := .sending }) call.admission.connection
        ((s.sendLocks call.admission.connection).grant x) →
      events = [dispatchOf x call.admission] → LockStep s t events (.resumeLock x)
  | turnedAway (x : Nat) (call : AdmittedCall) : s.calls x = some (.admitted call) →
      call.stage = .waitingForLock →
      (s.sendLocks call.admission.connection).waiterState x = some .woken →
      Moves s t x (.admitted { call with stage := .finished (offline call.admission) })
        call.admission.connection
        ((s.sendLocks call.admission.connection).grant x).release →
      events = [] → LockStep s t events (.resumeLock x)
  | abandons (x : Nat) (call : AdmittedCall) : s.calls x = some (.admitted call) →
      call.stage = .waitingForLock →
      Moves s t x (.admitted { call with stage := .finished (.raised .cancelled) })
        call.admission.connection
        ((s.sendLocks call.admission.connection).abandon x) →
      events = [] → LockStep s t events (.resumeLock x)
  | releases (x : Nat) (failure : Option Raised) (now : AwareDatetime)
      (call call' : AdmittedCall) : s.calls x = some (.admitted call) → call.stage = .sending →
      call'.admission = call.admission → LockFree call' →
      Moves s t x (.admitted call') call.admission.connection
        (s.sendLocks call.admission.connection).release →
      events = [] → LockStep s t events (.completeSend x failure now)
  | proceeds (x : Nat) (action : Action) (call call' : AdmittedCall) : actor action = some x →
      s.calls x = some (.admitted call) → LockFree call → call'.admission = call.admission →
      LockFree call' →
      Moves s t x (.admitted call') call.admission.connection
        (s.sendLocks call.admission.connection) →
      events = [] → LockStep s t events action
  | leaves (x : Nat) (call : AdmittedCall) : s.calls x = some (.admitted call) →
      call.stage = .waitingForLock →
      Moves s t x (.admitted { call with cancelRequested := true }) call.admission.connection
        ((s.sendLocks call.admission.connection).cancelWaiter x) →
      events = [] → LockStep s t events (.cancel x)
  | marks (x : Nat) (call : AdmittedCall) : s.calls x = some (.admitted call) →
      call.stage = .sending →
      Moves s t x (.admitted { call with cancelRequested := true }) call.admission.connection
        (s.sendLocks call.admission.connection) →
      events = [] → LockStep s t events (.cancel x)

theorem Moves.of_calls {s t : State} {x c : Nat} {call : ExecuteCall}
    (hcalls : t.calls = Function.update s.calls x (some call)) (hlocks : t.sendLocks = s.sendLocks) :
    Moves s t x call c (s.sendLocks c) :=
  ⟨hcalls, by rw [hlocks, Function.update_eq_self]⟩

theorem lockFree_of_waiting {call : AdmittedCall}
    {w : ShieldedWait DeviceCommandResult Raised} (h : call.stage = .waiting w) :
    LockFree call := by
  simp [LockFree, h]

theorem lockFree_of_finished {call : AdmittedCall} {outcome : Outcome}
    (h : call.stage = .finished outcome) : LockFree call := by
  simp [LockFree, h]

theorem disconnect_sendLocks (s : State) (deviceId sessionId : UUID) :
    (disconnect s deviceId sessionId).1.sendLocks = s.sendLocks := by
  rcases disconnect_cases s deviceId sessionId with h | ⟨k, -, -, h⟩
  all_goals rw [h]
  rfl

section Execute

variable {s t : State} {events : List TransportCall}

/-- The lock at the start of `execute`: it is taken when it is available, and the command
is dispatched at once, since the connection has just been looked up. -/
theorem execute_lockStep {x : Nat} {command : DeviceCommand} {timeoutSeconds : Int}
    {now : AwareDatetime} (hfresh : s.calls x = none)
    (h : execute s x command timeoutSeconds now = (t, events)) :
    LockStep s t events (.execute x command timeoutSeconds now) := by
  unfold execute at h
  cases hallowed : checkAdmission s command timeoutSeconds now with
  | error error =>
      rw [hallowed] at h
      cases h
      exact .refused x command timeoutSeconds now error hfresh (.of_calls rfl rfl) rfl
  | ok k =>
      rw [hallowed] at h
      dsimp only at h
      have hk := (admission_eq_ok hallowed).1
      cases havailable : (s.sendLocks k.ref).available with
      | true =>
          rw [havailable] at h
          simp only [if_true] at h
          rcases send_cases (setLock (register s x (admissionOf command timeoutSeconds k)) k.ref
            ((s.sendLocks k.ref).take x)) x
            ⟨admissionOf command timeoutSeconds k, false, .waitingForLock⟩ with
            ⟨-, hsend⟩ | ⟨hlost, -⟩
          · rw [hsend] at h
            cases h
            refine .takes x (admissionOf command timeoutSeconds k) now hfresh havailable ⟨?_, rfl⟩
              rfl
            simp [setCall, setLock, register]
          · exact absurd rfl (hlost k hk)
      | false =>
          rw [havailable] at h
          cases h
          exact .queues x (admissionOf command timeoutSeconds k) now hfresh havailable ⟨rfl, rfl⟩
            rfl

theorem resumeLock_lockStep {x : Nat} {call : AdmittedCall}
    (hcall : s.calls x = some (.admitted call)) (h : resumeLock s x call = some (t, events)) :
    LockStep s t events (.resumeLock x) := by
  unfold resumeLock at h
  dsimp only at h
  split at h
  · rename_i hstage hwoken
    split at h
    · cases h
      exact .abandons x call hcall hstage ⟨rfl, rfl⟩ rfl
    · rcases send_cases (setLock s call.admission.connection
        ((s.sendLocks call.admission.connection).grant x)) x call with
        ⟨-, hsend⟩ | ⟨-, hsend⟩
      · rw [hsend] at h
        cases h
        exact .granted x call hcall hstage hwoken ⟨rfl, rfl⟩ rfl
      · rw [hsend] at h
        cases h
        refine .turnedAway x call hcall hstage hwoken ⟨rfl, ?_⟩ rfl
        simp [cleanUp, releaseSendLock, setLock]
  · rename_i hstage _
    split at h
    · cases h
      exact .abandons x call hcall hstage ⟨rfl, rfl⟩ rfl
    · cases h
  · cases h

theorem completeSend_lockStep {x : Nat} {call : AdmittedCall} {failure : Option Raised}
    {now : AwareDatetime} (hcall : s.calls x = some (.admitted call))
    (h : completeSend s x call failure now = some (t, events)) :
    LockStep s t events (.completeSend x failure now) := by
  obtain ⟨hstage, ⟨-, hr⟩ | ⟨error, -, ⟨-, hr⟩ | ⟨-, -, hr⟩⟩⟩ := completeSend_cases h
  · cases hr
    rcases beginWait_cases (releaseSendLock s call.admission) x call now with ⟨-, h⟩ | ⟨-, h⟩
    · rw [h]
      exact .releases x failure now call
        { call with stage := .finished (settle (s.futures x)) } hcall hstage rfl
        (lockFree_of_finished rfl) ⟨rfl, rfl⟩ rfl
    · rw [h]
      exact .releases x failure now call
        ⟨call.admission, false, .waiting (.start (effectiveTimeout call.admission now))⟩ hcall
        hstage rfl (lockFree_of_waiting rfl) ⟨rfl, rfl⟩ rfl
  · cases hr
    refine .releases x failure now call { call with stage := .finished (.raised error) } hcall
      hstage rfl (lockFree_of_finished rfl) ⟨?_, ?_⟩ rfl
    · simp [cleanUp, releaseSendLock, setLock, disconnect_calls]
    · simp [cleanUp, releaseSendLock, setLock, disconnect_sendLocks]
  · cases hr
    exact .releases x failure now call { call with stage := .finished (.raised error) } hcall
      hstage rfl (lockFree_of_finished rfl) ⟨rfl, rfl⟩ rfl

theorem cancel_lockStep {x : Nat} {call : AdmittedCall}
    (hcall : s.calls x = some (.admitted call)) (h : cancel s x call = some (t, events)) :
    LockStep s t events (.cancel x) := by
  unfold cancel at h
  dsimp only at h
  split at h
  · rename_i hstage
    cases h
    exact .leaves x call hcall hstage ⟨rfl, rfl⟩ rfl
  · rename_i hstage
    cases h
    exact .marks x call hcall hstage (.of_calls rfl rfl) rfl
  · rename_i w hstage
    cases h
    exact .proceeds x (.cancel x) call ⟨call.admission, true, .waiting w.cancel⟩ rfl hcall
      (lockFree_of_waiting hstage) rfl (lockFree_of_waiting rfl) (.of_calls rfl rfl) rfl
  · cases h

end Execute

theorem dispatchOf_not_mem_closeCalls {x code : Nat} {a : Admission} {reason : String}
    {removed : List LiveConnection} : dispatchOf x a ∉ closeCalls code reason removed := by
  simp [dispatchOf, closeCalls]

theorem step_lockStep {s t : State} {action : Action} {events : List TransportCall}
    (h : step s action = some (t, events)) : LockStep s t events action := by
  cases action with
  | connect deviceId transport sessionId now =>
      cases h
      exact .frame _ rfl rfl rfl fun _ _ => dispatchOf_not_mem_closeCalls
  | activate deviceId sessionId advertised effective now =>
      simp only [step] at h
      split at h
      · rename_i t' hactivate
        cases h
        obtain ⟨k, k', -, -, -, -, -, -, -, -, rfl⟩ := activate_eq_ok hactivate
        exact .frame _ rfl rfl rfl fun _ _ => List.not_mem_nil
      · cases h
        exact .frame _ rfl rfl rfl fun _ _ => List.not_mem_nil
  | disconnect deviceId sessionId =>
      cases h
      exact .frame _ rfl (disconnect_calls s _ _) (disconnect_sendLocks s _ _)
        fun _ _ => List.not_mem_nil
  | disconnectDevice deviceId code reason =>
      cases h
      exact .frame _ rfl rfl rfl fun _ _ => dispatchOf_not_mem_closeCalls
  | touch deviceId sessionId now =>
      cases h
      refine .frame _ rfl ?_ ?_ fun _ _ => List.not_mem_nil
      all_goals
        rcases touch_cases s deviceId sessionId now with h | ⟨k, -, -, h⟩
        all_goals rw [h]
  | resolve deviceId sessionId result =>
      cases h
      refine .frame _ rfl ?_ ?_ fun _ _ => List.not_mem_nil
      all_goals
        rcases resolve_cases s deviceId sessionId result with
          ⟨h, -⟩ | ⟨p, -, ⟨-, h⟩ | ⟨-, h⟩⟩
        all_goals rw [h]
  | closeAll =>
      cases h
      exact .frame _ rfl rfl rfl fun _ _ => dispatchOf_not_mem_closeCalls
  | execute x command timeoutSeconds now =>
      simp only [step] at h
      split at h
      · rename_i hfresh
        exact execute_lockStep hfresh (Option.some.inj h)
      · cases h
  | resumeLock x =>
      obtain ⟨call, hcall, h⟩ := onCall_eq_some h
      exact resumeLock_lockStep hcall h
  | completeSend x failure now =>
      obtain ⟨call, hcall, h⟩ := onCall_eq_some h
      exact completeSend_lockStep hcall h
  | copyResult x =>
      obtain ⟨call, hcall, h⟩ := onCall_eq_some h
      obtain ⟨w, hstage, -, -, hr⟩ := copyResult_cases h
      cases hr
      exact .proceeds x _ call { call with stage := .waiting (w.copyFrom (s.futures x)) } rfl
        hcall (lockFree_of_waiting hstage) rfl (lockFree_of_waiting rfl) (.of_calls rfl rfl) rfl
  | fireTimer x =>
      obtain ⟨call, hcall, h⟩ := onCall_eq_some h
      obtain ⟨w, hstage, -, hr⟩ := fireTimer_cases h
      cases hr
      exact .proceeds x _ call { call with stage := .waiting w.fireTimer } rfl
        hcall (lockFree_of_waiting hstage) rfl (lockFree_of_waiting rfl) (.of_calls rfl rfl) rfl
  | resumeWait x =>
      obtain ⟨call, hcall, h⟩ := onCall_eq_some h
      obtain ⟨w, hstage, -, hr⟩ := resumeWait_cases h
      cases hr
      exact .proceeds x _ call { call with stage := .finished (waitOutcome call w) } rfl hcall
        (lockFree_of_waiting hstage) rfl (lockFree_of_finished rfl) (.of_calls rfl rfl) rfl
  | cancel x =>
      obtain ⟨call, hcall, h⟩ := onCall_eq_some h
      exact cancel_lockStep hcall h

/-- The call waits for the lock of connection `c`. -/
def Waits (call : Option ExecuteCall) (c : Nat) : Prop :=
  ∃ a, call = some (.admitted a) ∧ a.stage = .waitingForLock ∧ a.admission.connection = c

/-- The call holds the lock of connection `c` and is inside `send_command`. -/
def Holds (call : Option ExecuteCall) (c : Nat) : Prop :=
  ∃ a, call = some (.admitted a) ∧ a.stage = .sending ∧ a.admission.connection = c

def Flagged (call : Option ExecuteCall) : Prop :=
  ∃ a, call = some (.admitted a) ∧ a.cancelRequested = true

/-- The send locks agree with the calls that wait for them and that hold them. -/
structure LockInv (s : State) : Prop where
  orderly : ∀ c, Orderly (s.sendLocks c)
  queued : ∀ c x, x ∈ (s.sendLocks c).queue ↔ Waits (s.calls x) c
  held : ∀ c x, (s.sendLocks c).owner = some x ↔ Holds (s.calls x) c
  cancelled : ∀ c x, (x, .cancelled) ∈ (s.sendLocks c).waiters → Flagged (s.calls x)

theorem lockInv_initial : LockInv State.initial where
  orderly _ := .free
  queued c x := by simp [State.initial, Waits, queue, free]
  held c x := by simp [State.initial, Holds, free]
  cancelled c x h := by simp [State.initial, free] at h

/-- What a step of call `x`, whose lock is that of connection `c`, owes to the lock. -/
structure Updates (l : Lock Nat) (x : Nat) (call : ExecuteCall) (c : Nat) (lock : Lock Nat) :
    Prop where
  orderly : Orderly lock
  waiting : x ∈ lock.queue ↔ Waits (some call) c
  holding : lock.owner = some x ↔ Holds (some call) c
  cancelled : (x, .cancelled) ∈ lock.waiters → Flagged (some call)
  queue : ∀ y, y ≠ x → (y ∈ lock.queue ↔ y ∈ l.queue)
  owner : ∀ y, y ≠ x → (lock.owner = some y ↔ l.owner = some y)
  others : ∀ y, y ≠ x → (y, .cancelled) ∈ lock.waiters → (y, .cancelled) ∈ l.waiters

/-- The call has to do with no lock but that of connection `c`. -/
def OnlyOf (call : Option ExecuteCall) (c : Nat) : Prop :=
  ∀ c', c' ≠ c → ¬ Waits call c' ∧ ¬ Holds call c'

theorem onlyOf_none (c : Nat) : OnlyOf none c := by
  intro c' _
  simp [Waits, Holds]

theorem onlyOf_refused (command : DeviceCommand) (error : Raised) (c : Nat) :
    OnlyOf (some (.refused command error)) c := by
  intro c' _
  simp [Waits, Holds]

theorem onlyOf_admitted {call : AdmittedCall} {c : Nat} (h : call.admission.connection = c) :
    OnlyOf (some (.admitted call)) c := by
  intro c' hne
  constructor
  all_goals
    rintro ⟨a, ha, -, hc⟩
    cases ha
    exact hne (hc.symm.trans h)

theorem LockInv.moves {s t : State} {x c : Nat} {call : ExecuteCall} {lock : Lock Nat}
    (hinv : LockInv s) (hmoves : Moves s t x call c lock) (hbefore : OnlyOf (s.calls x) c)
    (hafter : OnlyOf (some call) c) (hupdates : Updates (s.sendLocks c) x call c lock) :
    LockInv t := by
  have hlock : t.sendLocks c = lock := by rw [hmoves.sendLocks, Function.update_self]
  have hother : ∀ c', c' ≠ c → t.sendLocks c' = s.sendLocks c' := by
    intro c' hc
    rw [hmoves.sendLocks, Function.update_of_ne hc]
  have hself : t.calls x = some call := by rw [hmoves.calls, Function.update_self]
  have hcalls : ∀ y, y ≠ x → t.calls y = s.calls y := by
    intro y hy
    rw [hmoves.calls, Function.update_of_ne hy]
  refine ⟨?_, ?_, ?_, ?_⟩
  · intro c'
    by_cases hc : c' = c
    · rw [hc, hlock]
      exact hupdates.orderly
    · rw [hother c' hc]
      exact hinv.orderly c'
  · intro c' y
    by_cases hy : y = x
    · subst hy
      rw [hself]
      by_cases hc : c' = c
      · rw [hc, hlock]
        exact hupdates.waiting
      · rw [hother c' hc, hinv.queued]
        exact iff_of_false (hbefore c' hc).1 (hafter c' hc).1
    · rw [hcalls y hy, ← hinv.queued]
      by_cases hc : c' = c
      · rw [hc, hlock]
        exact hupdates.queue y hy
      · rw [hother c' hc]
  · intro c' y
    by_cases hy : y = x
    · subst hy
      rw [hself]
      by_cases hc : c' = c
      · rw [hc, hlock]
        exact hupdates.holding
      · rw [hother c' hc, hinv.held]
        exact iff_of_false (hbefore c' hc).2 (hafter c' hc).2
    · rw [hcalls y hy, ← hinv.held]
      by_cases hc : c' = c
      · rw [hc, hlock]
        exact hupdates.owner y hy
      · rw [hother c' hc]
  · intro c' y hmem
    by_cases hc : c' = c
    · rw [hc, hlock] at hmem
      by_cases hy : y = x
      · subst hy
        rw [hself]
        exact hupdates.cancelled hmem
      · rw [hcalls y hy]
        exact hinv.cancelled c y (hupdates.others y hy hmem)
    · rw [hother c' hc] at hmem
      by_cases hy : y = x
      · subst hy
        -- A call that the step moves waits for no other lock.
        have hqueue : y ∈ (s.sendLocks c').queue := List.mem_map.mpr ⟨_, hmem, rfl⟩
        exact absurd ((hinv.queued c' y).mp hqueue) (hbefore c' hc).1
      · rw [hcalls y hy]
        exact hinv.cancelled c' y hmem

section Steps

variable {s : State} {x : Nat} {call : AdmittedCall} (hinv : LockInv s)
  (hcall : s.calls x = some (.admitted call))
include hinv hcall

theorem LockInv.mem_queue (hstage : call.stage = .waitingForLock) :
    x ∈ (s.sendLocks call.admission.connection).queue :=
  (hinv.queued _ x).mpr ⟨call, hcall, hstage, rfl⟩

theorem LockInv.not_mem_queue (hstage : call.stage ≠ .waitingForLock) (c : Nat) :
    x ∉ (s.sendLocks c).queue := by
  intro hmem
  obtain ⟨a, ha, hwaits, -⟩ := (hinv.queued c x).mp hmem
  obtain rfl : a = call := by simpa [ha] using hcall
  exact hstage hwaits

theorem LockInv.owner_eq (hstage : call.stage = .sending) :
    (s.sendLocks call.admission.connection).owner = some x :=
  (hinv.held _ x).mpr ⟨call, hcall, hstage, rfl⟩

theorem LockInv.owner_ne (hstage : call.stage ≠ .sending) (c : Nat) :
    (s.sendLocks c).owner ≠ some x := by
  intro howner
  obtain ⟨a, ha, hholds, -⟩ := (hinv.held c x).mp howner
  obtain rfl : a = call := by simpa [ha] using hcall
  exact hstage hholds

end Steps

theorem LockInv.fresh {s : State} {x : Nat} (hinv : LockInv s) (hfresh : s.calls x = none)
    (c : Nat) : x ∉ (s.sendLocks c).queue ∧ (s.sendLocks c).owner ≠ some x := by
  constructor
  · intro hmem
    obtain ⟨a, ha, -⟩ := (hinv.queued c x).mp hmem
    simp [hfresh] at ha
  · intro howner
    obtain ⟨a, ha, -⟩ := (hinv.held c x).mp howner
    simp [hfresh] at ha

theorem waits_admitted_iff {call : AdmittedCall} {c : Nat} (hc : call.admission.connection = c) :
    Waits (some (.admitted call)) c ↔ call.stage = .waitingForLock := by
  simp [Waits, hc]

theorem holds_admitted_iff {call : AdmittedCall} {c : Nat} (hc : call.admission.connection = c) :
    Holds (some (.admitted call)) c ↔ call.stage = .sending := by
  simp [Holds, hc]

theorem not_mem_cancelled {l : Lock Nat} {x : Nat} (h : x ∉ l.queue) :
    (x, WaiterState.cancelled) ∉ l.waiters :=
  fun hmem => h (List.mem_map.mpr ⟨_, hmem, rfl⟩)

theorem LockInv.step {s t : State} {action : Action} {events : List TransportCall}
    (hinv : LockInv s) (h : step s action = some (t, events)) : LockInv t := by
  cases step_lockStep h with
  | frame _ _ hcalls hlocks _ =>
      refine ⟨?_, ?_, ?_, ?_⟩
      all_goals
        rw [hlocks]
        try rw [hcalls]
      · exact hinv.orderly
      · exact hinv.queued
      · exact hinv.held
      · exact hinv.cancelled
  | refused x command timeoutSeconds now error hfresh hmoves =>
      obtain ⟨hqueue, howner⟩ := hinv.fresh hfresh 0
      refine hinv.moves hmoves (hfresh ▸ onlyOf_none 0) (onlyOf_refused command error 0)
        ⟨hinv.orderly 0, ?_, ?_, ?_, fun _ _ => Iff.rfl, fun _ _ => Iff.rfl, fun _ _ => id⟩
      · simpa [Waits] using hqueue
      · simpa [Holds] using howner
      · exact fun hmem => absurd hmem (not_mem_cancelled hqueue)
  | takes x a now hfresh havailable hmoves =>
      obtain ⟨hqueue, howner⟩ := hinv.fresh hfresh a.connection
      have hfree := owner_of_available havailable
      refine hinv.moves hmoves (hfresh ▸ onlyOf_none _) (onlyOf_admitted rfl)
        ⟨(hinv.orderly _).take havailable x, ?_, ?_, ?_, fun _ _ => Iff.rfl, ?_, fun _ _ => id⟩
      · rw [waits_admitted_iff rfl]
        simpa using hqueue
      · rw [holds_admitted_iff rfl]
        simp
      · exact fun hmem => absurd hmem (not_mem_cancelled hqueue)
      · intro y hy
        simp [hfree, hy.symm]
  | queues x a now hfresh havailable hmoves =>
      obtain ⟨hqueue, howner⟩ := hinv.fresh hfresh a.connection
      refine hinv.moves hmoves (hfresh ▸ onlyOf_none _) (onlyOf_admitted rfl)
        ⟨(hinv.orderly _).enqueue havailable hqueue, ?_, ?_, ?_, ?_, fun _ _ => Iff.rfl, ?_⟩
      · rw [waits_admitted_iff rfl]
        simp
      · rw [holds_admitted_iff rfl]
        simpa using howner
      · exact fun hmem => absurd (cancelled_of_enqueue hmem) (not_mem_cancelled hqueue)
      · intro y hy
        simp [hy]
      · exact fun y _ => cancelled_of_enqueue
  | granted x call hcall hstage hwoken hmoves =>
      have horderly := hinv.orderly call.admission.connection
      have hfree := horderly.wellFormed.owner_of_woken hwoken
      refine hinv.moves hmoves (hcall ▸ onlyOf_admitted rfl) (onlyOf_admitted rfl)
        ⟨horderly.grant hwoken, ?_, ?_, ?_, ?_, ?_, ?_⟩
      · rw [waits_admitted_iff rfl]
        simp
      · rw [holds_admitted_iff rfl]
        simp
      · intro hmem
        exact absurd hmem (not_mem_cancelled (by simp))
      · intro y hy
        simp [hy]
      · intro y hy
        simp [hfree, hy.symm]
      · exact fun y _ => cancelled_of_leaveQueue
  | turnedAway x call hcall hstage hwoken hmoves =>
      have horderly := hinv.orderly call.admission.connection
      have hfree := horderly.wellFormed.owner_of_woken hwoken
      refine hinv.moves hmoves (hcall ▸ onlyOf_admitted rfl) (onlyOf_admitted rfl)
        ⟨(horderly.grant hwoken).release, ?_, ?_, ?_, ?_, ?_, ?_⟩
      · rw [waits_admitted_iff rfl]
        simp
      · rw [holds_admitted_iff rfl]
        simp
      · intro hmem
        exact absurd hmem (not_mem_cancelled (by simp))
      · intro y hy
        simp [hy]
      · intro y hy
        simp [hfree]
      · exact fun y _ hmem => cancelled_of_leaveQueue (cancelled_of_release hmem)
  | abandons x call hcall hstage hmoves =>
      have howner := hinv.owner_ne hcall (by simp [hstage]) call.admission.connection
      refine hinv.moves hmoves (hcall ▸ onlyOf_admitted rfl) (onlyOf_admitted rfl)
        ⟨(hinv.orderly _).abandon x, ?_, ?_, ?_, ?_, ?_, ?_⟩
      · rw [waits_admitted_iff rfl]
        simp
      · rw [holds_admitted_iff rfl]
        simpa using howner
      · intro hmem
        exact absurd hmem (not_mem_cancelled (by simp))
      · intro y hy
        simp [hy]
      · intro y hy
        simp
      · exact fun y _ => cancelled_of_abandon
  | releases x failure now call call' hcall hstage hadmission hfreed hmoves =>
      have hqueue := hinv.not_mem_queue hcall (by simp [hstage]) call.admission.connection
      have howner := hinv.owner_eq hcall hstage
      have hc : call'.admission.connection = call.admission.connection := by rw [hadmission]
      refine hinv.moves hmoves (hcall ▸ onlyOf_admitted rfl) (onlyOf_admitted hc)
        ⟨(hinv.orderly _).release, ?_, ?_, ?_, ?_, ?_, ?_⟩
      · rw [waits_admitted_iff hc]
        simpa [hfreed.1] using hqueue
      · rw [holds_admitted_iff hc]
        simpa using hfreed.2
      · exact fun hmem => absurd (cancelled_of_release hmem) (not_mem_cancelled hqueue)
      · intro y _
        simp
      · intro y hy
        simp [howner, hy.symm]
      · exact fun y _ => cancelled_of_release
  | proceeds x _ call call' _ hcall hfree hadmission hfreed hmoves =>
      have hqueue := hinv.not_mem_queue hcall hfree.1 call.admission.connection
      have howner := hinv.owner_ne hcall hfree.2 call.admission.connection
      have hc : call'.admission.connection = call.admission.connection := by rw [hadmission]
      refine hinv.moves hmoves (hcall ▸ onlyOf_admitted rfl) (onlyOf_admitted hc)
        ⟨hinv.orderly _, ?_, ?_, ?_, fun _ _ => Iff.rfl, fun _ _ => Iff.rfl, fun _ _ => id⟩
      · rw [waits_admitted_iff hc]
        exact iff_of_false hqueue hfreed.1
      · rw [holds_admitted_iff hc]
        exact iff_of_false howner hfreed.2
      · exact fun hmem => absurd hmem (not_mem_cancelled hqueue)
  | leaves x call hcall hstage hmoves =>
      have hqueue := hinv.mem_queue hcall hstage
      have howner := hinv.owner_ne hcall (by simp [hstage]) call.admission.connection
      refine hinv.moves hmoves (hcall ▸ onlyOf_admitted rfl) (onlyOf_admitted rfl)
        ⟨(hinv.orderly _).cancelWaiter x, ?_, ?_, ?_, ?_, ?_, ?_⟩
      · rw [waits_admitted_iff rfl]
        simpa [hstage] using hqueue
      · rw [holds_admitted_iff rfl]
        simpa [hstage] using howner
      · exact fun _ => ⟨_, rfl, rfl⟩
      · intro y _
        simp
      · intro y _
        simp
      · exact fun y hy => cancelled_of_cancelWaiter hy
  | marks x call hcall hstage hmoves =>
      have hqueue := hinv.not_mem_queue hcall (by simp [hstage]) call.admission.connection
      have howner := hinv.owner_eq hcall hstage
      refine hinv.moves hmoves (hcall ▸ onlyOf_admitted rfl) (onlyOf_admitted rfl)
        ⟨hinv.orderly _, ?_, ?_, ?_, fun _ _ => Iff.rfl, fun _ _ => Iff.rfl, fun _ _ => id⟩
      · rw [waits_admitted_iff rfl]
        exact iff_of_false hqueue (by simp [hstage])
      · rw [holds_admitted_iff rfl]
        exact iff_of_true howner hstage
      · exact fun hmem => absurd hmem (not_mem_cancelled hqueue)

theorem lockInv_of_reachable {s : State} (hs : Reachable manager s) : LockInv s :=
  hs.invariant LockInv lockInv_initial fun _ _ _ _ hinv h => hinv.step h

section Sending

variable {s t : State} {action : Action} {events : List TransportCall}

/-- The call has got as far as `send_command`, and has not failed since. -/
def PastSend : Stage → Prop
  | .sending | .waiting _ | .finished (.returned _) => True
  | _ => False

theorem step_pastSend (h : step s action = some (t, events)) {x : Nat} {call : AdmittedCall}
    (hcall : t.calls x = some (.admitted call)) (hpast : PastSend call.stage) :
    (∃ call₀, s.calls x = some (.admitted call₀) ∧ call₀.admission = call.admission ∧
      PastSend call₀.stage) ∨ dispatchOf x call.admission ∈ events := by
  have self {s' t' : State} {call' : AdmittedCall} {c : Nat} {lock : Lock Nat}
      (hmoves : Moves s' t' x (.admitted call') c lock)
      (hcall' : t'.calls x = some (.admitted call)) : call' = call := by
    rw [hmoves.calls, Function.update_self] at hcall'
    cases hcall'
    rfl
  rcases step_admitted h hcall with ⟨call₀, hcall₀, ⟨-, rfl⟩ | ⟨-, hcontinuation⟩⟩ | hstarts
  · exact .inl ⟨call, hcall₀, rfl, hpast⟩
  · cases hcontinuation with
    | interrupted | dropped | failed => exact hpast.elim
    | answered now hstage | waits now hstage =>
        exact .inl ⟨call₀, hcall₀, rfl, by rw [hstage]; trivial⟩
    | copies w hstage | expires w hstage | resumes w hstage =>
        exact .inl ⟨call₀, hcall₀, rfl, by rw [hstage]; trivial⟩
    | cancelled stage hstages =>
        refine .inl ⟨call₀, hcall₀, rfl, ?_⟩
        rcases hstages with ⟨-, rfl⟩ | ⟨hstage, -⟩ | ⟨w, hstage, -⟩
        · exact hpast.elim
        · rw [hstage]
          trivial
        · rw [hstage]
          trivial
    | sends hstage hcurrent =>
        right
        cases step_lockStep h with
        | frame _ hactor => cases hactor
        | granted y call₁ hcall₁ _ _ _ hevents =>
            obtain rfl : call₁ = call₀ := by simpa [hcall₁] using hcall₀
            rw [hevents]
            exact List.mem_singleton_self _
        | turnedAway y call₁ _ _ _ hmoves | abandons y call₁ _ _ hmoves =>
            cases congrArg AdmittedCall.stage (self hmoves hcall)
        | proceeds y _ call₁ _ hactor hcall₁ hfree =>
            cases hactor
            obtain rfl : call₁ = call₀ := by simpa [hcall₁] using hcall₀
            exact absurd hstage hfree.1
  · obtain ⟨k, now, haction, -, hadmission⟩ := hstarts.registers
    have haction : action = .execute x call.admission.command call.admission.timeoutSeconds now :=
      haction
    right
    rcases hstarts.stage with hstage | hstage
    · rw [hstage] at hpast
      exact hpast.elim
    · cases step_lockStep h with
      | frame _ hactor =>
          rw [haction] at hactor
          cases hactor
      | refused y command timeoutSeconds now' error _ hmoves =>
          cases haction
          rw [hmoves.calls, Function.update_self] at hcall
          cases hcall
      | takes y a now' _ _ hmoves hevents =>
          injection haction with hy
          subst hy
          obtain rfl := self hmoves hcall
          rw [hevents]
          exact List.mem_singleton_self _
      | queues y a now' _ _ hmoves =>
          injection haction with hy
          subst hy
          obtain rfl := self hmoves hcall
          cases hstage
      | proceeds y _ call₁ _ hactor hcall₁ =>
          rw [haction] at hactor
          cases hactor
          cases hcall₁.symm.trans hstarts.fresh
      | granted | turnedAway | abandons | releases | leaves | marks => cases haction

theorem dispatched_of_pastSend {history : List Step} (hrun : Run manager State.initial history s)
    {x : Nat} {call : AdmittedCall} (hcall : s.calls x = some (.admitted call))
    (hpast : PastSend call.stage) : ∃ u ∈ history, dispatchOf x call.admission ∈ u.events := by
  revert x call
  refine hrun.historyInvariant (fun history s => ∀ {x : Nat} {call : AdmittedCall},
    s.calls x = some (.admitted call) → PastSend call.stage →
      ∃ u ∈ history, dispatchOf x call.admission ∈ u.events) ?_ ?_
  · intro x call hcall
    cases hcall
  · intro history s action t events _ ih h x call hcall hpast
    rcases step_pastSend h hcall hpast with ⟨call₀, hcall₀, hadmission, hpast₀⟩ | hsend
    · obtain ⟨u, hu, hsend⟩ := ih hcall₀ hpast₀
      exact ⟨u, List.mem_cons_of_mem _ hu, hadmission ▸ hsend⟩
    · exact ⟨_, List.mem_cons_self, hsend⟩

end Sending

end JarvisCore.Manager.SendLocks
