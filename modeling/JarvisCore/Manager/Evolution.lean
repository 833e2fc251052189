import JarvisCore.Manager.Invariant

namespace JarvisCore.Manager.Evolution

open JarvisCore.Domain.Values
open JarvisCore.Domain.Errors
open JarvisCore.Domain.Models
open JarvisCore.Foundation.AsyncIO
open JarvisCore.Foundation.Dictionary
open JarvisCore.Foundation.TransitionSystem
open JarvisCore.Manager.Operations
open JarvisCore.Manager.Execution
open JarvisCore.Manager.Invariant

abbrev Step := Transition State Action TransportCall

/-- The `execute` call whose task takes the step, if it is one of these. -/
def actor : Action → Option Nat
  | .execute x _ _ _ | .resumeLock x | .completeSend x _ _ | .copyResult x | .fireTimer x
  | .resumeWait x | .cancel x => some x
  | _ => none

/-- The step is a `resolve` that returns `True` for the registration of call `x`. -/
def Accepts (t : Step) (x : Nat) (result : DeviceCommandResult) : Prop :=
  ∃ deviceId sessionId p, t.action = .resolve deviceId sessionId result ∧
    t.source.pending.lookup result.commandId = some p ∧ p.future = x ∧
    (resolve t.source deviceId sessionId result).2 = true

/-- A future stays as it is, or an open one fails. -/
def KeptOrFailed (before after : ResultFuture) : Prop :=
  after = before ∨ (before = .pending ∧ ∃ error, after = .exception error)

theorem KeptOrFailed.trans {a b c : ResultFuture} (hab : KeptOrFailed a b)
    (hbc : KeptOrFailed b c) : KeptOrFailed a c := by
  rcases hab with rfl | ⟨ha, error, rfl⟩
  · exact hbc
  · rcases hbc with rfl | ⟨hb, -⟩
    · exact .inr ⟨ha, error, rfl⟩
    · cases hb

theorem KeptOrFailed.eq_of_done {before after : ResultFuture} (h : KeptOrFailed before after)
    (hdone : before.done = true) : after = before := by
  rcases h with heq | ⟨rfl, -⟩
  · exact heq
  · cases hdone

theorem failPending_keptOrFailed (items : List PendingCommand) (error : Raised)
    (futures : Nat → ResultFuture) (x : Nat) :
    KeptOrFailed (futures x) (failPending items error futures x) := by
  rw [failPending_apply]
  split
  · cases hx : futures x with
    | pending => exact .inr ⟨rfl, error, rfl⟩
    | result | exception | cancelled => exact .inl rfl
  · exact .inl rfl

theorem dropPending_keptOrFailed (deviceId : UUID) (s : State) (x : Nat) :
    KeptOrFailed (s.futures x) ((dropPending deviceId s).futures x) :=
  failPending_keptOrFailed _ _ _ x

theorem failPendingOf_keptOrFailed (connections : List (UUID × LiveConnection))
    (pending : List PendingCommand) (futures : Nat → ResultFuture) (x : Nat) :
    KeptOrFailed (futures x) (failPendingOf connections pending futures x) := by
  induction connections generalizing futures with
  | nil => exact .inl rfl
  | cons c connections ih => exact (failPending_keptOrFailed _ _ futures x).trans (ih _)

theorem disconnect_keptOrFailed (s : State) (deviceId sessionId : UUID) (x : Nat) :
    KeptOrFailed (s.futures x) ((disconnect s deviceId sessionId).1.futures x) := by
  rcases disconnect_cases s deviceId sessionId with h | ⟨k, -, -, h⟩
  · rw [h]
    exact .inl rfl
  · rw [h]
    exact dropPending_keptOrFailed deviceId _ x

section OtherCalls

variable {s : State} {x y : Nat} (hne : y ≠ x)
include hne

theorem setCall_calls_of_ne (call : ExecuteCall) : (setCall s x call).calls y = s.calls y :=
  Function.update_of_ne hne _ _

theorem cleanUp_calls_of_ne (call : AdmittedCall) (outcome : Outcome) :
    (cleanUp s x call outcome).calls y = s.calls y :=
  Function.update_of_ne hne _ _

theorem cleanUp_futures_of_ne (call : AdmittedCall) (outcome : Outcome) :
    (cleanUp s x call outcome).futures y = s.futures y :=
  Function.update_of_ne hne _ _

theorem register_calls_of_ne (a : Admission) : (register s x a).calls y = s.calls y :=
  Function.update_of_ne hne _ _

theorem register_futures_of_ne (a : Admission) : (register s x a).futures y = s.futures y :=
  Function.update_of_ne hne _ _

theorem send_of_ne (call : AdmittedCall) :
    (send s x call).1.calls y = s.calls y ∧ (send s x call).1.futures y = s.futures y := by
  rcases send_cases s x call with ⟨-, h⟩ | ⟨-, h⟩
  · rw [h]
    exact ⟨setCall_calls_of_ne hne _, rfl⟩
  · rw [h]
    exact ⟨cleanUp_calls_of_ne hne _ _, cleanUp_futures_of_ne hne _ _⟩

theorem execute_of_ne (command : DeviceCommand) (timeoutSeconds : Int) (now : AwareDatetime) :
    (execute s x command timeoutSeconds now).1.calls y = s.calls y ∧
      (execute s x command timeoutSeconds now).1.futures y = s.futures y := by
  rcases execute_cases s x command timeoutSeconds now with ⟨error, -, h⟩ | ⟨k, lock, -, h | h⟩
  · rw [h]
    exact ⟨setCall_calls_of_ne hne _, rfl⟩
  · rw [h]
    obtain ⟨hcalls, hfutures⟩ := send_of_ne hne
      (s := setLock (register s x (admissionOf command timeoutSeconds k)) k.ref lock) _
    exact ⟨hcalls.trans (register_calls_of_ne hne (admissionOf command timeoutSeconds k)),
      hfutures.trans (register_futures_of_ne hne (admissionOf command timeoutSeconds k))⟩
  · rw [h]
    exact ⟨register_calls_of_ne hne (admissionOf command timeoutSeconds k),
      register_futures_of_ne hne (admissionOf command timeoutSeconds k)⟩

/-- A continuation of one call leaves the other calls alone; it can fail their
futures, when it disconnects their session. -/
theorem continue_of_ne {call : AdmittedCall} {r : Result} :
    (resumeLock s x call = some r → r.1.calls y = s.calls y ∧ r.1.futures y = s.futures y) ∧
      (∀ failure now, completeSend s x call failure now = some r →
        r.1.calls y = s.calls y ∧ KeptOrFailed (s.futures y) (r.1.futures y)) ∧
      (copyResult s x call = some r → r.1.calls y = s.calls y ∧ r.1.futures y = s.futures y) ∧
      (fireTimer s x call = some r → r.1.calls y = s.calls y ∧ r.1.futures y = s.futures y) ∧
      (resumeWait s x call = some r → r.1.calls y = s.calls y ∧ r.1.futures y = s.futures y) ∧
      (cancel s x call = some r → r.1.calls y = s.calls y ∧ r.1.futures y = s.futures y) := by
  refine ⟨?_, ?_, ?_, ?_, ?_, ?_⟩
  · intro h
    obtain ⟨-, lock, ⟨-, rfl⟩ | ⟨-, rfl⟩⟩ := resumeLock_cases h
    · exact ⟨cleanUp_calls_of_ne hne _ _, cleanUp_futures_of_ne hne _ _⟩
    · exact send_of_ne hne _
  · intro failure now h
    obtain ⟨-, ⟨-, rfl⟩ | ⟨error, -, ⟨-, rfl⟩ | ⟨-, -, rfl⟩⟩⟩ := completeSend_cases h
    · rcases beginWait_cases (releaseSendLock s call.admission) x call now with ⟨-, h⟩ | ⟨-, h⟩
      · rw [h]
        exact ⟨cleanUp_calls_of_ne hne _ _, .inl (cleanUp_futures_of_ne hne _ _)⟩
      · rw [h]
        exact ⟨setCall_calls_of_ne hne _, .inl rfl⟩
    · refine ⟨(cleanUp_calls_of_ne hne _ _).trans ?_, ?_⟩
      · exact congrFun (disconnect_calls s _ _) y
      · rw [cleanUp_futures_of_ne hne]
        exact disconnect_keptOrFailed s _ _ y
    · exact ⟨cleanUp_calls_of_ne hne _ _, .inl (cleanUp_futures_of_ne hne _ _)⟩
  · intro h
    obtain ⟨w, -, -, -, rfl⟩ := copyResult_cases h
    exact ⟨setCall_calls_of_ne hne _, rfl⟩
  · intro h
    obtain ⟨w, -, -, rfl⟩ := fireTimer_cases h
    exact ⟨setCall_calls_of_ne hne _, rfl⟩
  · intro h
    obtain ⟨w, -, -, rfl⟩ := resumeWait_cases h
    exact ⟨cleanUp_calls_of_ne hne _ _, cleanUp_futures_of_ne hne _ _⟩
  · intro h
    obtain ⟨lock, stage, -, rfl⟩ := cancel_cases h
    exact ⟨setCall_calls_of_ne hne _, rfl⟩

end OtherCalls

/-- The frame of a step: a call that does not take it keeps its state, and its
future stays, fails, or gets the result that the step accepted. -/
theorem step_frame {s t : State} {action : Action} {events : List TransportCall}
    (h : step s action = some (t, events)) {y : Nat} (hy : actor action ≠ some y) :
    t.calls y = s.calls y ∧
      (KeptOrFailed (s.futures y) (t.futures y) ∨
        (s.futures y = .pending ∧ ∃ result, Accepts ⟨s, action, events, t⟩ y result ∧
          t.futures y = .result result)) := by
  cases action with
  | connect deviceId transport sessionId now =>
      cases h
      exact ⟨rfl, .inl (dropPending_keptOrFailed deviceId _ y)⟩
  | activate deviceId sessionId advertised effective now =>
      simp only [step] at h
      split at h
      · rename_i t' hactivate
        cases h
        obtain ⟨k, k', -, -, -, -, -, -, -, -, rfl⟩ := activate_eq_ok hactivate
        exact ⟨rfl, .inl (.inl rfl)⟩
      · cases h
        exact ⟨rfl, .inl (.inl rfl)⟩
  | disconnect deviceId sessionId =>
      cases h
      exact ⟨congrFun (disconnect_calls s _ _) y, .inl (disconnect_keptOrFailed s _ _ y)⟩
  | disconnectDevice deviceId code reason =>
      cases h
      exact ⟨rfl, .inl (dropPending_keptOrFailed deviceId _ y)⟩
  | touch deviceId sessionId now =>
      cases h
      rcases touch_cases s deviceId sessionId now with h | ⟨k, -, -, h⟩
      all_goals
        rw [h]
        exact ⟨rfl, .inl (.inl rfl)⟩
  | resolve deviceId sessionId result =>
      cases h
      rcases resolve_cases s deviceId sessionId result with
        ⟨h, -⟩ | ⟨p, haddressed, ⟨-, h⟩ | ⟨hopen, h⟩⟩
      · rw [h]
        exact ⟨rfl, .inl (.inl rfl)⟩
      · rw [h]
        exact ⟨rfl, .inl (.inl rfl)⟩
      · rw [h]
        refine ⟨rfl, ?_⟩
        by_cases hp : y = p.future
        · subst hp
          refine .inr ⟨hopen, result, ⟨deviceId, sessionId, p, rfl, haddressed.1, rfl, ?_⟩, ?_⟩
          · show (resolve s deviceId sessionId result).2 = true
            rw [h]
          · simp
        · exact .inl (.inl (Function.update_of_ne hp _ _))
  | closeAll =>
      cases h
      exact ⟨rfl, .inl (failPendingOf_keptOrFailed _ _ _ y)⟩
  | execute x command timeoutSeconds now =>
      have hne : y ≠ x := fun hyx => hy (congrArg some hyx.symm)
      simp only [step] at h
      split at h
      · have hframe := execute_of_ne (s := s) hne command timeoutSeconds now
        rw [Option.some.inj h] at hframe
        exact ⟨hframe.1, .inl (.inl hframe.2)⟩
      · cases h
  | resumeLock x =>
      obtain ⟨call, -, h⟩ := onCall_eq_some h
      have hframe := (continue_of_ne fun hyx : y = x => hy (congrArg some hyx.symm)).1 h
      exact ⟨hframe.1, .inl (.inl hframe.2)⟩
  | completeSend x failure now =>
      obtain ⟨call, -, h⟩ := onCall_eq_some h
      have hframe := (continue_of_ne fun hyx : y = x => hy (congrArg some hyx.symm)).2.1 _ _ h
      exact ⟨hframe.1, .inl hframe.2⟩
  | copyResult x =>
      obtain ⟨call, -, h⟩ := onCall_eq_some h
      have hframe := (continue_of_ne fun hyx : y = x => hy (congrArg some hyx.symm)).2.2.1 h
      exact ⟨hframe.1, .inl (.inl hframe.2)⟩
  | fireTimer x =>
      obtain ⟨call, -, h⟩ := onCall_eq_some h
      have hframe := (continue_of_ne fun hyx : y = x => hy (congrArg some hyx.symm)).2.2.2.1 h
      exact ⟨hframe.1, .inl (.inl hframe.2)⟩
  | resumeWait x =>
      obtain ⟨call, -, h⟩ := onCall_eq_some h
      have hframe := (continue_of_ne fun hyx : y = x => hy (congrArg some hyx.symm)).2.2.2.2.1 h
      exact ⟨hframe.1, .inl (.inl hframe.2)⟩
  | cancel x =>
      obtain ⟨call, -, h⟩ := onCall_eq_some h
      have hframe := (continue_of_ne fun hyx : y = x => hy (congrArg some hyx.symm)).2.2.2.2.2 h
      exact ⟨hframe.1, .inl (.inl hframe.2)⟩

/-- What a step can do to the state of an admitted call. -/
structure Continues (call call' : AdmittedCall) : Prop where
  admission : call'.admission = call.admission
  finished : ¬ call.Active → call' = call

theorem Continues.refl (call : AdmittedCall) : Continues call call := ⟨rfl, fun _ => rfl⟩

theorem Continues.trans {a b c : AdmittedCall} (hab : Continues a b) (hbc : Continues b c) :
    Continues a c := by
  refine ⟨hbc.admission.trans hab.admission, ?_⟩
  intro ha
  obtain rfl := hab.finished ha
  exact hbc.finished ha

theorem continues_of_active {call call' : AdmittedCall} (hactive : call.Active)
    (hadmission : call'.admission = call.admission) : Continues call call' :=
  ⟨hadmission, fun h => absurd hactive h⟩

theorem setCall_calls_self (s : State) (x : Nat) (call : ExecuteCall) :
    (setCall s x call).calls x = some call :=
  Function.update_self _ _ _

theorem cleanUp_calls_self (s : State) (x : Nat) (call : AdmittedCall) (outcome : Outcome) :
    (cleanUp s x call outcome).calls x =
      some (.admitted { call with stage := .finished outcome }) :=
  Function.update_self _ _ _

/-- The connection under which the call was admitted is still that of its device. -/
def HoldsCurrent (s : State) (a : Admission) : Prop :=
  ∃ k, s.connections.lookup a.command.deviceId = some k ∧ k.ref = a.connection

/-- The outcome of a call that finds its connection gone. -/
def offline (a : Admission) : Outcome := .raised (.device (.deviceOffline a.command.deviceId))

/-- What the own steps of an admitted call make of it. -/
inductive Continuation (s : State) (x : Nat) (call : AdmittedCall) : Action → AdmittedCall → Prop
  | interrupted : call.stage = .waitingForLock → call.cancelRequested = true →
      Continuation s x call (.resumeLock x)
        { call with stage := .finished (.raised .cancelled) }
  | dropped : call.stage = .waitingForLock → ¬ HoldsCurrent s call.admission →
      Continuation s x call (.resumeLock x)
        { call with stage := .finished (offline call.admission) }
  | sends : call.stage = .waitingForLock → HoldsCurrent s call.admission →
      Continuation s x call (.resumeLock x) { call with stage := .sending }
  | failed (error : Raised) (now : AwareDatetime) : call.stage = .sending →
      Continuation s x call (.completeSend x (some error) now)
        { call with stage := .finished (.raised error) }
  | answered (now : AwareDatetime) : call.stage = .sending → (s.futures x).done = true →
      Continuation s x call (.completeSend x none now)
        { call with stage := .finished (settle (s.futures x)) }
  | waits (now : AwareDatetime) : call.stage = .sending → s.futures x = .pending →
      Continuation s x call (.completeSend x none now)
        ⟨call.admission, false, .waiting (.start (effectiveTimeout call.admission now))⟩
  | copies (w : ShieldedWait DeviceCommandResult Raised) : call.stage = .waiting w →
      (s.futures x).done = true → w.outer = .pending →
      Continuation s x call (.copyResult x)
        { call with stage := .waiting (w.copyFrom (s.futures x)) }
  | expires (w : ShieldedWait DeviceCommandResult Raised) : call.stage = .waiting w →
      w.timedOut = false →
      Continuation s x call (.fireTimer x) { call with stage := .waiting w.fireTimer }
  | resumes (w : ShieldedWait DeviceCommandResult Raised) : call.stage = .waiting w →
      w.outer.done = true →
      Continuation s x call (.resumeWait x) { call with stage := .finished (waitOutcome call w) }
  | cancelled (stage : Stage) :
      ((call.stage = .waitingForLock ∧ stage = .waitingForLock) ∨
        (call.stage = .sending ∧ stage = .sending) ∨
        ∃ w, call.stage = .waiting w ∧ stage = .waiting w.cancel) →
      Continuation s x call (.cancel x) ⟨call.admission, true, stage⟩

theorem cleanUp_futures_of_done {s : State} {x : Nat} (call : AdmittedCall) (outcome : Outcome)
    (hdone : (s.futures x).done = true) : (cleanUp s x call outcome).futures x = s.futures x :=
  (Function.update_self _ _ _).trans (FutureState.completeWith_of_done hdone)

theorem send_continuation (s : State) (x : Nat) (call : AdmittedCall) :
    ((HoldsCurrent s call.admission ∧
      (send s x call).1.calls x = some (.admitted { call with stage := .sending })) ∨
    (¬ HoldsCurrent s call.admission ∧
      (send s x call).1.calls x =
        some (.admitted { call with stage := .finished (offline call.admission) }))) ∧
    ((s.futures x).done = true → (send s x call).1.futures x = s.futures x) := by
  rcases send_cases s x call with ⟨hcurrent, h⟩ | ⟨hlost, h⟩
  · rw [h]
    exact ⟨.inl ⟨hcurrent, setCall_calls_self _ _ _⟩, fun _ => rfl⟩
  · rw [h]
    refine ⟨.inr ⟨?_, cleanUp_calls_self _ _ _ _⟩,
      cleanUp_futures_of_done call (offline call.admission)⟩
    rintro ⟨k, hk, href⟩
    exact hlost k hk href

theorem step_continuation {s t : State} {action : Action} {events : List TransportCall}
    (h : step s action = some (t, events)) {x : Nat} (hactor : actor action = some x)
    {call : AdmittedCall} (hcall : s.calls x = some (.admitted call)) :
    ∃ call', t.calls x = some (.admitted call') ∧ Continuation s x call action call' ∧
      ((s.futures x).done = true → t.futures x = s.futures x) := by
  have own : ∀ {f : AdmittedCall → Option Result}, onCall s x f = some (t, events) →
      f call = some (t, events) := by
    intro f hf
    obtain ⟨call', hcall', hf⟩ := onCall_eq_some hf
    obtain rfl : call' = call := by simpa [hcall'] using hcall
    exact hf
  cases action with
  | connect | activate | disconnect | disconnectDevice | touch | resolve | closeAll =>
      cases hactor
  | execute y command timeoutSeconds now =>
      cases hactor
      simp only [step, hcall] at h
      cases h
  | resumeLock y =>
      cases hactor
      obtain ⟨hstage, lock, ⟨hcancel, hr⟩ | ⟨-, hr⟩⟩ := resumeLock_cases (own h)
      · cases hr
        exact ⟨_, cleanUp_calls_self _ _ _ _, .interrupted hstage hcancel,
          cleanUp_futures_of_done call (.raised .cancelled)⟩
      · have hsend := send_continuation (setLock s call.admission.connection lock) x call
        rw [← hr] at hsend
        rcases hsend with ⟨⟨hcurrent, hcall'⟩ | ⟨hlost, hcall'⟩, hkept⟩
        · exact ⟨_, hcall', .sends hstage hcurrent, hkept⟩
        · exact ⟨_, hcall', .dropped hstage hlost, hkept⟩
  | completeSend y failure now =>
      cases hactor
      obtain ⟨hstage, ⟨rfl, hr⟩ | ⟨error, rfl, ⟨-, hr⟩ | ⟨-, -, hr⟩⟩⟩ :=
        completeSend_cases (own h)
      · cases hr
        rcases beginWait_cases (releaseSendLock s call.admission) x call now with
          ⟨hdone, h⟩ | ⟨hopen, h⟩
        · rw [h]
          exact ⟨_, cleanUp_calls_self _ _ _ _, .answered now hstage hdone,
            cleanUp_futures_of_done call (settle (s.futures x))⟩
        · rw [h]
          exact ⟨_, setCall_calls_self _ _ _, .waits now hstage hopen, fun _ => rfl⟩
      · cases hr
        refine ⟨_, cleanUp_calls_self _ _ _ _, .failed error now hstage, ?_⟩
        intro hdone
        have hkept := (disconnect_keptOrFailed s call.admission.command.deviceId
          call.admission.sessionId x).eq_of_done hdone
        exact (cleanUp_futures_of_done (s := releaseSendLock (disconnect s
          call.admission.command.deviceId call.admission.sessionId).1 call.admission) call _
          (by rw [← hkept] at hdone; exact hdone)).trans hkept
      · cases hr
        exact ⟨_, cleanUp_calls_self _ _ _ _, .failed error now hstage,
          cleanUp_futures_of_done call (.raised error)⟩
  | copyResult y =>
      cases hactor
      obtain ⟨w, hstage, hdone, hopen, hr⟩ := copyResult_cases (own h)
      cases hr
      exact ⟨_, setCall_calls_self _ _ _, .copies w hstage hdone hopen, fun _ => rfl⟩
  | fireTimer y =>
      cases hactor
      obtain ⟨w, hstage, htimer, hr⟩ := fireTimer_cases (own h)
      cases hr
      exact ⟨_, setCall_calls_self _ _ _, .expires w hstage htimer, fun _ => rfl⟩
  | resumeWait y =>
      cases hactor
      obtain ⟨w, hstage, hdone, hr⟩ := resumeWait_cases (own h)
      cases hr
      exact ⟨_, cleanUp_calls_self _ _ _ _, .resumes w hstage hdone,
        cleanUp_futures_of_done call (waitOutcome call w)⟩
  | cancel y =>
      cases hactor
      obtain ⟨lock, stage, hstages, hr⟩ := cancel_cases (own h)
      cases hr
      exact ⟨_, setCall_calls_self _ _ _, .cancelled stage hstages, fun _ => rfl⟩

theorem Continuation.continues {s : State} {x : Nat} {call call' : AdmittedCall} {action : Action}
    (h : Continuation s x call action call') : Continues call call' := by
  cases h with
  | cancelled stage hstages =>
      refine continues_of_active ?_ rfl
      rcases hstages with ⟨hstage, -⟩ | ⟨hstage, -⟩ | ⟨w, hstage, -⟩
      all_goals exact active_of_stage hstage (by simp)
  | interrupted hstage | dropped hstage | sends hstage | failed _ _ hstage | answered _ hstage
  | waits _ hstage | copies _ hstage | expires _ hstage | resumes _ hstage =>
      exact continues_of_active (active_of_stage hstage (by simp)) rfl

/-- An admitted call keeps its admission, and a finished call does not change any
more. -/
theorem step_continues {s t : State} {action : Action} {events : List TransportCall}
    (h : step s action = some (t, events)) {x : Nat} {call : AdmittedCall}
    (hcall : s.calls x = some (.admitted call)) :
    ∃ call', t.calls x = some (.admitted call') ∧ Continues call call' := by
  by_cases hactor : actor action = some x
  · obtain ⟨call', hcall', hcontinuation, -⟩ := step_continuation h hactor hcall
    exact ⟨call', hcall', hcontinuation.continues⟩
  · rw [(step_frame h hactor).1]
    exact ⟨call, hcall, .refl call⟩

/-- The future of an admitted call does not change any more once it is done. -/
theorem step_futures_of_done {s t : State} {action : Action} {events : List TransportCall}
    (h : step s action = some (t, events)) {x : Nat} {call : AdmittedCall}
    (hcall : s.calls x = some (.admitted call)) (hdone : (s.futures x).done = true) :
    t.futures x = s.futures x := by
  by_cases hactor : actor action = some x
  · obtain ⟨-, -, -, hkept⟩ := step_continuation h hactor hcall
    exact hkept hdone
  · rcases (step_frame h hactor).2 with hkept | ⟨hopen, -⟩
    · exact hkept.eq_of_done hdone
    · rw [hopen] at hdone
      cases hdone

theorem run_continues {s t : State} {history : List Step} (hrun : Run manager s history t)
    {x : Nat} {call : AdmittedCall} (hcall : s.calls x = some (.admitted call)) :
    ∃ call', t.calls x = some (.admitted call') ∧ Continues call call' := by
  refine hrun.invariant
    (fun t => ∃ call', t.calls x = some (.admitted call') ∧ Continues call call')
    ⟨call, hcall, .refl call⟩ ?_
  rintro s action t events ⟨middle, hmiddle, hcontinues⟩ h
  obtain ⟨last, hlast, hcontinues'⟩ := step_continues h hmiddle
  exact ⟨last, hlast, hcontinues.trans hcontinues'⟩

/-- The step is the `execute` that stores the entry of call `x`. -/
def Registers (t : Step) (x : Nat) (a : Admission) : Prop :=
  ∃ k now, t.action = .execute x a.command a.timeoutSeconds now ∧
    checkAdmission t.source a.command a.timeoutSeconds now = .ok k ∧
    a = admissionOf a.command a.timeoutSeconds k

/-- A call that the step admits has its future open and is on its way to the
socket. -/
theorem execute_admitted {s : State} {x : Nat} {command : DeviceCommand} {timeoutSeconds : Int}
    {now : AwareDatetime} {call : AdmittedCall}
    (h : (execute s x command timeoutSeconds now).1.calls x = some (.admitted call)) :
    ∃ k, checkAdmission s command timeoutSeconds now = .ok k ∧
      call.admission = admissionOf command timeoutSeconds k ∧ call.cancelRequested = false ∧
      (call.stage = .waitingForLock ∨ call.stage = .sending) ∧
      (execute s x command timeoutSeconds now).1.futures x = .pending := by
  rcases execute_cases s x command timeoutSeconds now with ⟨error, -, hr⟩ | ⟨k, lock, hallowed, hr | hr⟩
  · rw [hr, setCall_calls_self] at h
    cases h
  · have hk := (admission_eq_ok hallowed).1
    rw [hr] at h ⊢
    rcases send_cases
      (setLock (register s x (admissionOf command timeoutSeconds k)) k.ref lock) x
      ⟨admissionOf command timeoutSeconds k, false, .waitingForLock⟩ with ⟨-, hs⟩ | ⟨hlost, -⟩
    · rw [hs, setCall_calls_self] at h
      cases h
      rw [hs]
      exact ⟨k, hallowed, rfl, rfl, .inr rfl, Function.update_self _ _ _⟩
    · exact absurd rfl (hlost k hk)
  · rw [hr] at h ⊢
    obtain rfl := by simpa [setLock, register] using h
    exact ⟨k, hallowed, rfl, rfl, .inl rfl, Function.update_self _ _ _⟩

structure Starts (t : Step) (x : Nat) (call : AdmittedCall) : Prop where
  fresh : t.source.calls x = none
  registers : Registers t x call.admission
  notCancelled : call.cancelRequested = false
  stage : call.stage = .waitingForLock ∨ call.stage = .sending
  pending : t.target.futures x = .pending

theorem step_admitted {s t : State} {action : Action} {events : List TransportCall}
    (h : step s action = some (t, events)) {x : Nat} {call : AdmittedCall}
    (hcall : t.calls x = some (.admitted call)) :
    (∃ call₀, s.calls x = some (.admitted call₀) ∧
      ((actor action ≠ some x ∧ call = call₀) ∨
        (actor action = some x ∧ Continuation s x call₀ action call))) ∨
    Starts ⟨s, action, events, t⟩ x call := by
  by_cases hactor : actor action = some x
  swap
  · rw [(step_frame h hactor).1] at hcall
    exact .inl ⟨call, hcall, .inl ⟨hactor, rfl⟩⟩
  have continued : ∀ {f : AdmittedCall → Option Result}, onCall s x f = some (t, events) →
      ∃ call₀, s.calls x = some (.admitted call₀) ∧
        ((actor action ≠ some x ∧ call = call₀) ∨
          (actor action = some x ∧ Continuation s x call₀ action call)) := by
    intro f hf
    obtain ⟨call₀, hcall₀, -⟩ := onCall_eq_some hf
    obtain ⟨call', hcall', hcontinuation, -⟩ := step_continuation h hactor hcall₀
    rw [hcall] at hcall'
    cases hcall'
    exact ⟨call₀, hcall₀, .inr ⟨hactor, hcontinuation⟩⟩
  cases action with
  | connect | activate | disconnect | disconnectDevice | touch | resolve | closeAll =>
      cases hactor
  | execute y command timeoutSeconds now =>
      cases hactor
      simp only [step] at h
      split at h
      · rename_i hfresh
        have hr := Option.some.inj h
        have hcall' : (execute s x command timeoutSeconds now).1.calls x = some (.admitted call) := by
          rw [hr]
          exact hcall
        obtain ⟨k, hallowed, ha, hcancel, hstage, hfuture⟩ := execute_admitted hcall'
        rw [hr] at hfuture
        exact .inr ⟨hfresh, by rw [ha]; exact ⟨k, now, rfl, hallowed, rfl⟩, hcancel, hstage, hfuture⟩
      · cases h
  | resumeLock y | completeSend y | copyResult y | fireTimer y | resumeWait y | cancel y =>
      cases hactor
      exact .inl (continued h)

theorem run_registers {s : State} {history : List Step}
    (hrun : Run manager State.initial history s) {x : Nat} {call : AdmittedCall}
    (hcall : s.calls x = some (.admitted call)) : ∃ t ∈ history, Registers t x call.admission := by
  refine hrun.historyInvariant
    (fun history s => ∀ call, s.calls x = some (.admitted call) →
      ∃ t ∈ history, Registers t x call.admission) ?_ ?_ call hcall
  · intro call hcall
    cases hcall
  · intro history s action t events _ ih h call hcall
    rcases step_admitted h hcall with ⟨call₀, hcall₀, hsame⟩ | hstarts
    · obtain ⟨step, hmem, hregisters⟩ := ih call₀ hcall₀
      refine ⟨step, List.mem_cons_of_mem _ hmem, ?_⟩
      rcases hsame with ⟨-, rfl⟩ | ⟨-, hcontinuation⟩
      · exact hregisters
      · rw [hcontinuation.continues.admission]
        exact hregisters
    · exact ⟨_, List.mem_cons_self, hstarts.registers⟩

theorem cleanUp_result_iff {s : State} {x y : Nat} {call : AdmittedCall} {outcome : Outcome}
    {result : DeviceCommandResult} :
    (cleanUp s x call outcome).futures y = .result result ↔ s.futures y = .result result := by
  by_cases hy : y = x
  · subst hy
    simp only [cleanUp, Function.update_self]
    exact FutureState.cancel_eq_result_iff
  · rw [cleanUp_futures_of_ne hy]

theorem send_result_iff {s : State} {x y : Nat} {call : AdmittedCall}
    {result : DeviceCommandResult} :
    (send s x call).1.futures y = .result result ↔ s.futures y = .result result := by
  rcases send_cases s x call with ⟨-, h⟩ | ⟨-, h⟩
  · rw [h]
    exact Iff.rfl
  · rw [h]
    exact cleanUp_result_iff

theorem disconnect_result_iff {s : State} {deviceId sessionId : UUID} {y : Nat}
    {result : DeviceCommandResult} :
    (disconnect s deviceId sessionId).1.futures y = .result result ↔
      s.futures y = .result result := by
  rcases disconnect_cases s deviceId sessionId with h | ⟨k, -, -, h⟩
  · rw [h]
  · rw [h]
    exact dropPending_futures_eq_result_iff

theorem continue_result_iff {s : State} {x y : Nat} {call : AdmittedCall} {r : Result}
    {result : DeviceCommandResult} :
    (resumeLock s x call = some r →
        (r.1.futures y = .result result ↔ s.futures y = .result result)) ∧
      (∀ failure now, completeSend s x call failure now = some r →
        (r.1.futures y = .result result ↔ s.futures y = .result result)) ∧
      (resumeWait s x call = some r →
        (r.1.futures y = .result result ↔ s.futures y = .result result)) := by
  refine ⟨?_, ?_, ?_⟩
  · intro h
    obtain ⟨-, lock, ⟨-, rfl⟩ | ⟨-, rfl⟩⟩ := resumeLock_cases h
    · exact cleanUp_result_iff
    · exact send_result_iff
  · intro failure now h
    obtain ⟨-, ⟨-, rfl⟩ | ⟨error, -, ⟨-, rfl⟩ | ⟨-, -, rfl⟩⟩⟩ := completeSend_cases h
    · rcases beginWait_cases (releaseSendLock s call.admission) x call now with ⟨-, h⟩ | ⟨-, h⟩
      · rw [h]
        exact cleanUp_result_iff
      · rw [h]
        exact Iff.rfl
    · exact cleanUp_result_iff.trans disconnect_result_iff
    · exact cleanUp_result_iff
  · intro h
    obtain ⟨w, -, -, rfl⟩ := resumeWait_cases h
    exact cleanUp_result_iff

theorem Accepts.spec {t : Step} {y : Nat} {result : DeviceCommandResult} (h : Accepts t y result)
    (hfire : step t.source t.action = some (t.target, t.events)) :
    ∃ deviceId sessionId p, t.action = .resolve deviceId sessionId result ∧
      Addressed t.source deviceId sessionId result p ∧ p.future = y ∧
      t.source.futures y = .pending ∧ t.target.futures y = .result result := by
  obtain ⟨deviceId, sessionId, p, haction, hp, rfl, htrue⟩ := h
  rw [haction] at hfire
  have htarget : (resolve t.source deviceId sessionId result).1 = t.target :=
    congrArg Prod.fst (Option.some.inj hfire)
  rcases resolve_cases t.source deviceId sessionId result with
    ⟨h, -⟩ | ⟨q, haddressed, ⟨-, h⟩ | ⟨hopen, h⟩⟩
  · rw [h] at htrue
    cases htrue
  · rw [h] at htrue
    cases htrue
  · obtain rfl : q = p := Option.some.inj (haddressed.1.symm.trans hp)
    refine ⟨deviceId, sessionId, q, haction, haddressed, rfl, hopen, ?_⟩
    rw [← htarget, h]
    exact Function.update_self _ _ _

/-- No call that has not started holds a result. -/
def Unstarted (s : State) : Prop := ∀ x result, s.calls x = none → s.futures x ≠ .result result

theorem execute_calls_self (s : State) (x : Nat) (command : DeviceCommand) (timeoutSeconds : Int)
    (now : AwareDatetime) : (execute s x command timeoutSeconds now).1.calls x ≠ none := by
  rcases execute_cases s x command timeoutSeconds now with ⟨error, -, h⟩ | ⟨k, lock, -, h | h⟩
  · rw [h]
    simp [setCall]
  · rw [h]
    rcases (send_continuation
        (setLock (register s x (admissionOf command timeoutSeconds k)) k.ref lock) x
        ⟨admissionOf command timeoutSeconds k, false, .waitingForLock⟩).1 with
      ⟨-, hcall⟩ | ⟨-, hcall⟩ <;> rw [hcall] <;> simp
  · rw [h]
    simp [setLock, register]

theorem execute_result_iff {s : State} {x : Nat} (y : Nat) (command : DeviceCommand)
    (timeoutSeconds : Int) (now : AwareDatetime) {result : DeviceCommandResult}
    (hx : s.futures x ≠ .result result) :
    (execute s x command timeoutSeconds now).1.futures y = .result result ↔
      s.futures y = .result result := by
  by_cases hy : y = x
  swap
  · rw [(execute_of_ne hy command timeoutSeconds now).2]
  subst hy
  rcases execute_cases s y command timeoutSeconds now with ⟨error, -, h⟩ | ⟨k, lock, -, h | h⟩
  · rw [h]
    exact Iff.rfl
  · rw [h]
    refine send_result_iff.trans ?_
    simp [setLock, register, hx]
  · rw [h]
    simp [setLock, register, hx]

theorem step_result_iff {s t : State} {action : Action} {events : List TransportCall}
    (hunstarted : Unstarted s) (h : step s action = some (t, events)) {y : Nat}
    {result : DeviceCommandResult} :
    t.futures y = .result result ↔
      s.futures y = .result result ∨ Accepts ⟨s, action, events, t⟩ y result := by
  by_cases hactor : actor action = some y
  · have hquiet : ¬ Accepts ⟨s, action, events, t⟩ y result := by
      rintro ⟨deviceId, sessionId, p, haction, -⟩
      obtain rfl : action = .resolve deviceId sessionId result := haction
      cases hactor
    rw [or_iff_left hquiet]
    cases action with
    | connect | activate | disconnect | disconnectDevice | touch | resolve | closeAll =>
        cases hactor
    | execute x command timeoutSeconds now =>
        cases hactor
        simp only [step] at h
        split at h
        · rename_i hnew
          have hiff := execute_result_iff y command timeoutSeconds now
            (hunstarted y result hnew)
          rwa [Option.some.inj h] at hiff
        · cases h
    | resumeLock x =>
        obtain ⟨call, -, h⟩ := onCall_eq_some h
        exact continue_result_iff.1 h
    | completeSend x failure now =>
        obtain ⟨call, -, h⟩ := onCall_eq_some h
        exact continue_result_iff.2.1 _ _ h
    | copyResult x =>
        obtain ⟨call, -, h⟩ := onCall_eq_some h
        obtain ⟨w, -, -, -, hr⟩ := copyResult_cases h
        cases hr
        exact Iff.rfl
    | fireTimer x =>
        obtain ⟨call, -, h⟩ := onCall_eq_some h
        obtain ⟨w, -, -, hr⟩ := fireTimer_cases h
        cases hr
        exact Iff.rfl
    | resumeWait x =>
        obtain ⟨call, -, h⟩ := onCall_eq_some h
        exact continue_result_iff.2.2 h
    | cancel x =>
        obtain ⟨call, -, h⟩ := onCall_eq_some h
        obtain ⟨lock, stage, -, hr⟩ := cancel_cases h
        cases hr
        exact Iff.rfl
  · constructor
    · intro ht
      rcases (step_frame h hactor).2 with (hkept | ⟨-, error, hfailed⟩) | ⟨-, r, haccepts, hr⟩
      · exact .inl (hkept.symm.trans ht)
      · rw [hfailed] at ht
        cases ht
      · obtain rfl : r = result := by simpa [hr] using ht
        exact .inr haccepts
    · rintro (hs | haccepts)
      · rcases (step_frame h hactor).2 with (hkept | ⟨hopen, -⟩) | ⟨hopen, -⟩
        · exact hkept.trans hs
        · rw [hopen] at hs
          cases hs
        · rw [hopen] at hs
          cases hs
      · obtain ⟨-, -, -, -, -, -, -, ht⟩ := haccepts.spec h
        exact ht

theorem step_unstarted {s t : State} {action : Action} {events : List TransportCall}
    (h : step s action = some (t, events)) {x : Nat} (hx : t.calls x = none) :
    actor action ≠ some x ∧ s.calls x = none := by
  have hactor : actor action ≠ some x := by
    intro hactor
    cases action with
    | connect | activate | disconnect | disconnectDevice | touch | resolve | closeAll =>
        cases hactor
    | execute y command timeoutSeconds now =>
        cases hactor
        simp only [Execution.step] at h
        split at h
        · have hself := execute_calls_self s x command timeoutSeconds now
          rw [Option.some.inj h] at hself
          exact hself hx
        · cases h
    | resumeLock y | completeSend y | copyResult y | fireTimer y | resumeWait y | cancel y =>
        cases hactor
        obtain ⟨call, hcall, -⟩ := onCall_eq_some h
        obtain ⟨call', hcall', -⟩ := step_continues h hcall
        rw [hx] at hcall'
        cases hcall'
  exact ⟨hactor, (step_frame h hactor).1.symm.trans hx⟩

theorem Unstarted.step {s t : State} {action : Action} {events : List TransportCall}
    (hinv : Inv s) (hunstarted : Unstarted s) (h : step s action = some (t, events)) :
    Unstarted t := by
  intro x result hx ht
  have hsx : s.calls x = none := (step_unstarted h hx).2
  rcases (step_result_iff hunstarted h).mp ht with hs | haccepts
  · exact hunstarted x result hsx hs
  · obtain ⟨deviceId, sessionId, p, -, haddressed, rfl, -⟩ := haccepts.spec h
    obtain ⟨call, hcall, -⟩ := hinv.owner _ p haddressed.1
    rw [hsx] at hcall
    cases hcall

/-- A started call stays started, so `execute` cannot be entered for it again. -/
theorem run_not_executed {s t : State} {history : List Step} (hrun : Run manager s history t)
    {x : Nat} (hx : s.calls x ≠ none) {u : Step} (hu : u ∈ history) (command : DeviceCommand)
    (timeoutSeconds : Int) (now : AwareDatetime) :
    u.action ≠ .execute x command timeoutSeconds now := by
  intro haction
  obtain ⟨later, earlier, -, hearlier, hfired, -⟩ := hrun.exists_of_mem hu
  have hstarted : u.source.calls x ≠ none :=
    hearlier.invariant (fun s => s.calls x ≠ none) hx fun _ _ _ _ hs h ht =>
      hs (step_unstarted h ht).2
  rw [haction] at hfired
  simp only [manager, step] at hfired
  split at hfired
  · rename_i hfresh
    exact hstarted hfresh
  · cases hfired

theorem unstarted_of_reachable {s : State} (hs : Reachable manager s) : Unstarted s := by
  refine (hs.invariant (fun s => Inv s ∧ Unstarted s) ⟨inv_initial, ?_⟩ ?_).2
  · intro x result hx
    simp [manager, State.initial]
  · intro s action t events hboth h
    exact ⟨hboth.1.step h, hboth.2.step hboth.1 h⟩

end JarvisCore.Manager.Evolution
