import JarvisCore.Manager.Connections
import JarvisCore.Manager.PendingOwnership

namespace JarvisCore.Manager.Isolation

open JarvisCore.Domain.Values
open JarvisCore.Domain.Errors
open JarvisCore.Domain.Models
open JarvisCore.Foundation.AsyncIO
open JarvisCore.Foundation.Dictionary
open JarvisCore.Foundation.TransitionSystem
open JarvisCore.Manager.Operations
open JarvisCore.Manager.Execution
open JarvisCore.Manager.Invariant
open JarvisCore.Manager.Evolution
open JarvisCore.Manager.Connections
open JarvisCore.Manager.PendingOwnership

/-- The call was not admitted under the session of the device. -/
def StartedElsewhere (s : State) (deviceId sessionId : UUID) (x : Nat) : Prop :=
  ∀ call, s.calls x = some (.admitted call) →
    call.admission.command.deviceId ≠ deviceId ∨ call.admission.sessionId ≠ sessionId

/-- The operation names another device, or the device with another session. -/
def Elsewhere (s : State) (deviceId sessionId : UUID) : Action → Prop
  | .activate d session _ _ _ | .disconnect d session | .touch d session _
  | .resolve d session _ => d ≠ deviceId ∨ session ≠ sessionId
  | .connect d _ _ _ | .disconnectDevice d _ _ => d ≠ deviceId
  | .execute _ command _ _ => command.deviceId ≠ deviceId
  | .resumeLock x | .completeSend x _ _ | .copyResult x | .fireTimer x | .resumeWait x
  | .cancel x => StartedElsewhere s deviceId sessionId x
  | .closeAll => False

/-- The connection of the device is the same record, the session has the same
pending entries, and their futures are as they were. -/
structure Unchanged (deviceId sessionId : UUID) (s t : State) : Prop where
  connection : t.connections.lookup deviceId = s.connections.lookup deviceId
  pending : ∀ c p, p.deviceId = deviceId → p.sessionId = sessionId →
    (t.pending.lookup c = some p ↔ s.pending.lookup c = some p)
  futures : ∀ c p, p.deviceId = deviceId → p.sessionId = sessionId →
    s.pending.lookup c = some p → t.futures p.future = s.futures p.future

theorem Unchanged.refl (deviceId sessionId : UUID) (s : State) :
    Unchanged deviceId sessionId s s :=
  ⟨rfl, fun _ _ _ _ => Iff.rfl, fun _ _ _ _ _ => rfl⟩

theorem Unchanged.trans {deviceId sessionId : UUID} {s t u : State}
    (hst : Unchanged deviceId sessionId s t) (htu : Unchanged deviceId sessionId t u) :
    Unchanged deviceId sessionId s u := by
  refine ⟨htu.connection.trans hst.connection, ?_, ?_⟩
  · intro c p hd hs
    exact (htu.pending c p hd hs).trans (hst.pending c p hd hs)
  · intro c p hd hs hc
    have hmiddle := (hst.pending c p hd hs).mpr hc
    exact (htu.futures c p hd hs hmiddle).trans (hst.futures c p hd hs hc)

def NamesCurrent (s : State) (deviceId sessionId : UUID) : Prop :=
  ∃ k, s.connections.lookup deviceId = some k ∧ k.sessionId = sessionId

/-- The operation comes from a session that is not the current one of its device, or
it is about a command that is pending for somebody else. -/
def Misdirected (s : State) : Action → Prop
  | .activate d session _ _ _ | .disconnect d session | .touch d session _ =>
      ¬ NamesCurrent s d session
  | .resolve d session result =>
      ¬ NamesCurrent s d session ∨ ∃ p, s.pending.lookup result.commandId = some p ∧
        (p.deviceId ≠ d ∨ p.sessionId ≠ session)
  | .execute _ command _ _ => ∃ p, s.pending.lookup command.id = some p
  | .completeSend x (some error) _ => error.isException = true ∧
      ∃ call, s.calls x = some (.admitted call) ∧
        ¬ NamesCurrent s call.admission.command.deviceId call.admission.sessionId
  | _ => False

/-- The operation returned `False` or raised. A send that fails also raises in the
`execute` it belongs to, and the `disconnect` in between returned `False`. -/
def Rejected (s t : State) : Action → Prop
  | .activate d session advertised effective now =>
      ∃ error, activate s d session advertised effective now = .error error
  | .disconnect d session => (disconnect s d session).2 = false
  | .touch d session now => (touch s d session now).2 = false
  | .resolve d session result => (resolve s d session result).2 = false
  | .execute x command _ _ => ∃ error, t.calls x = some (.refused command error)
  | .completeSend x (some error) _ => ∃ call, s.calls x = some (.admitted call) ∧
      (disconnect s call.admission.command.deviceId call.admission.sessionId).2 = false ∧
      t.calls x = some (.admitted { call with stage := .finished (.raised error) })
  | _ => False

theorem disconnect_of_not_current {s : State} {deviceId sessionId : UUID}
    (h : ¬ NamesCurrent s deviceId sessionId) : disconnect s deviceId sessionId = (s, false) := by
  rcases disconnect_cases s deviceId sessionId with heq | ⟨k, hk, hsession, -⟩
  · exact heq
  · exact absurd ⟨k, hk, hsession⟩ h

/-- Nobody but the current session of a device gets anything done under its name. -/
theorem rejected_of_misdirected {s t : State} {action : Action} {events : List TransportCall}
    (h : step s action = some (t, events)) (hmisdirected : Misdirected s action) :
    Rejected s t action := by
  cases action with
  | activate d session advertised effective now =>
      show ∃ error, activate s d session advertised effective now = .error error
      cases hactivate : activate s d session advertised effective now with
      | error error => exact ⟨error, rfl⟩
      | ok t' =>
          obtain ⟨k, -, hk, hsession, -⟩ := activate_eq_ok hactivate
          exact absurd ⟨k, hk, hsession⟩ hmisdirected
  | disconnect d session =>
      show (disconnect s d session).2 = false
      rw [disconnect_of_not_current hmisdirected]
  | touch d session now =>
      show (touch s d session now).2 = false
      rcases touch_cases s d session now with heq | ⟨k, hk, hsession, -⟩
      · rw [heq]
      · exact absurd ⟨k, hk, hsession⟩ hmisdirected
  | resolve d session result =>
      show (resolve s d session result).2 = false
      rcases resolve_cases s d session result with ⟨heq, -⟩ | ⟨p, haddressed, -⟩
      · rw [heq]
      · obtain ⟨hp, hdevice, hsession, -, hcurrent⟩ := haddressed
        rcases hmisdirected with hstale | ⟨q, hq, hother⟩
        · exact absurd hcurrent hstale
        · obtain rfl : p = q := Option.some.inj (hp.symm.trans hq)
          rcases hother with hother | hother
          · exact absurd hdevice hother
          · exact absurd hsession hother
  | execute x command timeoutSeconds now =>
      obtain ⟨p, hp⟩ := hmisdirected
      simp only [step] at h
      split at h
      · rcases execute_cases s x command timeoutSeconds now with
          ⟨error, -, heq⟩ | ⟨k, -, hallowed, -⟩
        · rw [heq] at h
          cases h
          exact ⟨error, setCall_calls_self _ _ _⟩
        · have hfree := (admission_eq_ok hallowed).2.2.2.1
          rw [hp] at hfree
          cases hfree
      · cases h
  | completeSend x failure now =>
      cases failure with
      | none => exact hmisdirected
      | some error =>
          obtain ⟨hexception, call, hcall, hstale⟩ := hmisdirected
          have hactor : actor (.completeSend x (some error) now) = some x := rfl
          obtain ⟨call', hcall', hcontinuation, -⟩ := step_continuation h hactor hcall
          refine ⟨call, hcall, ?_, ?_⟩
          · rw [disconnect_of_not_current hstale]
          · cases hcontinuation
            exact hcall'
  | connect | disconnectDevice | closeAll | resumeLock | copyResult | fireTimer | resumeWait
  | cancel => exact hmisdirected

/-- An operation elsewhere finds no connection of its own where the session is. -/
theorem disconnect_elsewhere {s : State} {deviceId sessionId d session : UUID}
    {k : LiveConnection} (hk : s.connections.lookup deviceId = some k)
    (hsession : k.sessionId = sessionId) (helsewhere : d ≠ deviceId ∨ session ≠ sessionId) :
    d ≠ deviceId ∨ disconnect s d session = (s, false) := by
  rcases helsewhere with hd | hs
  · exact .inl hd
  · refine or_iff_not_imp_left.mpr ?_
    intro hd
    obtain rfl : d = deviceId := not_not.mp hd
    apply disconnect_of_not_current
    rintro ⟨k', hk', hsession'⟩
    obtain rfl : k = k' := Option.some.inj (hk.symm.trans hk')
    exact hs (hsession'.symm.trans hsession)

theorem not_startedElsewhere {s : State} {x : Nat} {call : AdmittedCall} {p : PendingCommand}
    (hcall : s.calls x = some (.admitted call)) (hentry : call.admission.entry x = p) :
    ¬ StartedElsewhere s p.deviceId p.sessionId x := by
  intro helsewhere
  subst hentry
  rcases helsewhere call hcall with hd | hs
  · exact hd rfl
  · exact hs rfl

section OfSession

variable {s : State} {c : UUID} {p : PendingCommand} (hinv : Inv s)
  (hp : s.pending.lookup c = some p)
include hinv hp

theorem dropPending_futures_elsewhere {t : State} {d : UUID} (hd : d ≠ p.deviceId)
    (hpending : t.pending = s.pending) :
    (dropPending d t).futures p.future = t.futures p.future := by
  apply dropPending_futures_of_kept
  intro c' p' hp' hfuture
  rw [hpending] at hp'
  obtain ⟨call, hcall, -, -, hentry⟩ := hinv.owner c p hp
  have hentry' := (hinv.entry_eq hp' (hfuture ▸ hcall)).2.2
  rw [hfuture] at hentry'
  rw [← hentry', hentry]
  exact hd.symm

theorem disconnect_futures_elsewhere {d session : UUID}
    (helsewhere : d ≠ p.deviceId ∨ session ≠ p.sessionId) :
    (disconnect s d session).1.futures p.future = s.futures p.future := by
  obtain ⟨k, hk, hsession, -⟩ := hinv.live c p hp
  rcases disconnect_elsewhere hk hsession helsewhere with hd | heq
  · rcases disconnect_cases s d session with heq | ⟨-, -, -, heq⟩
    · rw [heq]
    · rw [heq]
      exact dropPending_futures_elsewhere hinv hp hd rfl
  · rw [heq]

theorem ne_of_startedElsewhere {x : Nat} (hx : StartedElsewhere s p.deviceId p.sessionId x) :
    p.future ≠ x := by
  rintro rfl
  obtain ⟨call, hcall, -, -, hentry⟩ := hinv.owner c p hp
  exact not_startedElsewhere hcall hentry hx

theorem completeSend_futures_elsewhere {x : Nat} {call : AdmittedCall} {failure : Option Raised}
    {now : AwareDatetime} {r : Result} (hcall : s.calls x = some (.admitted call))
    (hx : StartedElsewhere s p.deviceId p.sessionId x)
    (h : completeSend s x call failure now = some r) :
    r.1.futures p.future = s.futures p.future := by
  have hne := ne_of_startedElsewhere hinv hp hx
  obtain ⟨-, ⟨-, rfl⟩ | ⟨error, -, ⟨-, rfl⟩ | ⟨-, -, rfl⟩⟩⟩ := completeSend_cases h
  · rcases beginWait_cases (releaseSendLock s call.admission) x call now with ⟨-, h⟩ | ⟨-, h⟩
    · rw [h]
      exact cleanUp_futures_of_ne hne _ _
    · rw [h]
      rfl
  · refine (cleanUp_futures_of_ne hne _ _).trans ?_
    exact disconnect_futures_elsewhere hinv hp (hx call hcall)
  · exact cleanUp_futures_of_ne hne _ _

theorem step_futures_elsewhere {t : State} {action : Action} {events : List TransportCall}
    (h : step s action = some (t, events))
    (helsewhere : Elsewhere s p.deviceId p.sessionId action) :
    t.futures p.future = s.futures p.future := by
  cases action with
  | connect d transport session now =>
      cases h
      exact dropPending_futures_elsewhere hinv hp helsewhere rfl
  | activate d session advertised effective now =>
      simp only [step] at h
      split at h
      · rename_i t' hactivate
        cases h
        obtain ⟨-, -, -, -, -, -, -, -, -, -, rfl⟩ := activate_eq_ok hactivate
        rfl
      · cases h
        rfl
  | disconnect d session =>
      cases h
      exact disconnect_futures_elsewhere hinv hp helsewhere
  | disconnectDevice d code reason =>
      cases h
      exact dropPending_futures_elsewhere hinv hp helsewhere rfl
  | touch d session now =>
      cases h
      rcases touch_cases s d session now with heq | ⟨k, -, -, heq⟩
      all_goals rw [heq]
  | resolve d session result =>
      cases h
      rcases resolve_cases s d session result with ⟨heq, -⟩ | ⟨q, haddressed, hcases⟩
      · rw [heq]
      · have hne : p.future ≠ q.future := by
          intro hfuture
          obtain ⟨call, hcall, -, -, hentry⟩ := hinv.owner c p hp
          have hentry' := (hinv.entry_eq haddressed.1 (hfuture ▸ hcall)).2.2
          rw [← hfuture, hentry] at hentry'
          subst hentry'
          rcases helsewhere with hd | hs
          · exact hd haddressed.2.1.symm
          · exact hs haddressed.2.2.1.symm
        rcases hcases with ⟨-, heq⟩ | ⟨-, heq⟩
        · rw [heq]
        · rw [heq]
          exact Function.update_of_ne hne _ _
  | closeAll => exact helsewhere.elim
  | execute x command timeoutSeconds now =>
      simp only [step] at h
      split at h
      · rename_i hx
        have hne : p.future ≠ x := by
          rintro rfl
          obtain ⟨call, hcall, -⟩ := hinv.owner c p hp
          rw [hx] at hcall
          cases hcall
        have hframe := (execute_of_ne hne command timeoutSeconds now (s := s)).2
        rwa [Option.some.inj h] at hframe
      · cases h
  | completeSend x failure now =>
      obtain ⟨call, hcall, hr⟩ := onCall_eq_some h
      exact completeSend_futures_elsewhere hinv hp hcall helsewhere hr
  | resumeLock x =>
      obtain ⟨call, -, hr⟩ := onCall_eq_some h
      exact ((continue_of_ne (ne_of_startedElsewhere hinv hp helsewhere)).1 hr).2
  | copyResult x =>
      obtain ⟨call, -, hr⟩ := onCall_eq_some h
      exact ((continue_of_ne (ne_of_startedElsewhere hinv hp helsewhere)).2.2.1 hr).2
  | fireTimer x =>
      obtain ⟨call, -, hr⟩ := onCall_eq_some h
      exact ((continue_of_ne (ne_of_startedElsewhere hinv hp helsewhere)).2.2.2.1 hr).2
  | resumeWait x =>
      obtain ⟨call, -, hr⟩ := onCall_eq_some h
      exact ((continue_of_ne (ne_of_startedElsewhere hinv hp helsewhere)).2.2.2.2.1 hr).2
  | cancel x =>
      obtain ⟨call, -, hr⟩ := onCall_eq_some h
      exact ((continue_of_ne (ne_of_startedElsewhere hinv hp helsewhere)).2.2.2.2.2 hr).2

end OfSession

theorem elsewhere_actor {s t : State} {action : Action} {events : List TransportCall}
    (h : step s action = some (t, events)) {deviceId sessionId : UUID}
    (helsewhere : Elsewhere s deviceId sessionId action) {x : Nat} (hactor : actor action = some x) :
    StartedElsewhere t deviceId sessionId x := by
  intro call hcall
  rcases step_admitted h hcall with ⟨call₀, hcall₀, ⟨hother, -⟩ | ⟨-, hcontinuation⟩⟩ | hstarts
  · exact absurd hactor hother
  · have hstarted : StartedElsewhere s deviceId sessionId x := by
      cases hcontinuation with
      | interrupted | dropped | sends | failed | answered | waits | copies | expires | resumes
      | cancelled => exact helsewhere
    rw [hcontinuation.continues.admission]
    exact hstarted call₀ hcall₀
  · obtain ⟨k, now, haction, -, -⟩ := hstarts.registers
    obtain rfl : action = _ := haction
    exact .inl helsewhere

theorem step_connection_elsewhere {s t : State} {action : Action} {events : List TransportCall}
    (h : step s action = some (t, events)) {deviceId : UUID} {k : LiveConnection}
    (hk : s.connections.lookup deviceId = some k)
    (helsewhere : Elsewhere s deviceId k.sessionId action) :
    t.connections.lookup deviceId = s.connections.lookup deviceId := by
  have isCurrent {k' : LiveConnection} (hk' : s.connections.lookup deviceId = some k') :
      k'.sessionId = k.sessionId :=
    congrArg (·.sessionId) (Option.some.inj (hk'.symm.trans hk))
  cases step_connection h deviceId with
  | kept _ hkept => exact hkept
  | dropped hdrops _ =>
      exfalso
      cases action with
      | disconnect d session =>
          obtain ⟨rfl, k', hk', hsession⟩ := hdrops
          exact helsewhere.elim (fun hd => hd rfl) fun hs => hs (hsession ▸ isCurrent hk')
      | disconnectDevice d code reason => exact helsewhere hdrops
      | closeAll => exact helsewhere
      | completeSend x failure now =>
          cases failure with
          | none => exact hdrops
          | some error =>
              obtain ⟨-, call, k', hcall, -, hd, hk', hsession⟩ := hdrops
              exact (helsewhere call hcall).elim (fun hne => hne hd)
                fun hne => hne (hsession ▸ isCurrent hk')
      | connect | activate | touch | resolve | execute | resumeLock | copyResult | fireTimer
      | resumeWait | cancel => exact hdrops
  | connected => exact absurd rfl helsewhere
  | activated k' _ _ hk' hsession =>
      exact (helsewhere.elim (fun hd => hd rfl) fun hs => hs (hsession ▸ isCurrent hk')).elim
  | touched k' hk' hsession =>
      exact (helsewhere.elim (fun hd => hd rfl) fun hs => hs (hsession ▸ isCurrent hk')).elim

/-- What happens elsewhere changes nothing for the current session of a device. -/
theorem step_unchanged {s t : State} (hinv : Inv s) {action : Action}
    {events : List TransportCall} (h : step s action = some (t, events)) {deviceId : UUID}
    {k : LiveConnection} (hk : s.connections.lookup deviceId = some k)
    (helsewhere : Elsewhere s deviceId k.sessionId action) :
    Unchanged deviceId k.sessionId s t := by
  have hinv' : Inv t := hinv.step h
  -- An entry of the session keeps its call, whose future is still open.
  have stays : ∀ c p, p.deviceId = deviceId → p.sessionId = k.sessionId →
      s.pending.lookup c = some p →
        t.futures p.future = s.futures p.future ∧ t.pending.lookup c = some p := by
    intro c p hd hs hc
    rw [← hd, ← hs] at helsewhere
    have hfuture := step_futures_elsewhere hinv hc h helsewhere
    refine ⟨hfuture, ?_⟩
    obtain ⟨call, hcall, hactive, rfl, hentry⟩ := hinv.owner c p hc
    obtain ⟨call', hcall', hcontinues⟩ := step_continues h hcall
    have hactor : actor action ≠ some p.future := by
      intro hactor
      have hentry' : call'.admission.entry p.future = p := by rw [hcontinues.admission, hentry]
      exact not_startedElsewhere hcall' hentry' (elsewhere_actor h helsewhere hactor)
    have hkept := (step_frame h hactor).1.trans hcall
    have howned := hinv'.owned p.future call hkept hactive
      (hfuture.trans (hinv.unresolved _ p hc))
    rwa [hentry] at howned
  -- An entry of the session that is there after the step has not come elsewhere.
  have came : ∀ c p, p.deviceId = deviceId → p.sessionId = k.sessionId →
      t.pending.lookup c = some p → s.pending.lookup c = some p := by
    intro c p hd hs hc
    rw [← hd, ← hs] at helsewhere
    obtain ⟨call, hcall, hactive, rfl, hentry⟩ := hinv'.owner c p hc
    have hactor : actor action ≠ some p.future := by
      intro hactor
      exact not_startedElsewhere hcall hentry (elsewhere_actor h helsewhere hactor)
    have hkept := (step_frame h hactor).1.symm.trans hcall
    have hopen : s.futures p.future = .pending := by
      apply FutureState.done_eq_false_iff.mp
      by_contra hdone
      have hsame := step_futures_of_done h hkept (by simpa using hdone)
      rw [← hsame, hinv'.unresolved _ p hc] at hdone
      exact hdone rfl
    have howned := hinv.owned p.future call hkept hactive hopen
    rwa [hentry] at howned
  refine ⟨step_connection_elsewhere h hk helsewhere, ?_, ?_⟩
  · intro c p hd hs
    exact ⟨came c p hd hs, fun hc => (stays c p hd hs hc).2⟩
  · intro c p hd hs hc
    exact (stays c p hd hs hc).1

/-- Sessions and devices are isolated: whatever other devices, earlier sessions of
the device and calls admitted under them do, the connection of the device and the
commands pending on its current session stay as they are, and what is not done by
the current session of a device itself is rejected. -/
theorem session_isolation {s : State} (hs : Reachable manager s) {deviceId : UUID}
    {k : LiveConnection} (hk : s.connections.lookup deviceId = some k) :
    (∀ action t events, manager.step s action = some (t, events) →
      (Elsewhere s deviceId k.sessionId action → Unchanged deviceId k.sessionId s t) ∧
        (Misdirected s action → Rejected s t action)) ∧
    ∀ history t, Run manager s history t →
      (∀ u ∈ history, Elsewhere u.source deviceId k.sessionId u.action) →
      Unchanged deviceId k.sessionId s t := by
  refine ⟨?_, ?_⟩
  · intro action t events h
    exact ⟨step_unchanged (inv_of_reachable hs) h hk, rejected_of_misdirected h⟩
  · intro history t hrun
    induction hrun with
    | nil => exact fun _ => .refl deviceId k.sessionId s
    | @step history middle action events t hprev hfire ih =>
        intro helsewhere
        obtain ⟨hlast, hearlier⟩ := List.forall_mem_cons.mp helsewhere
        have hmiddle := ih hearlier
        have hinv : Inv middle := hprev.invariant Inv (inv_of_reachable hs)
          fun _ _ _ _ hinv h => hinv.step h
        exact hmiddle.trans
          (step_unchanged hinv hfire (hmiddle.connection.trans hk) hlast)

def sampleOther : UUID := ⟨7⟩
def sampleOtherSession : UUID := ⟨8⟩

/-- Two devices are online, and a command is pending on the first one. -/
def sampleNeighbours : List Action :=
  sampleOnline ++ [sampleExecute 0 ⟨3⟩, .connect sampleOther 1 sampleOtherSession ⟨0, 0⟩]

def isPendingOn (s : State) (deviceId sessionId c : UUID) : Bool :=
  (s.connections.lookup deviceId).any (fun k => k.sessionId = sessionId) &&
    (s.pending.lookup c).any fun p => p.deviceId = deviceId

/-- The neighbour answers the command of the first device, and the latter's earlier
session goes away. -/
theorem session_isolation_neighbours :
    ∃ s t k history, Reachable manager s ∧ s.connections.lookup sampleDevice = some k ∧
      Run manager s history t ∧ history.length = 2 ∧
      Unchanged sampleDevice k.sessionId s t ∧
      Rejected s (resolve s sampleOther sampleOtherSession (sampleResult ⟨3⟩)).1
        (.resolve sampleOther sampleOtherSession (sampleResult ⟨3⟩)) := by
  obtain ⟨earlier, s, hrun, htest⟩ := exists_run_of_replay (S := manager) (s := State.initial)
    sampleNeighbours (fun _ s => isPendingOn s sampleDevice sampleSession ⟨3⟩) (by decide)
  obtain ⟨hsession, hpending⟩ := Bool.and_eq_true_iff.mp htest
  obtain ⟨k, hk, hsession⟩ := (Option.any_eq_true _ _).mp hsession
  obtain ⟨p, hp, hdevice⟩ := (Option.any_eq_true _ _).mp hpending
  have hsession : k.sessionId = sampleSession := of_decide_eq_true hsession
  have hdevice : p.deviceId = sampleDevice := of_decide_eq_true hdevice
  obtain ⟨hsteps, hruns⟩ := session_isolation hrun.reachable hk
  have hanswer : manager.step s (.resolve sampleOther sampleOtherSession (sampleResult ⟨3⟩)) =
      some ((resolve s sampleOther sampleOtherSession (sampleResult ⟨3⟩)).1, []) := rfl
  refine ⟨s, _, k, _, hrun.reachable, hk,
    .step (.disconnect sampleDevice ⟨9⟩) [] _ (.step _ [] _ .nil hanswer) rfl, rfl, ?_, ?_⟩
  · refine hruns _ _ (.step (.disconnect sampleDevice ⟨9⟩) [] _ (.step _ [] _ .nil hanswer) rfl) ?_
    simp only [List.forall_mem_cons]
    refine ⟨.inr ?_, .inl (by decide), by simp⟩
    rw [hsession]
    decide
  · refine (hsteps _ _ _ hanswer).2 (.inr ⟨p, hp, .inl ?_⟩)
    rw [hdevice]
    decide

/-- Naming another device is no reason for a rejection: its own current session may
touch it. -/
theorem other_device_not_rejected :
    ¬ ∀ s, Reachable manager s → ∀ deviceId k, s.connections.lookup deviceId = some k →
      ∀ d session now, (d ≠ deviceId ∨ session ≠ k.sessionId) →
        (touch s d session now).2 = false := by
  intro hclaim
  obtain ⟨history, s, hrun, htest⟩ := exists_run_of_replay (S := manager) (s := State.initial)
    sampleNeighbours
    (fun _ s => (s.connections.lookup sampleDevice).isSome &&
      (touch s sampleOther sampleOtherSession ⟨0, 0⟩).2) (by decide)
  obtain ⟨hconnected, htouched⟩ := Bool.and_eq_true_iff.mp htest
  obtain ⟨k, hk⟩ := Option.isSome_iff_exists.mp hconnected
  have hrejected := hclaim s hrun.reachable sampleDevice k hk sampleOther sampleOtherSession ⟨0, 0⟩
    (.inl (by decide))
  rw [htouched] at hrejected
  cases hrejected

end JarvisCore.Manager.Isolation
