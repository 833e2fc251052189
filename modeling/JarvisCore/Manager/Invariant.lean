import JarvisCore.Manager.Execution

namespace JarvisCore.Manager.Invariant

open JarvisCore.Domain.Values
open JarvisCore.Domain.Errors
open JarvisCore.Domain.Models
open JarvisCore.Foundation.AsyncIO
open JarvisCore.Foundation.Dictionary
open JarvisCore.Foundation.TransitionSystem
open JarvisCore.Manager.Operations
open JarvisCore.Manager.Execution

/-- The entries of `_pending` and the active calls own each other, and every entry
is backed by a live connection of its session. -/
structure Inv (s : State) : Prop where
  live : ∀ c p, s.pending.lookup c = some p →
    ∃ k, s.connections.lookup p.deviceId = some k ∧ k.sessionId = p.sessionId ∧ k.status = .online
  owner : ∀ c p, s.pending.lookup c = some p →
    ∃ call, s.calls p.future = some (.admitted call) ∧ call.Active ∧
      call.admission.command.id = c ∧ call.admission.entry p.future = p
  unresolved : ∀ c p, s.pending.lookup c = some p → s.futures p.future = .pending
  owned : ∀ x call, s.calls x = some (.admitted call) → call.Active → s.futures x = .pending →
    s.pending.lookup call.admission.command.id = some (call.admission.entry x)

theorem inv_initial : Inv State.initial where
  live c p h := by simp [State.initial] at h
  owner c p h := by simp [State.initial] at h
  unresolved c p h := by simp [State.initial] at h
  owned x call h := by simp [State.initial] at h

theorem Inv.entry_eq {s : State} (hinv : Inv s) {c : UUID} {p : PendingCommand}
    {call : AdmittedCall} (hc : s.pending.lookup c = some p)
    (hcall : s.calls p.future = some (.admitted call)) :
    call.Active ∧ call.admission.command.id = c ∧ call.admission.entry p.future = p := by
  obtain ⟨call', hcall', hactive, hid, hentry⟩ := hinv.owner c p hc
  obtain rfl : call' = call := by simpa [hcall'] using hcall
  exact ⟨hactive, hid, hentry⟩

/-- Dropping the entries of a device keeps the invariant, whatever happens to the
connection of that device. -/
theorem Inv.dropPending {s t : State} {deviceId : UUID} (hinv : Inv s)
    (hpending : t.pending = s.pending) (hfutures : t.futures = s.futures)
    (hcalls : t.calls = s.calls)
    (hconnections : ∀ d, d ≠ deviceId → t.connections.lookup d = s.connections.lookup d) :
    Inv (Operations.dropPending deviceId t) := by
  have hlookup : ∀ c p, (Operations.dropPending deviceId t).pending.lookup c = some p ↔
      s.pending.lookup c = some p ∧ p.deviceId ≠ deviceId := by
    intro c p
    rw [dropPending_lookup, hpending]
  refine ⟨?_, ?_, ?_, ?_⟩
  · intro c p hc
    obtain ⟨hc, hd⟩ := (hlookup c p).mp hc
    rw [dropPending_connections, hconnections _ hd]
    exact hinv.live c p hc
  · intro c p hc
    rw [dropPending_calls, hcalls]
    exact hinv.owner c p ((hlookup c p).mp hc).1
  · intro c p hc
    obtain ⟨hc, hd⟩ := (hlookup c p).mp hc
    rw [dropPending_futures_of_kept, hfutures]
    · exact hinv.unresolved c p hc
    · intro c' p' hc' hx
      rw [hpending] at hc'
      obtain ⟨call, hcall, -, -, hentry⟩ := hinv.owner c p hc
      -- Both entries belong to the call that made the future.
      have hentry' := (hinv.entry_eq hc' (hx ▸ hcall)).2.2
      rw [hx] at hentry'
      rwa [← hentry', hentry]
  · intro x call hcall hactive hfuture
    rw [dropPending_calls, hcalls] at hcall
    by_contra hnone
    have hs : s.futures x ≠ .pending ∨
        s.pending.lookup call.admission.command.id = some (call.admission.entry x) := by
      by_cases hx : s.futures x = .pending
      · exact .inr (hinv.owned x call hcall hactive hx)
      · exact .inl hx
    rcases hs with hdone | hentry
    · rw [dropPending_futures_of_kept, hfutures] at hfuture
      · exact hdone hfuture
      · rintro c p hc rfl
        rw [hpending] at hc
        exact absurd (hinv.unresolved c p hc) hdone
    · have hd : (call.admission.entry x).deviceId = deviceId := by
        by_contra hd
        exact hnone ((hlookup _ _).mpr ⟨hentry, hd⟩)
      have hdone := dropPending_futures_of_entry (s := t) (hpending ▸ hentry) hd
      rw [show (call.admission.entry x).future = x from rfl, hfuture] at hdone
      simp at hdone

/-- Rewriting the record of a live connection keeps the invariant as long as the
session stays and the connection does not leave `ONLINE`. -/
theorem Inv.updateConnection {s : State} {deviceId : UUID} {k k' : LiveConnection}
    (hinv : Inv s) (hk : s.connections.lookup deviceId = some k)
    (hsession : k'.sessionId = k.sessionId) (hstatus : k.status = .online → k'.status = .online) :
    Inv { s with connections := s.connections.insert deviceId k' } := by
  refine ⟨?_, hinv.owner, hinv.unresolved, hinv.owned⟩
  intro c p hc
  obtain ⟨k₀, hk₀, hs₀, honline⟩ := hinv.live c p hc
  by_cases hd : p.deviceId = deviceId
  · rw [hd, hk] at hk₀
    obtain rfl := Option.some.inj hk₀
    refine ⟨k', ?_, hsession.trans hs₀, hstatus honline⟩
    rw [Dict.lookup_insert_eq, if_pos hd]
  · refine ⟨k₀, ?_, hs₀, honline⟩
    show (s.connections.insert deviceId k').lookup p.deviceId = some k₀
    rw [Dict.lookup_insert_eq, if_neg hd, hk₀]

theorem Inv.setLock {s : State} (hinv : Inv s) (connection : Nat) (lock : Lock Nat) :
    Inv (setLock s connection lock) :=
  ⟨hinv.live, hinv.owner, hinv.unresolved, hinv.owned⟩

theorem Inv.advance {s : State} {x : Nat} {call call' : AdmittedCall} (hinv : Inv s)
    (hcall : s.calls x = some (.admitted call)) (hadmission : call'.admission = call.admission)
    (hactive : call.Active) (hactive' : call'.Active) :
    Inv (setCall s x (.admitted call')) := by
  refine ⟨hinv.live, ?_, hinv.unresolved, ?_⟩
  · intro c p hc
    obtain ⟨owner, howner, hown, hid, hentry⟩ := hinv.owner c p hc
    by_cases hx : p.future = x
    · subst hx
      obtain rfl : owner = call := by simpa [howner] using hcall
      exact ⟨call', by simp [setCall], hactive', hadmission ▸ hid, hadmission ▸ hentry⟩
    · exact ⟨owner, by simp [setCall, Function.update_of_ne hx, howner], hown, hid, hentry⟩
  · intro y other hother hown hfuture
    by_cases hx : y = x
    · subst hx
      obtain rfl : call' = other := by simpa [setCall] using hother
      rw [hadmission]
      exact hinv.owned y call hcall hactive hfuture
    · simp only [setCall, Function.update_of_ne hx] at hother
      exact hinv.owned y other hother hown hfuture

theorem cleanUp_lookup {s : State} {x : Nat} {call : AdmittedCall} {outcome : Outcome}
    (hinv : Inv s) (hcall : s.calls x = some (.admitted call)) {c : UUID} {p : PendingCommand} :
    (cleanUp s x call outcome).pending.lookup c = some p ↔
      s.pending.lookup c = some p ∧ p.future ≠ x := by
  have hown : ∀ c p, s.pending.lookup c = some p → p.future = x →
      call.admission.command.id = c := by
    rintro c p hc rfl
    exact (hinv.entry_eq hc hcall).2.1
  simp only [cleanUp]
  split
  · rename_i hentry
    obtain ⟨q, hq, hx⟩ := Option.map_eq_some_iff.mp hentry
    rw [Dict.lookup_erase_eq]
    by_cases hc : c = call.admission.command.id
    · subst hc
      simp only [ite_true, reduceCtorEq, hq, Option.some.injEq, false_iff]
      rintro ⟨rfl, hne⟩
      exact hne hx
    · rw [if_neg hc]
      constructor
      · intro hp
        exact ⟨hp, fun hx => hc (hown c p hp hx).symm⟩
      · exact fun h => h.1
  · rename_i hentry
    constructor
    · intro hp
      refine ⟨hp, fun hx => hentry ?_⟩
      rw [hown c p hp hx, hp, Option.map_some, hx]
    · exact fun h => h.1

theorem Inv.cleanUp {s : State} {x : Nat} {call : AdmittedCall} (hinv : Inv s)
    (hcall : s.calls x = some (.admitted call)) (outcome : Outcome) :
    Inv (Execution.cleanUp s x call outcome) := by
  refine ⟨?_, ?_, ?_, ?_⟩
  · intro c p hc
    exact hinv.live c p ((cleanUp_lookup hinv hcall).mp hc).1
  · intro c p hc
    obtain ⟨hc, hx⟩ := (cleanUp_lookup hinv hcall).mp hc
    obtain ⟨owner, howner, hown, hid, hentry⟩ := hinv.owner c p hc
    exact ⟨owner, by simp [Execution.cleanUp, Function.update_of_ne hx, howner], hown, hid, hentry⟩
  · intro c p hc
    obtain ⟨hc, hx⟩ := (cleanUp_lookup hinv hcall).mp hc
    simpa [Execution.cleanUp, Function.update_of_ne hx] using hinv.unresolved c p hc
  · intro y other hother hown hfuture
    by_cases hx : y = x
    · subst hx
      obtain rfl := by simpa [Execution.cleanUp] using hother
      exact absurd rfl (hown outcome)
    · simp only [Execution.cleanUp, Function.update_of_ne hx] at hother hfuture
      exact (cleanUp_lookup hinv hcall).mpr ⟨hinv.owned y other hother hown hfuture, hx⟩

theorem Inv.refuse {s : State} {x : Nat} (hinv : Inv s) (hx : s.calls x = none)
    (command : DeviceCommand) (error : Raised) :
    Inv (setCall s x (.refused command error)) := by
  refine ⟨hinv.live, ?_, hinv.unresolved, ?_⟩
  · intro c p hc
    obtain ⟨owner, howner, hown, hid, hentry⟩ := hinv.owner c p hc
    have hne : p.future ≠ x := by
      rintro rfl
      simp [hx] at howner
    exact ⟨owner, by simp [setCall, Function.update_of_ne hne, howner], hown, hid, hentry⟩
  · intro y other hother hown hfuture
    by_cases hyx : y = x
    · subst hyx
      simp [setCall] at hother
    · simp only [setCall, Function.update_of_ne hyx] at hother
      exact hinv.owned y other hother hown hfuture

theorem waitingForLock_active (a : Admission) (cancelRequested : Bool) :
    AdmittedCall.Active ⟨a, cancelRequested, .waitingForLock⟩ := by
  intro outcome h
  cases h

theorem Inv.register {s : State} {x : Nat} {command : DeviceCommand} {timeoutSeconds : Int}
    {now : AwareDatetime} {k : LiveConnection} (hinv : Inv s) (hx : s.calls x = none)
    (hallowed : checkAdmission s command timeoutSeconds now = .ok k) :
    Inv (register s x (admissionOf command timeoutSeconds k)) := by
  obtain ⟨hk, honline, -, hfree, -⟩ := admission_eq_ok hallowed
  have hnew : ∀ c p, s.pending.lookup c = some p → p.future ≠ x := by
    rintro c p hc rfl
    obtain ⟨owner, howner, -⟩ := hinv.owner c p hc
    simp [hx] at howner
  have hlookup : ∀ c p,
      (Execution.register s x (admissionOf command timeoutSeconds k)).pending.lookup c = some p ↔
        (c = command.id ∧ p = (admissionOf command timeoutSeconds k).entry x) ∨
          s.pending.lookup c = some p := by
    intro c p
    simp only [Execution.register, Dict.lookup_insert_eq]
    by_cases hc : c = command.id
    · subst hc
      simp [admissionOf, hfree, eq_comm]
    · simp [admissionOf, hc]
  refine ⟨?_, ?_, ?_, ?_⟩
  · intro c p hc
    rcases (hlookup c p).mp hc with ⟨rfl, rfl⟩ | hc
    · exact ⟨k, hk, rfl, honline⟩
    · exact hinv.live c p hc
  · intro c p hc
    rcases (hlookup c p).mp hc with ⟨rfl, rfl⟩ | hc
    · exact ⟨⟨admissionOf command timeoutSeconds k, false, .waitingForLock⟩,
        by simp [Execution.register, Admission.entry],
        waitingForLock_active _ _, rfl, rfl⟩
    · obtain ⟨owner, howner, hown, hid, hentry⟩ := hinv.owner c p hc
      exact ⟨owner, by simp [Execution.register, Function.update_of_ne (hnew c p hc), howner],
        hown, hid, hentry⟩
  · intro c p hc
    rcases (hlookup c p).mp hc with ⟨rfl, rfl⟩ | hc
    · simp [Execution.register, Admission.entry]
    · simpa [Execution.register, Function.update_of_ne (hnew c p hc)] using hinv.unresolved c p hc
  · intro y other hother hown hfuture
    by_cases hyx : y = x
    · subst hyx
      obtain rfl := by simpa [Execution.register] using hother
      exact (hlookup _ _).mpr (.inl ⟨rfl, rfl⟩)
    · simp only [Execution.register, Function.update_of_ne hyx] at hother hfuture
      exact (hlookup _ _).mpr (.inr (hinv.owned y other hother hown hfuture))

theorem Inv.send {s : State} {x : Nat} {call : AdmittedCall} (hinv : Inv s)
    (hcall : s.calls x = some (.admitted call)) (hactive : call.Active) :
    Inv (Execution.send s x call).1 := by
  rcases send_cases s x call with ⟨-, h⟩ | ⟨-, h⟩
  · rw [h]
    exact hinv.advance hcall rfl hactive (by intro outcome h; cases h)
  · rw [h]
    exact (hinv.setLock _ _).cleanUp hcall _

theorem Inv.execute {s : State} {x : Nat} (hinv : Inv s) (hx : s.calls x = none)
    (command : DeviceCommand) (timeoutSeconds : Int) (now : AwareDatetime) :
    Inv (Execution.execute s x command timeoutSeconds now).1 := by
  rcases execute_cases s x command timeoutSeconds now with
    ⟨error, -, h⟩ | ⟨k, lock, hallowed, h⟩
  · rw [h]
    exact hinv.refuse hx _ _
  · have hregistered := (hinv.register hx hallowed).setLock k.ref lock
    rcases h with h | h <;> rw [h]
    · exact hregistered.send (by simp [Execution.setLock, Execution.register])
        (waitingForLock_active _ _)
    · exact hregistered

theorem Inv.disconnect {s : State} (hinv : Inv s) (deviceId sessionId : UUID) :
    Inv (Operations.disconnect s deviceId sessionId).1 := by
  rcases disconnect_cases s deviceId sessionId with h | ⟨k, -, -, h⟩
  · rw [h]
    exact hinv
  · rw [h]
    refine hinv.dropPending rfl rfl rfl ?_
    intro d hd
    exact AList.lookup_erase_ne hd

theorem Inv.resolve {s : State} (hinv : Inv s) (deviceId sessionId : UUID)
    (result : DeviceCommandResult) : Inv (Operations.resolve s deviceId sessionId result).1 := by
  rcases resolve_cases s deviceId sessionId result with ⟨h, -⟩ | ⟨p, haddressed, h⟩
  · rw [h]
    exact hinv
  have hp := haddressed.1
  have hne : ∀ c q, s.pending.lookup c = some q → c ≠ result.commandId → q.future ≠ p.future := by
    intro c q hc hne hx
    obtain ⟨owner, howner, -, hid, -⟩ := hinv.owner _ p hp
    exact hne ((hinv.entry_eq hc (hx ▸ howner)).2.1.symm.trans hid)
  rcases h with ⟨hdone, -⟩ | ⟨-, h⟩
  · simp [hinv.unresolved _ p hp] at hdone
  rw [h]
  have hlookup : ∀ c q, (s.pending.erase result.commandId).lookup c = some q →
      s.pending.lookup c = some q ∧ c ≠ result.commandId := by
    intro c q hc
    rw [Dict.lookup_erase_eq] at hc
    split at hc
    · cases hc
    · rename_i hcne
      exact ⟨hc, hcne⟩
  refine ⟨?_, ?_, ?_, ?_⟩
  · intro c q hc
    exact hinv.live c q (hlookup c q hc).1
  · intro c q hc
    exact hinv.owner c q (hlookup c q hc).1
  · intro c q hc
    obtain ⟨hc, hcne⟩ := hlookup c q hc
    simpa [Function.update_of_ne (hne c q hc hcne)] using hinv.unresolved c q hc
  · intro x call hcall hactive hfuture
    by_cases hx : x = p.future
    · subst hx
      simp at hfuture
    · simp only [Function.update_of_ne hx] at hfuture
      have hentry := hinv.owned x call hcall hactive hfuture
      show (s.pending.erase result.commandId).lookup _ = _
      rw [Dict.lookup_erase_eq, if_neg, hentry]
      intro hid
      rw [hid, hp] at hentry
      exact hx (congrArg PendingCommand.future (Option.some.inj hentry)).symm

theorem Inv.closeAll {s : State} (hinv : Inv s) : Inv (Operations.closeAll s).1 := by
  refine ⟨?_, ?_, ?_, ?_⟩
  · intro c p hc
    simp [Operations.closeAll] at hc
  · intro c p hc
    simp [Operations.closeAll] at hc
  · intro c p hc
    simp [Operations.closeAll] at hc
  · intro x call hcall hactive hfuture
    by_cases hx : s.futures x = .pending
    · -- The entry of the call is backed by a connection, so the loop over the
      -- connections reaches it.
      have hentry := hinv.owned x call hcall hactive hx
      obtain ⟨k, hk, -, -⟩ := hinv.live _ _ hentry
      have hdone : ((Operations.closeAll s).1.futures x).done = true :=
        failPendingOf_of_entry (Dict.mem_values.mpr ⟨_, hentry⟩) (mem_closeAll_connections.mpr hk)
      rw [hfuture] at hdone
      simp at hdone
    · have hdone : ((Operations.closeAll s).1.futures x).done = true := by
        apply failPendingOf_done
        cases hf : s.futures x with
        | pending => exact absurd hf hx
        | result | exception | cancelled => rfl
      rw [hfuture] at hdone
      simp at hdone

theorem disconnect_calls (s : State) (deviceId sessionId : UUID) :
    (Operations.disconnect s deviceId sessionId).1.calls = s.calls := by
  rcases disconnect_cases s deviceId sessionId with h | ⟨k, -, -, h⟩
  · rw [h]
  · rw [h]
    rfl

theorem active_of_stage {call : AdmittedCall} {stage : Stage} (hstage : call.stage = stage)
    (hne : ∀ outcome, stage ≠ .finished outcome) : call.Active := by
  intro outcome h
  exact hne outcome (hstage.symm.trans h)

theorem Inv.continue {s : State} {x : Nat} {call : AdmittedCall} {r : Result} (hinv : Inv s)
    (hcall : s.calls x = some (.admitted call)) :
    (resumeLock s x call = some r → Inv r.1) ∧
      (∀ failure now, completeSend s x call failure now = some r → Inv r.1) ∧
      (copyResult s x call = some r → Inv r.1) ∧ (fireTimer s x call = some r → Inv r.1) ∧
      (resumeWait s x call = some r → Inv r.1) ∧ (cancel s x call = some r → Inv r.1) := by
  refine ⟨?_, ?_, ?_, ?_, ?_, ?_⟩
  · intro h
    obtain ⟨hstage, lock, ⟨-, rfl⟩ | ⟨-, rfl⟩⟩ := resumeLock_cases h
    · exact (hinv.setLock _ _).cleanUp hcall _
    · exact (hinv.setLock _ _).send hcall (active_of_stage hstage (by simp))
  · intro failure now h
    obtain ⟨hstage, ⟨-, rfl⟩ | ⟨error, -, ⟨-, rfl⟩ | ⟨-, -, rfl⟩⟩⟩ := completeSend_cases h
    · have hreleased : Inv (releaseSendLock s call.admission) := hinv.setLock _ _
      rcases beginWait_cases (releaseSendLock s call.admission) x call now with ⟨-, h⟩ | ⟨-, h⟩
      · rw [h]
        exact hreleased.cleanUp hcall _
      · rw [h]
        exact hreleased.advance hcall rfl (active_of_stage hstage (by simp))
          (active_of_stage rfl (by simp))
    · refine ((hinv.disconnect _ _).setLock _ _).cleanUp ?_ _
      simp only [Execution.setLock, disconnect_calls]
      exact hcall
    · exact (hinv.setLock _ _).cleanUp hcall _
  · intro h
    obtain ⟨w, hstage, -, -, rfl⟩ := copyResult_cases h
    exact hinv.advance hcall rfl (active_of_stage hstage (by simp)) (active_of_stage rfl (by simp))
  · intro h
    obtain ⟨w, hstage, -, rfl⟩ := fireTimer_cases h
    exact hinv.advance hcall rfl (active_of_stage hstage (by simp)) (active_of_stage rfl (by simp))
  · intro h
    obtain ⟨w, -, -, rfl⟩ := resumeWait_cases h
    exact hinv.cleanUp hcall _
  · intro h
    obtain ⟨lock, stage, hstages, rfl⟩ := cancel_cases h
    have hactive : call.Active ∧ ∀ outcome, stage ≠ .finished outcome := by
      rcases hstages with ⟨hstage, rfl⟩ | ⟨hstage, rfl⟩ | ⟨w, hstage, rfl⟩
      all_goals exact ⟨active_of_stage hstage (by simp), by simp⟩
    exact (hinv.setLock _ _).advance hcall rfl hactive.1 (active_of_stage rfl hactive.2)

theorem Inv.step {s t : State} {action : Action} {events : List TransportCall} (hinv : Inv s)
    (h : step s action = some (t, events)) : Inv t := by
  cases action with
  | connect deviceId transport sessionId now =>
      cases h
      refine hinv.dropPending rfl rfl rfl ?_
      intro d hd
      exact AList.lookup_insert_ne hd
  | activate deviceId sessionId advertised effective now =>
      simp only [Execution.step] at h
      split at h
      · rename_i t' hactivate
        cases h
        obtain ⟨k, k', hk, -, -, hsession, -, honline, -, -, rfl⟩ := activate_eq_ok hactivate
        exact hinv.updateConnection hk hsession (fun _ => honline)
      · cases h
        exact hinv
  | disconnect deviceId sessionId =>
      cases h
      exact hinv.disconnect deviceId sessionId
  | disconnectDevice deviceId code reason =>
      cases h
      refine hinv.dropPending rfl rfl rfl ?_
      intro d hd
      exact AList.lookup_erase_ne hd
  | touch deviceId sessionId now =>
      cases h
      rcases touch_cases s deviceId sessionId now with h | ⟨k, hk, -, h⟩
      · rw [h]
        exact hinv
      · rw [h]
        exact hinv.updateConnection hk rfl id
  | resolve deviceId sessionId result =>
      cases h
      exact hinv.resolve deviceId sessionId result
  | closeAll =>
      cases h
      exact hinv.closeAll
  | execute x command timeoutSeconds now =>
      simp only [Execution.step] at h
      split at h
      · rename_i hx
        have := hinv.execute hx command timeoutSeconds now
        rwa [Option.some.inj h] at this
      · cases h
  | resumeLock x =>
      obtain ⟨call, hcall, h⟩ := onCall_eq_some h
      exact (hinv.continue hcall).1 h
  | completeSend x failure now =>
      obtain ⟨call, hcall, h⟩ := onCall_eq_some h
      exact (hinv.continue hcall).2.1 failure now h
  | copyResult x =>
      obtain ⟨call, hcall, h⟩ := onCall_eq_some h
      exact (hinv.continue hcall).2.2.1 h
  | fireTimer x =>
      obtain ⟨call, hcall, h⟩ := onCall_eq_some h
      exact (hinv.continue hcall).2.2.2.1 h
  | resumeWait x =>
      obtain ⟨call, hcall, h⟩ := onCall_eq_some h
      exact (hinv.continue hcall).2.2.2.2.1 h
  | cancel x =>
      obtain ⟨call, hcall, h⟩ := onCall_eq_some h
      exact (hinv.continue hcall).2.2.2.2.2 h

theorem inv_of_reachable {s : State} (hs : Reachable manager s) : Inv s :=
  hs.invariant Inv inv_initial fun _ _ _ _ hinv h => hinv.step h

end JarvisCore.Manager.Invariant
