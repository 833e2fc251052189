import JarvisCore.Manager.Evolution

namespace JarvisCore.Manager.Connections

open JarvisCore.Domain.Values
open JarvisCore.Domain.Errors
open JarvisCore.Domain.Models
open JarvisCore.Foundation.AsyncIO
open JarvisCore.Foundation.Dictionary
open JarvisCore.Foundation.TransitionSystem
open JarvisCore.Manager.Operations
open JarvisCore.Manager.Execution
open JarvisCore.Manager.Invariant
open JarvisCore.Manager.Evolution

/-- The effective set that a successful `activate` of the device announces. -/
def announced (s : State) (deviceId : UUID) : Action → Option (Finset DeviceCapability)
  | .activate d sessionId advertised effective now =>
      if d = deviceId then
        match activate s d sessionId advertised effective now with
        | .ok _ => some effective
        | .error _ => none
      else none
  | _ => none

/-- The same connection object, whose capabilities and times may have changed. -/
structure SameConnection (k k' : LiveConnection) : Prop where
  ref : k'.ref = k.ref
  sessionId : k'.sessionId = k.sessionId
  transport : k'.transport = k.transport

theorem SameConnection.refl (k : LiveConnection) : SameConnection k k := ⟨rfl, rfl, rfl⟩

theorem SameConnection.trans {a b c : LiveConnection} (hab : SameConnection a b)
    (hbc : SameConnection b c) : SameConnection a c :=
  ⟨hbc.ref.trans hab.ref, hbc.sessionId.trans hab.sessionId, hbc.transport.trans hab.transport⟩

/-- The steps that take the connection of a device out of the map: an operation on
the device, or a send that fails on its current session. -/
def Drops (s : State) (deviceId : UUID) : Action → Prop
  | .disconnect d sessionId =>
      d = deviceId ∧ ∃ k, s.connections.lookup deviceId = some k ∧ k.sessionId = sessionId
  | .disconnectDevice d _ _ => d = deviceId
  | .closeAll => True
  | .completeSend x (some error) _ =>
      error.isException = true ∧ ∃ call k, s.calls x = some (.admitted call) ∧
        call.stage = .sending ∧ call.admission.command.deviceId = deviceId ∧
        s.connections.lookup deviceId = some k ∧ k.sessionId = call.admission.sessionId
  | _ => False

/-- What a step can do to the connection of a device. -/
inductive ConnectionStep (s t : State) (deviceId : UUID) : Action → Prop
  | kept {action : Action} : announced s deviceId action = none →
      t.connections.lookup deviceId = s.connections.lookup deviceId →
      ConnectionStep s t deviceId action
  | dropped {action : Action} : Drops s deviceId action →
      t.connections.lookup deviceId = none →
      ConnectionStep s t deviceId action
  | connected {transport : Nat} {sessionId : UUID} {now : AwareDatetime} (k : LiveConnection) :
      t.connections.lookup deviceId = some k → k.ref = s.nextRef → t.nextRef = s.nextRef + 1 →
      k.sessionId = sessionId → k.transport = transport → k.status = .connecting →
      k.advertisedCapabilities = ∅ → k.effectiveCapabilities = ∅ →
      ConnectionStep s t deviceId (.connect deviceId transport sessionId now)
  | activated {sessionId : UUID} {advertised effective : Finset DeviceCapability}
      {now : AwareDatetime} (k k' : LiveConnection) :
      activate s deviceId sessionId advertised effective now = .ok t →
      s.connections.lookup deviceId = some k → k.sessionId = sessionId →
      t.connections.lookup deviceId = some k' → SameConnection k k' → k'.status = .online →
      k'.advertisedCapabilities = advertised → k'.effectiveCapabilities = effective →
      ConnectionStep s t deviceId (.activate deviceId sessionId advertised effective now)
  | touched {sessionId : UUID} {now : AwareDatetime} (k : LiveConnection) :
      s.connections.lookup deviceId = some k → k.sessionId = sessionId →
      t.connections.lookup deviceId = some { k with lastSeenAt := now } →
      ConnectionStep s t deviceId (.touch deviceId sessionId now)

theorem send_connections (s : State) (x : Nat) (call : AdmittedCall) :
    (send s x call).1.connections = s.connections := by
  rcases send_cases s x call with ⟨-, h⟩ | ⟨-, h⟩
  all_goals
    rw [h]
    rfl

theorem execute_connections (s : State) (x : Nat) (command : DeviceCommand)
    (timeoutSeconds : Int) (now : AwareDatetime) :
    (execute s x command timeoutSeconds now).1.connections = s.connections := by
  rcases execute_cases s x command timeoutSeconds now with ⟨error, -, h⟩ | ⟨k, lock, -, h | h⟩
  · rw [h]
    rfl
  · rw [h]
    exact send_connections _ _ _
  · rw [h]
    rfl

theorem disconnect_lookup (s : State) (deviceId sessionId d : UUID) :
    (disconnect s deviceId sessionId).1.connections.lookup d = s.connections.lookup d ∨
      (d = deviceId ∧ (disconnect s deviceId sessionId).1.connections.lookup d = none ∧
        ∃ k, s.connections.lookup d = some k ∧ k.sessionId = sessionId) := by
  rcases disconnect_cases s deviceId sessionId with h | ⟨k, hk, hsession, h⟩
  · rw [h]
    exact .inl rfl
  · rw [h]
    simp only [dropPending_connections, Dict.lookup_erase_eq]
    split
    · rename_i hd
      subst hd
      exact .inr ⟨rfl, rfl, k, hk, hsession⟩
    · exact .inl rfl

theorem disconnect_current {s : State} {deviceId : UUID} {k : LiveConnection}
    (hk : s.connections.lookup deviceId = some k) :
    (disconnect s deviceId k.sessionId).1.connections.lookup deviceId = none := by
  unfold disconnect
  rw [hk]
  dsimp only
  rw [if_neg (not_not.mpr rfl)]
  exact AList.lookup_erase _ _

/-- Of the own steps of a call, only the failure of its send touches a connection,
and that of its own session. -/
theorem continue_connections {s : State} {x : Nat} {call : AdmittedCall} {r : Result} :
    (resumeLock s x call = some r → r.1.connections = s.connections) ∧
      (∀ failure now, completeSend s x call failure now = some r →
        r.1.connections = s.connections ∨
        ∃ error, failure = some error ∧ error.isException = true ∧ call.stage = .sending ∧
          r.1.connections =
            (disconnect s call.admission.command.deviceId call.admission.sessionId).1.connections) ∧
      (copyResult s x call = some r → r.1.connections = s.connections) ∧
      (fireTimer s x call = some r → r.1.connections = s.connections) ∧
      (resumeWait s x call = some r → r.1.connections = s.connections) ∧
      (cancel s x call = some r → r.1.connections = s.connections) := by
  refine ⟨?_, ?_, ?_, ?_, ?_, ?_⟩
  · intro h
    obtain ⟨-, lock, ⟨-, rfl⟩ | ⟨-, rfl⟩⟩ := resumeLock_cases h
    · rfl
    · exact send_connections _ _ _
  · intro failure now h
    obtain ⟨hstage, ⟨-, rfl⟩ | ⟨error, hfailure, ⟨hexception, rfl⟩ | ⟨-, -, rfl⟩⟩⟩ :=
      completeSend_cases h
    · rcases beginWait_cases (releaseSendLock s call.admission) x call now with ⟨-, h⟩ | ⟨-, h⟩
      all_goals
        rw [h]
        exact .inl rfl
    · exact .inr ⟨error, hfailure, hexception, hstage, rfl⟩
    · exact .inl rfl
  · intro h
    obtain ⟨w, -, -, -, rfl⟩ := copyResult_cases h
    rfl
  · intro h
    obtain ⟨w, -, -, rfl⟩ := fireTimer_cases h
    rfl
  · intro h
    obtain ⟨w, -, -, rfl⟩ := resumeWait_cases h
    rfl
  · intro h
    obtain ⟨lock, stage, -, rfl⟩ := cancel_cases h
    rfl

theorem activate_step (s t : State) {d sessionId : UUID}
    {advertised effective : Finset DeviceCapability} {now : AwareDatetime}
    (hactivate : activate s d sessionId advertised effective now = .ok t) (deviceId : UUID) :
    ConnectionStep s t deviceId (.activate d sessionId advertised effective now) := by
  obtain ⟨k, k', hk, hsession, href, hsession', htransport, honline, hadvertised, heffective, ht⟩ :=
    activate_eq_ok hactivate
  by_cases hd : deviceId = d
  · subst hd
    refine .activated k k' hactivate hk hsession ?_ ⟨href, hsession', htransport⟩ honline
      hadvertised heffective
    rw [ht]
    exact AList.lookup_insert _
  · refine .kept (if_neg fun h => hd h.symm) ?_
    rw [ht]
    exact AList.lookup_insert_ne hd

/-- The connection of a device changes only by an operation on that device, or when
a command's send fails on its session. -/
theorem step_connection {s t : State} {action : Action} {events : List TransportCall}
    (h : step s action = some (t, events)) (deviceId : UUID) :
    ConnectionStep s t deviceId action := by
  have unchanged {r : Result} (hr : some r = some (t, events))
      (hquiet : announced s deviceId action = none)
      (hconnections : r.1.connections = s.connections) : ConnectionStep s t deviceId action := by
    refine .kept hquiet ?_
    have ht : r.1 = t := congrArg Prod.fst (Option.some.inj hr)
    rw [← ht, hconnections]
  cases action with
  | connect d transport sessionId now =>
      cases h
      by_cases hd : deviceId = d
      · subst hd
        exact .connected _ (AList.lookup_insert _) rfl rfl rfl rfl rfl rfl rfl
      · exact .kept rfl (AList.lookup_insert_ne hd)
  | activate d sessionId advertised effective now =>
      cases hactivate : activate s d sessionId advertised effective now with
      | ok t' =>
          simp only [step, hactivate] at h
          cases h
          exact activate_step s t hactivate deviceId
      | error error =>
          simp only [step, hactivate] at h
          cases h
          refine .kept ?_ rfl
          simp [announced, hactivate]
  | disconnect d sessionId =>
      cases h
      rcases disconnect_lookup s d sessionId deviceId with hkept | ⟨rfl, hdropped, hcurrent⟩
      · exact .kept rfl hkept
      · exact .dropped ⟨rfl, hcurrent⟩ hdropped
  | disconnectDevice d code reason =>
      cases h
      by_cases hd : deviceId = d
      · subst hd
        exact .dropped rfl (AList.lookup_erase _ _)
      · exact .kept rfl (AList.lookup_erase_ne hd)
  | touch d sessionId now =>
      cases h
      rcases touch_cases s d sessionId now with h | ⟨k, hk, hsession, h⟩
      · rw [h]
        exact .kept rfl rfl
      · rw [h]
        by_cases hd : deviceId = d
        · subst hd
          exact .touched k hk hsession (AList.lookup_insert _)
        · exact .kept rfl (AList.lookup_insert_ne hd)
  | resolve d sessionId result =>
      cases h
      refine .kept rfl ?_
      rcases resolve_cases s d sessionId result with ⟨h, -⟩ | ⟨p, -, ⟨-, h⟩ | ⟨-, h⟩⟩
      all_goals rw [h]
  | closeAll =>
      cases h
      exact .dropped trivial rfl
  | execute x command timeoutSeconds now =>
      simp only [step] at h
      split at h
      · exact unchanged h rfl (execute_connections s x command timeoutSeconds now)
      · cases h
  | resumeLock x =>
      obtain ⟨call, -, hr⟩ := onCall_eq_some h
      exact unchanged rfl rfl (continue_connections.1 hr)
  | completeSend x failure now =>
      obtain ⟨call, hcall, hr⟩ := onCall_eq_some h
      rcases continue_connections.2.1 _ _ hr with
        hconnections | ⟨error, rfl, hexception, hstage, hconnections⟩
      · exact unchanged rfl rfl hconnections
      · have hlookup := congrArg (AList.lookup deviceId) hconnections
        rcases disconnect_lookup s call.admission.command.deviceId call.admission.sessionId
          deviceId with hkept | ⟨hd, hdropped, k, hk, hsession⟩
        · exact .kept rfl (hlookup.trans hkept)
        · exact .dropped ⟨hexception, call, k, hcall, hstage, hd.symm, hk, hsession⟩
            (hlookup.trans hdropped)
  | copyResult x =>
      obtain ⟨call, -, hr⟩ := onCall_eq_some h
      exact unchanged rfl rfl (continue_connections.2.2.1 hr)
  | fireTimer x =>
      obtain ⟨call, -, hr⟩ := onCall_eq_some h
      exact unchanged rfl rfl (continue_connections.2.2.2.1 hr)
  | resumeWait x =>
      obtain ⟨call, -, hr⟩ := onCall_eq_some h
      exact unchanged rfl rfl (continue_connections.2.2.2.2.1 hr)
  | cancel x =>
      obtain ⟨call, -, hr⟩ := onCall_eq_some h
      exact unchanged rfl rfl (continue_connections.2.2.2.2.2 hr)

theorem send_nextRef (s : State) (x : Nat) (call : AdmittedCall) :
    (send s x call).1.nextRef = s.nextRef := by
  rcases send_cases s x call with ⟨-, h⟩ | ⟨-, h⟩
  all_goals
    rw [h]
    rfl

theorem disconnect_nextRef (s : State) (deviceId sessionId : UUID) :
    (disconnect s deviceId sessionId).1.nextRef = s.nextRef := by
  rcases disconnect_cases s deviceId sessionId with h | ⟨k, -, -, h⟩
  · rw [h]
  · rw [h]
    rfl

/-- References to connections are never given out again. -/
theorem step_nextRef {s t : State} {action : Action} {events : List TransportCall}
    (h : step s action = some (t, events)) : s.nextRef ≤ t.nextRef := by
  have same {r : Result} (hr : some r = some (t, events)) (hnext : r.1.nextRef = s.nextRef) :
      s.nextRef ≤ t.nextRef := by
    have ht : r.1 = t := congrArg Prod.fst (Option.some.inj hr)
    rw [← ht, hnext]
  cases action with
  | connect d transport sessionId now =>
      cases h
      exact Nat.le_succ _
  | activate d sessionId advertised effective now =>
      simp only [step] at h
      split at h
      · rename_i t' hactivate
        cases h
        obtain ⟨k, k', -, -, -, -, -, -, -, -, rfl⟩ := activate_eq_ok hactivate
        exact le_rfl
      · cases h
        exact le_rfl
  | disconnect d sessionId => exact same h (disconnect_nextRef s d sessionId)
  | disconnectDevice d code reason => exact same h rfl
  | touch d sessionId now =>
      refine same h ?_
      rcases touch_cases s d sessionId now with h | ⟨k, -, -, h⟩
      all_goals
        rw [h]
  | resolve d sessionId result =>
      refine same h ?_
      rcases resolve_cases s d sessionId result with ⟨h, -⟩ | ⟨p, -, ⟨-, h⟩ | ⟨-, h⟩⟩
      all_goals
        rw [h]
  | closeAll => exact same h rfl
  | execute x command timeoutSeconds now =>
      simp only [step] at h
      split at h
      · refine same h ?_
        rcases execute_cases s x command timeoutSeconds now with
          ⟨error, -, hr⟩ | ⟨k, lock, -, hr | hr⟩
        · rw [hr]
          rfl
        · rw [hr]
          exact send_nextRef _ _ _
        · rw [hr]
          rfl
      · cases h
  | resumeLock x =>
      obtain ⟨call, -, hr⟩ := onCall_eq_some h
      obtain ⟨-, lock, ⟨-, hr⟩ | ⟨-, hr⟩⟩ := resumeLock_cases hr
      · cases hr
        exact le_rfl
      · exact same (congrArg some hr.symm) (send_nextRef _ _ _)
  | completeSend x failure now =>
      obtain ⟨call, -, hr⟩ := onCall_eq_some h
      obtain ⟨-, ⟨-, hr⟩ | ⟨error, -, ⟨-, hr⟩ | ⟨-, -, hr⟩⟩⟩ := completeSend_cases hr
      · refine same (congrArg some hr.symm) ?_
        rcases beginWait_cases (releaseSendLock s call.admission) x call now with
          ⟨-, h⟩ | ⟨-, h⟩
        all_goals
          rw [h]
          rfl
      · exact same (congrArg some hr.symm) (disconnect_nextRef s _ _)
      · cases hr
        exact le_rfl
  | copyResult x =>
      obtain ⟨call, -, hr⟩ := onCall_eq_some h
      obtain ⟨w, -, -, -, hr⟩ := copyResult_cases hr
      cases hr
      exact le_rfl
  | fireTimer x =>
      obtain ⟨call, -, hr⟩ := onCall_eq_some h
      obtain ⟨w, -, -, hr⟩ := fireTimer_cases hr
      cases hr
      exact le_rfl
  | resumeWait x =>
      obtain ⟨call, -, hr⟩ := onCall_eq_some h
      obtain ⟨w, -, -, hr⟩ := resumeWait_cases hr
      cases hr
      exact le_rfl
  | cancel x =>
      obtain ⟨call, -, hr⟩ := onCall_eq_some h
      obtain ⟨lock, stage, -, hr⟩ := cancel_cases hr
      cases hr
      exact le_rfl

/-- What holds when a step calls `send_command` for call `x`. -/
structure Dispatches (s t : State) (x transport : Nat) (command : DeviceCommand)
    (sessionId : UUID) (call : AdmittedCall) : Prop where
  admitted : t.calls x = some (.admitted call)
  sending : call.stage = .sending
  transport : call.admission.transport = transport
  command : call.admission.command = command
  sessionId : call.admission.sessionId = sessionId
  current : HoldsCurrent s call.admission
  connections : t.connections = s.connections

theorem send_dispatches {s : State} {x y transport : Nat} {call : AdmittedCall}
    {command : DeviceCommand} {sessionId : UUID}
    (hsend : .sendCommand y transport command sessionId ∈ (send s x call).2) :
    y = x ∧ Dispatches s (send s x call).1 x transport command sessionId
      { call with stage := .sending } := by
  rcases send_cases s x call with ⟨hcurrent, h⟩ | ⟨-, h⟩
  · rw [h] at hsend ⊢
    obtain ⟨rfl, rfl, rfl, rfl⟩ := by simpa using hsend
    exact ⟨rfl, setCall_calls_self _ _ _, rfl, rfl, rfl, rfl, hcurrent, rfl⟩
  · rw [h] at hsend
    cases hsend

/-- Only the own steps of an admitted call dispatch its command, and only on the
current connection of its device. -/
theorem step_dispatches {s t : State} {action : Action} {events : List TransportCall}
    (h : step s action = some (t, events)) {x transport : Nat} {command : DeviceCommand}
    {sessionId : UUID} (hsend : .sendCommand x transport command sessionId ∈ events) :
    actor action = some x ∧ ∃ call, Dispatches s t x transport command sessionId call := by
  have quiet {r : Result} (hr : some r = some (t, events)) (hevents : r.2 = []) : False := by
    have he : r.2 = events := congrArg Prod.snd (Option.some.inj hr)
    rw [← he, hevents] at hsend
    cases hsend
  have closes {code : Nat} {reason : String} {removed : List LiveConnection}
      (he : closeCalls code reason removed = events) : False := by
    rw [← he] at hsend
    simp [closeCalls] at hsend
  cases action with
  | connect d tr session now =>
      cases h
      exact (closes rfl).elim
  | activate d session advertised effective now =>
      simp only [step] at h
      split at h <;> exact (quiet h rfl).elim
  | disconnect d session => exact (quiet h rfl).elim
  | disconnectDevice d code reason =>
      cases h
      exact (closes rfl).elim
  | touch d session now => exact (quiet h rfl).elim
  | resolve d session result => exact (quiet h rfl).elim
  | closeAll =>
      cases h
      exact (closes rfl).elim
  | execute y cmd timeoutSeconds now =>
      simp only [step] at h
      split at h
      · rcases execute_cases s y cmd timeoutSeconds now with
          ⟨error, -, hr⟩ | ⟨k, lock, -, hr | hr⟩
        · exact (quiet h (by rw [hr])).elim
        · rw [hr] at h
          have hr := Option.some.inj h
          rw [show events = (send _ y _).2 from (congrArg Prod.snd hr).symm] at hsend
          obtain ⟨rfl, hdispatches⟩ := send_dispatches hsend
          rw [hr] at hdispatches
          exact ⟨rfl, _, hdispatches.admitted, hdispatches.sending, hdispatches.transport,
            hdispatches.command, hdispatches.sessionId, hdispatches.current,
            hdispatches.connections⟩
        · exact (quiet h (by rw [hr])).elim
      · cases h
  | resumeLock y =>
      obtain ⟨call, -, hr⟩ := onCall_eq_some h
      obtain ⟨-, lock, ⟨-, hr⟩ | ⟨-, hr⟩⟩ := resumeLock_cases hr
      · exact (quiet (congrArg some hr.symm) rfl).elim
      · rw [show events = (send _ y _).2 from congrArg Prod.snd hr] at hsend
        obtain ⟨rfl, hdispatches⟩ := send_dispatches hsend
        rw [← hr] at hdispatches
        exact ⟨rfl, _, hdispatches.admitted, hdispatches.sending, hdispatches.transport,
          hdispatches.command, hdispatches.sessionId, hdispatches.current,
          hdispatches.connections⟩
  | completeSend y failure now =>
      obtain ⟨call, -, hr⟩ := onCall_eq_some h
      obtain ⟨-, ⟨-, hr⟩ | ⟨error, -, ⟨-, hr⟩ | ⟨-, -, hr⟩⟩⟩ := completeSend_cases hr
      all_goals exact (quiet (congrArg some hr.symm) rfl).elim
  | copyResult y =>
      obtain ⟨call, -, hr⟩ := onCall_eq_some h
      obtain ⟨w, -, -, -, hr⟩ := copyResult_cases hr
      exact (quiet (congrArg some hr.symm) rfl).elim
  | fireTimer y =>
      obtain ⟨call, -, hr⟩ := onCall_eq_some h
      obtain ⟨w, -, -, hr⟩ := fireTimer_cases hr
      exact (quiet (congrArg some hr.symm) rfl).elim
  | resumeWait y =>
      obtain ⟨call, -, hr⟩ := onCall_eq_some h
      obtain ⟨w, -, -, hr⟩ := resumeWait_cases hr
      exact (quiet (congrArg some hr.symm) rfl).elim
  | cancel y =>
      obtain ⟨call, -, hr⟩ := onCall_eq_some h
      obtain ⟨lock, stage, -, hr⟩ := cancel_cases hr
      exact (quiet (congrArg some hr.symm) rfl).elim

/-- A send of `send_command` raises an `Exception` while its session is current. -/
def FailsSend (s : State) (deviceId : UUID) (k : LiveConnection) (action : Action) : Prop :=
  ∃ x error now call, action = .completeSend x (some error) now ∧ error.isException = true ∧
    s.calls x = some (.admitted call) ∧ call.stage = .sending ∧
    call.admission.command.deviceId = deviceId ∧ k.sessionId = call.admission.sessionId

theorem mem_closeCalls {code : Nat} {reason : String} {removed : List LiveConnection}
    {k : LiveConnection} (hk : k ∈ removed) :
    .close k.transport code reason ∈ closeCalls code reason removed :=
  List.mem_map.mpr ⟨k, hk, rfl⟩

/-- A connection stays what it is, or its transport is closed, or it is dropped by its own
handler or by a failed send. -/
theorem step_lost {s t : State} {action : Action} {events : List TransportCall}
    (h : step s action = some (t, events)) {deviceId : UUID} {k : LiveConnection}
    (hk : s.connections.lookup deviceId = some k) :
    (∃ k', t.connections.lookup deviceId = some k' ∧ SameConnection k k') ∨
      (∃ code reason, .close k.transport code reason ∈ events) ∨
      t.connections.lookup deviceId = none ∧
        (action = .disconnect deviceId k.sessionId ∨ FailsSend s deviceId k action) := by
  have hstep := step_connection h deviceId
  cases hstep with
  | kept _ hsame => exact .inl ⟨k, hsame.trans hk, .refl k⟩
  | activated k₀ k' _ hk₀ _ hk' hsame =>
      obtain rfl := Option.some.inj (hk.symm.trans hk₀)
      exact .inl ⟨k', hk', hsame⟩
  | touched k₀ hk₀ _ hk' =>
      obtain rfl := Option.some.inj (hk.symm.trans hk₀)
      exact .inl ⟨_, hk', ⟨rfl, rfl, rfl⟩⟩
  | @connected transport sessionId now k' =>
      right
      left
      simp only [step, connect, Option.some.injEq, Prod.mk.injEq] at h
      rw [← h.2, hk]
      exact ⟨_, _, mem_closeCalls (by simp)⟩
  | dropped hdrops hnone =>
      right
      cases action with
      | disconnect d sessionId =>
          obtain ⟨rfl, k₀, hk₀, rfl⟩ := hdrops
          obtain rfl := Option.some.inj (hk.symm.trans hk₀)
          exact .inr ⟨hnone, .inl rfl⟩
      | disconnectDevice d code reason =>
          obtain rfl : d = deviceId := hdrops
          left
          simp only [step, disconnectDevice, Option.some.injEq, Prod.mk.injEq] at h
          rw [← h.2, hk]
          exact ⟨code, reason, mem_closeCalls (by simp)⟩
      | closeAll =>
          left
          simp only [step, Option.some.injEq, Prod.mk.injEq] at h
          rw [← h.2]
          exact ⟨_, _, mem_closeCalls
            (List.mem_map.mpr ⟨(deviceId, k), mem_closeAll_connections.mpr hk, rfl⟩)⟩
      | completeSend x failure now =>
          cases failure with
          | none => exact hdrops.elim
          | some error =>
              obtain ⟨hexception, call, k₀, hcall, hstage, hd, hk₀, hsession⟩ := hdrops
              obtain rfl := Option.some.inj (hk.symm.trans hk₀)
              exact .inr ⟨hnone, .inr ⟨x, error, now, call, rfl, hexception, hcall, hstage, hd,
                hsession⟩⟩
      | connect | activate | touch | resolve | execute | resumeLock | copyResult | fireTimer
      | resumeWait | cancel => exact hdrops.elim

/-- A send that fails drops its session and closes nothing. -/
theorem failsSend_drops {s t : State} {action : Action} {events : List TransportCall}
    (h : step s action = some (t, events)) {deviceId : UUID} {k : LiveConnection}
    (hk : s.connections.lookup deviceId = some k) (hfails : FailsSend s deviceId k action) :
    t.connections.lookup deviceId = none ∧ events = [] := by
  obtain ⟨x, error, now, call, rfl, hexception, hcall, hstage, rfl, hsession⟩ := hfails
  obtain ⟨call', hcall', hr⟩ := onCall_eq_some h
  rw [hcall] at hcall'
  cases hcall'
  obtain ⟨-, ⟨hnone, -⟩ | ⟨error', hsome, ⟨-, hr⟩ | ⟨hcancelled, -⟩⟩⟩ := completeSend_cases hr
  · cases hnone
  · obtain ⟨rfl, rfl⟩ := Prod.mk.inj hr
    have hdropped := disconnect_current hk
    rw [hsession] at hdropped
    exact ⟨hdropped, rfl⟩
  · cases hsome
    rw [hexception] at hcancelled
    cases hcancelled

theorem step_gained {s t : State} {action : Action} {events : List TransportCall}
    (h : step s action = some (t, events)) {deviceId : UUID} {k' : LiveConnection}
    (hk' : t.connections.lookup deviceId = some k') :
    (∃ k, s.connections.lookup deviceId = some k ∧ SameConnection k k') ∨
      ∃ transport sessionId now, action = .connect deviceId transport sessionId now := by
  have hstep := step_connection h deviceId
  cases hstep with
  | kept _ hsame => exact .inl ⟨k', hsame.symm.trans hk', .refl k'⟩
  | dropped _ hnone =>
      rw [hnone] at hk'
      cases hk'
  | connected => exact .inr ⟨_, _, _, rfl⟩
  | activated k k₁ _ hk _ hk₁ hsame =>
      obtain rfl := Option.some.inj (hk'.symm.trans hk₁)
      exact .inl ⟨k, hk, hsame⟩
  | touched k hk _ hk₁ =>
      obtain rfl := Option.some.inj (hk'.symm.trans hk₁)
      exact .inl ⟨k, hk, ⟨rfl, rfl, rfl⟩⟩

theorem step_online {s t : State} {action : Action} {events : List TransportCall}
    (h : step s action = some (t, events)) {deviceId : UUID} {k' : LiveConnection}
    (hk' : t.connections.lookup deviceId = some k') (honline : k'.status = .online) :
    ∃ k, s.connections.lookup deviceId = some k ∧ SameConnection k k' ∧
      (k.status = .online ∨ ∃ advertised effective now,
        action = .activate deviceId k.sessionId advertised effective now) := by
  have hstep := step_connection h deviceId
  cases hstep with
  | kept _ hsame => exact ⟨k', hsame.symm.trans hk', .refl k', .inl honline⟩
  | dropped _ hnone =>
      rw [hnone] at hk'
      cases hk'
  | connected k hk _ _ _ _ hconnecting =>
      obtain rfl := Option.some.inj (hk'.symm.trans hk)
      rw [hconnecting] at honline
      cases honline
  | activated k k₁ _ hk hsession hk₁ hsame =>
      obtain rfl := Option.some.inj (hk'.symm.trans hk₁)
      subst hsession
      exact ⟨k, hk, hsame, .inr ⟨_, _, _, rfl⟩⟩
  | touched k hk _ hk₁ =>
      obtain rfl := Option.some.inj (hk'.symm.trans hk₁)
      exact ⟨k, hk, ⟨rfl, rfl, rfl⟩, .inl honline⟩

/-- Why the manager closes a transport, and with which code. -/
inductive Closes (s t : State) (transport : Nat) : Action → Nat → Prop
  | replaces (d : UUID) (k : LiveConnection) (transport' : Nat) (sessionId : UUID)
      (now : AwareDatetime) : s.connections.lookup d = some k → k.transport = transport →
      Closes s t transport (.connect d transport' sessionId now) replacedCloseCode
  | removes (d : UUID) (k : LiveConnection) (code : Nat) (reason : String) :
      s.connections.lookup d = some k → k.transport = transport →
      t.connections.lookup d = none → Closes s t transport (.disconnectDevice d code reason) code
  | shutsDown (d : UUID) (k : LiveConnection) : s.connections.lookup d = some k →
      k.transport = transport → t.connections.lookup d = none →
      Closes s t transport .closeAll 1001

theorem send_closes (s : State) (x : Nat) (call : AdmittedCall) {transport code : Nat}
    {reason : String} : .close transport code reason ∉ (send s x call).2 := by
  intro hclose
  rcases send_cases s x call with ⟨-, hs⟩ | ⟨-, hs⟩
  · rw [hs] at hclose
    simp at hclose
  · rw [hs] at hclose
    cases hclose

theorem execute_closes (s : State) (x : Nat) (command : DeviceCommand) (timeoutSeconds : Int)
    (now : AwareDatetime) {transport code : Nat} {reason : String} :
    .close transport code reason ∉ (execute s x command timeoutSeconds now).2 := by
  rcases execute_cases s x command timeoutSeconds now with ⟨error, -, hr⟩ | ⟨k, lock, -, hr | hr⟩
  · rw [hr]
    exact List.not_mem_nil
  · rw [hr]
    exact send_closes _ _ _
  · rw [hr]
    exact List.not_mem_nil

theorem step_closes {s t : State} {action : Action} {events : List TransportCall}
    (h : step s action = some (t, events)) {transport code : Nat} {reason : String}
    (hclose : .close transport code reason ∈ events) : Closes s t transport action code := by
  have quiet {r : Result} (hr : some r = some (t, events)) (hevents : r.2 = []) : False := by
    have he : r.2 = events := congrArg Prod.snd (Option.some.inj hr)
    rw [← he, hevents] at hclose
    cases hclose
  have sends {u : State} {y : Nat} {call : AdmittedCall} (hr : some (send u y call) = some (t, events)) :
      False := by
    have he : (send u y call).2 = events := congrArg Prod.snd (Option.some.inj hr)
    rw [← he] at hclose
    exact send_closes u y call hclose
  cases action with
  | connect d transport' sessionId now =>
      cases h
      obtain ⟨k, hk, heq⟩ := List.mem_map.mp hclose
      cases heq
      exact .replaces d k transport' sessionId now (Option.mem_toList.mp hk) rfl
  | activate d session advertised effective now =>
      simp only [step] at h
      split at h <;> exact (quiet h rfl).elim
  | disconnect d session => exact (quiet h rfl).elim
  | disconnectDevice d code' reason' =>
      cases h
      obtain ⟨k, hk, heq⟩ := List.mem_map.mp hclose
      cases heq
      exact .removes d k _ _ (Option.mem_toList.mp hk) rfl (AList.lookup_erase _ _)
  | touch d session now => exact (quiet h rfl).elim
  | resolve d session result => exact (quiet h rfl).elim
  | closeAll =>
      cases h
      obtain ⟨k, hk, heq⟩ := List.mem_map.mp hclose
      obtain ⟨⟨d, k'⟩, hmem, rfl⟩ := List.mem_map.mp hk
      cases heq
      exact .shutsDown d _ (mem_closeAll_connections.mp hmem) rfl rfl
  | execute y cmd timeoutSeconds now =>
      simp only [step] at h
      split at h
      · have he : (execute s y cmd timeoutSeconds now).2 = events :=
          congrArg Prod.snd (Option.some.inj h)
        rw [← he] at hclose
        exact absurd hclose (execute_closes s y cmd timeoutSeconds now)
      · cases h
  | resumeLock y =>
      obtain ⟨call, -, hr⟩ := onCall_eq_some h
      obtain ⟨-, lock, ⟨-, hr⟩ | ⟨-, hr⟩⟩ := resumeLock_cases hr
      · exact (quiet (congrArg some hr.symm) rfl).elim
      · exact (sends (congrArg some hr.symm)).elim
  | completeSend y failure now =>
      obtain ⟨call, -, hr⟩ := onCall_eq_some h
      obtain ⟨-, ⟨-, hr⟩ | ⟨error, -, ⟨-, hr⟩ | ⟨-, -, hr⟩⟩⟩ := completeSend_cases hr
      all_goals exact (quiet (congrArg some hr.symm) rfl).elim
  | copyResult y =>
      obtain ⟨call, -, hr⟩ := onCall_eq_some h
      obtain ⟨w, -, -, -, hr⟩ := copyResult_cases hr
      exact (quiet (congrArg some hr.symm) rfl).elim
  | fireTimer y =>
      obtain ⟨call, -, hr⟩ := onCall_eq_some h
      obtain ⟨w, -, -, hr⟩ := fireTimer_cases hr
      exact (quiet (congrArg some hr.symm) rfl).elim
  | resumeWait y =>
      obtain ⟨call, -, hr⟩ := onCall_eq_some h
      obtain ⟨w, -, -, hr⟩ := resumeWait_cases hr
      exact (quiet (congrArg some hr.symm) rfl).elim
  | cancel y =>
      obtain ⟨call, -, hr⟩ := onCall_eq_some h
      obtain ⟨lock, stage, -, hr⟩ := cancel_cases hr
      exact (quiet (congrArg some hr.symm) rfl).elim

end JarvisCore.Manager.Connections
