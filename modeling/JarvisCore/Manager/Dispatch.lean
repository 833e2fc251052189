import JarvisCore.Manager.Connections
import JarvisCore.Manager.PendingOwnership

namespace JarvisCore.Manager.Dispatch

open JarvisCore.Domain.Values
open JarvisCore.Domain.Errors
open JarvisCore.Domain.Models
open JarvisCore.Foundation.AsyncIO
open JarvisCore.Foundation.Dictionary
open JarvisCore.Foundation.TransitionSystem
open JarvisCore.Manager.Operations
open JarvisCore.Manager.Execution
open JarvisCore.Manager.Invariant
open JarvisCore.Manager.Evolution
open JarvisCore.Manager.Connections
open JarvisCore.Manager.PendingOwnership

def RefsKnown (s : State) : Prop :=
  ∀ d k, s.connections.lookup d = some k → k.ref < s.nextRef

theorem RefsKnown.step {s t : State} {action : Action} {events : List TransportCall}
    (hrefs : RefsKnown s) (h : step s action = some (t, events)) : RefsKnown t := by
  intro d k hk
  have hnext := step_nextRef h
  cases step_connection h d with
  | kept _ hkept =>
      rw [hkept] at hk
      exact lt_of_lt_of_le (hrefs d k hk) hnext
  | dropped _ hdropped =>
      rw [hdropped] at hk
      cases hk
  | connected k' hk' href hsucc =>
      rw [hk'] at hk
      cases hk
      omega
  | activated k₀ k' _ hk₀ _ hk' hsame =>
      rw [hk'] at hk
      cases hk
      rw [hsame.ref]
      exact lt_of_lt_of_le (hrefs d k₀ hk₀) hnext
  | touched k₀ hk₀ _ hk' =>
      rw [hk'] at hk
      cases hk
      exact lt_of_lt_of_le (hrefs d k₀ hk₀) hnext

theorem refsKnown_of_reachable {s : State} (hs : Reachable manager s) : RefsKnown s := by
  refine hs.invariant RefsKnown ?_ fun _ _ _ _ hrefs h => hrefs.step h
  intro d k hk
  cases hk

/-- The effective set that the device announced last. -/
def lastAnnounced (deviceId : UUID) (history : List Step) : Option (Finset DeviceCapability) :=
  history.findSome? fun t => announced t.source deviceId t.action

/-- What remains of a connection record after a run in which it stayed current. -/
structure Remains (deviceId : UUID) (history : List Step) (k k' : LiveConnection) : Prop where
  same : SameConnection k k'
  effective : k'.effectiveCapabilities =
    (lastAnnounced deviceId history).getD k.effectiveCapabilities

theorem run_connection {s t : State} {history : List Step} (hrun : Run manager s history t)
    {deviceId : UUID} {k : LiveConnection} (hk : s.connections.lookup deviceId = some k)
    (hknown : k.ref < s.nextRef) :
    k.ref < t.nextRef ∧ ∀ k', t.connections.lookup deviceId = some k' → k'.ref = k.ref →
      Remains deviceId history k k' := by
  induction hrun with
  | nil =>
      refine ⟨hknown, ?_⟩
      intro k' hk' _
      rw [hk] at hk'
      cases hk'
      exact ⟨.refl k, rfl⟩
  | @step history s' action events t _ h ih =>
      obtain ⟨hlt, hremains⟩ := ih
      refine ⟨lt_of_lt_of_le hlt (step_nextRef h), ?_⟩
      intro k' hk' href
      cases step_connection h deviceId with
      | kept hquiet hkept =>
          rw [hkept] at hk'
          obtain ⟨hsame, heffective⟩ := hremains k' hk' href
          refine ⟨hsame, ?_⟩
          simp only [lastAnnounced, List.findSome?_cons, hquiet]
          exact heffective
      | dropped _ hdropped =>
          rw [hdropped] at hk'
          cases hk'
      | connected k₀ hk₀ hnew =>
          -- A new connection never has the reference of an old one.
          rw [hk₀] at hk'
          cases hk'
          omega
      | activated k₀ k₁ hok hk₀ _ hk₁ hsame₁ _ _ heffective =>
          rw [hk₁] at hk'
          cases hk'
          obtain ⟨hsame, -⟩ := hremains k₀ hk₀ (hsame₁.ref.symm.trans href)
          refine ⟨hsame.trans hsame₁, ?_⟩
          simp [lastAnnounced, announced, hok, heffective]
      | touched k₀ hk₀ _ hk₁ =>
          rw [hk₁] at hk'
          cases hk'
          obtain ⟨hsame, heffective⟩ := hremains k₀ hk₀ href
          refine ⟨hsame.trans ⟨rfl, rfl, rfl⟩, ?_⟩
          simp only [lastAnnounced, List.findSome?_cons, announced]
          exact heffective

def entersExecute (x : Nat) : Action → Bool
  | .execute y _ _ _ => y = x
  | _ => false

def sinceExecute (x : Nat) (history : List Step) : List Step :=
  history.takeWhile fun t => !entersExecute x t.action

theorem entersExecute_eq_false {x : Nat} {action : Action}
    (h : ∀ command timeoutSeconds now, action ≠ .execute x command timeoutSeconds now) :
    entersExecute x action = false := by
  cases action with
  | execute y command timeoutSeconds now =>
      simp only [entersExecute, decide_eq_false_iff_not]
      rintro rfl
      exact h command timeoutSeconds now rfl
  | _ => rfl

theorem sinceExecute_append {x : Nat} (later : List Step) {earlier : List Step} {t : Step}
    (hlater : ∀ u ∈ later, entersExecute x u.action = false)
    (ht : entersExecute x t.action = true) :
    sinceExecute x (later ++ t :: earlier) = later := by
  unfold sinceExecute
  rw [List.takeWhile_append_of_pos]
  · simp [ht]
  · intro u hu
    simp [hlater u hu]

/-- The connection on which a call is dispatched is the one it was admitted on, as
the capability updates since then have left it. -/
theorem dispatched_connection {history : List Step} {s t : State} {action : Action}
    {events : List TransportCall} (hrun : Run manager State.initial history s)
    (h : step s action = some (t, events)) {x : Nat} {call : AdmittedCall}
    (hactor : actor action = some x) (hcall : t.calls x = some (.admitted call))
    (hcurrent : HoldsCurrent s call.admission) :
    ∃ k k₀ : LiveConnection, s.connections.lookup call.admission.command.deviceId = some k ∧
      k.sessionId = call.admission.sessionId ∧ k.transport = call.admission.transport ∧
      call.admission.command.capability ∈ k₀.effectiveCapabilities ∧
      k.effectiveCapabilities =
        (lastAnnounced call.admission.command.deviceId
          (sinceExecute x (⟨s, action, events, t⟩ :: history))).getD k₀.effectiveCapabilities := by
  obtain ⟨k, hk, href⟩ := hcurrent
  rcases step_admitted h hcall with ⟨call₀, hcall₀, ⟨hne, -⟩ | ⟨-, hcontinuation⟩⟩ | hstarts
  · exact absurd hactor hne
  · have hadmission := hcontinuation.continues.admission
    obtain ⟨u, hu, k₀, now, haction, hallowed, ha⟩ := run_registers hrun hcall₀
    obtain ⟨later, earlier, rfl, hearlier, hfired, hlater⟩ := hrun.exists_of_mem hu
    obtain ⟨hk₀, -, hcapability, -⟩ := admission_eq_ok hallowed
    -- The admitting step leaves the connections alone.
    have hadmitted : u.target.connections.lookup call₀.admission.command.deviceId = some k₀ := by
      have hexecute : step u.source (.execute x call₀.admission.command
          call₀.admission.timeoutSeconds now) = some (u.target, u.events) := by
        rw [← haction]
        exact hfired
      cases step_connection hexecute call₀.admission.command.deviceId with
      | kept _ hkept => rw [hkept, hk₀]
      | dropped hdrops => exact absurd hdrops id
    have hknown : k₀.ref < u.target.nextRef :=
      lt_of_lt_of_le (refsKnown_of_reachable hearlier.reachable _ k₀ hk₀) (step_nextRef hfired)
    have hstarted : u.target.calls x ≠ none := by
      intro hnone
      refine (step_unstarted hfired hnone).1 ?_
      rw [haction]
      rfl
    have hreference : k.ref = k₀.ref := by
      rw [href, hadmission, ha]
      rfl
    obtain ⟨hsame, heffective⟩ := (run_connection hlater hadmitted hknown).2 k
      (hadmission ▸ hk) hreference
    have hquiet : entersExecute x action = false ∧ announced s
        call.admission.command.deviceId action = none := by
      cases hcontinuation <;> exact ⟨rfl, rfl⟩
    have hsince : sinceExecute x (⟨s, action, events, t⟩ :: (later ++ u :: earlier)) =
        ⟨s, action, events, t⟩ :: later := by
      refine sinceExecute_append (⟨s, action, events, t⟩ :: later) ?_ ?_
      · intro v hv
        rcases List.mem_cons.mp hv with rfl | hv
        · exact hquiet.1
        · exact entersExecute_eq_false (run_not_executed hlater hstarted hv)
      · simp [haction, entersExecute]
    refine ⟨k, k₀, hk, ?_, ?_, ?_, ?_⟩
    · rw [hsame.sessionId, hadmission, ha]
      rfl
    · rw [hsame.transport, hadmission, ha]
      rfl
    · rw [hadmission]
      exact hcapability
    · rw [hsince, heffective, hadmission]
      simp only [lastAnnounced, List.findSome?_cons]
      rw [hadmission] at hquiet
      rw [hquiet.2]
  · obtain ⟨k₀, now, haction, hallowed, ha⟩ := hstarts.registers
    obtain ⟨hk₀, -, hcapability, -⟩ := admission_eq_ok hallowed
    have hsame : k = k₀ := Option.some.inj (hk.symm.trans hk₀)
    have hsince : sinceExecute x (⟨s, action, events, t⟩ :: history) = [] := by
      refine sinceExecute_append [] (by simp) ?_
      obtain rfl : action = _ := haction
      simp [entersExecute]
    refine ⟨k, k₀, hk, ?_, ?_, hcapability, ?_⟩
    · rw [ha, hsame]
      rfl
    · rw [ha, hsame]
      rfl
    · rw [hsince, hsame]
      rfl

/-- The capability of a command that reaches `send_command` is in the effective set
of its connection exactly when the last capability update that the connection got
after `execute` was entered, if there was one, still has the capability. -/
theorem dispatched_capability_effective_iff {history : List Step} {s t : State}
    {action : Action} {events : List TransportCall}
    (hrun : Run manager State.initial history s)
    (h : manager.step s action = some (t, events)) {x transport : Nat}
    {command : DeviceCommand} {sessionId : UUID}
    (hsend : .sendCommand x transport command sessionId ∈ events) :
    ∃ k, t.connections.lookup command.deviceId = some k ∧ k.sessionId = sessionId ∧
      k.transport = transport ∧
      (command.capability ∈ k.effectiveCapabilities ↔
        ∀ effective, lastAnnounced command.deviceId
          (sinceExecute x (⟨s, action, events, t⟩ :: history)) = some effective →
            command.capability ∈ effective) := by
  obtain ⟨hactor, call, hdispatches⟩ := step_dispatches h hsend
  obtain ⟨k, k₀, hk, hsession, htransport, hcapability, heffective⟩ :=
    dispatched_connection hrun h hactor hdispatches.admitted hdispatches.current
  obtain ⟨-, -, rfl, rfl, rfl, -, hconnections⟩ := hdispatches
  refine ⟨k, by rw [hconnections]; exact hk, hsession, htransport, ?_⟩
  rw [heffective]
  cases hlast : lastAnnounced call.admission.command.deviceId
      (sinceExecute x (⟨s, action, events, t⟩ :: history)) with
  | none =>
      constructor
      · intro _ effective hnone
        cases hnone
      · exact fun _ => hcapability
  | some effective =>
      constructor
      · intro hmem effective' heq
        cases heq
        exact hmem
      · exact fun hall => hall effective rfl

/-- The run ends with the dispatch of a command whose capability passes the test on
the effective set. -/
def endsWithDispatch (test : DeviceCapability → Finset DeviceCapability → Bool)
    (history : List Step) (t : State) : Bool :=
  match history with
  | ⟨_, _, [.sendCommand _ _ command _], _⟩ :: _ =>
      (t.connections.lookup command.deviceId).any fun k =>
        test command.capability k.effectiveCapabilities
  | _ => false

theorem dispatch_of_endsWithDispatch {test : DeviceCapability → Finset DeviceCapability → Bool}
    {history : List Step} {t : State} (hrun : Run manager State.initial history t)
    (h : endsWithDispatch test history t = true) :
    ∃ earlier s action x transport command sessionId k,
      Run manager State.initial earlier s ∧
      manager.step s action = some (t, [.sendCommand x transport command sessionId]) ∧
      t.connections.lookup command.deviceId = some k ∧
      test command.capability k.effectiveCapabilities = true := by
  unfold endsWithDispatch at h
  split at h
  · rename_i s action x transport command sessionId t' earlier
    obtain ⟨k, hk, htest⟩ := (Option.any_eq_true _ _).mp h
    cases hrun with
    | step _ _ _ hprevious hfire =>
        exact ⟨earlier, s, action, x, transport, command, sessionId, k, hprevious, hfire, hk, htest⟩
  · cases h

/-- Two commands on one connection: the second waits for the send lock while the
device announces an empty set. -/
def sampleNarrowed : List Action :=
  sampleOnline ++
    [sampleExecute 0 ⟨3⟩, sampleExecute 1 ⟨4⟩,
      .activate sampleDevice sampleSession ∅ ∅ ⟨0, 0⟩, .completeSend 0 none ⟨0, 0⟩,
      .resumeLock 1]

theorem dispatched_capability_effective_queued :
    ∃ earlier s t action x transport command sessionId k,
      Run manager State.initial earlier s ∧
      manager.step s action = some (t, [.sendCommand x transport command sessionId]) ∧
      t.connections.lookup command.deviceId = some k ∧
      ¬ ∀ effective, lastAnnounced command.deviceId (sinceExecute x
        (⟨s, action, [.sendCommand x transport command sessionId], t⟩ :: earlier)) =
          some effective → command.capability ∈ effective := by
  obtain ⟨history, t, hrun, htest⟩ := exists_run_of_replay (S := manager) (s := State.initial)
    sampleNarrowed (endsWithDispatch fun c effective => decide (c ∉ effective)) (by decide)
  obtain ⟨earlier, s, action, x, transport, command, sessionId, k, hprevious, hfire, hk, hout⟩ :=
    dispatch_of_endsWithDispatch hrun htest
  obtain ⟨k', hk', -, -, hiff⟩ :=
    dispatched_capability_effective_iff hprevious hfire List.mem_cons_self
  obtain rfl : k = k' := Option.some.inj (hk.symm.trans hk')
  exact ⟨earlier, s, t, action, x, transport, command, sessionId, k, hprevious, hfire, hk,
    fun hall => of_decide_eq_true hout (hiff.mpr hall)⟩

theorem dispatched_capability_withdrawn :
    ¬ ∀ s t action events x transport command sessionId k, Reachable manager s →
      manager.step s action = some (t, events) →
      .sendCommand x transport command sessionId ∈ events →
      t.connections.lookup command.deviceId = some k →
      command.capability ∈ k.effectiveCapabilities := by
  intro hclaim
  obtain ⟨history, t, hrun, htest⟩ := exists_run_of_replay (S := manager) (s := State.initial)
    sampleNarrowed (endsWithDispatch fun c effective => decide (c ∉ effective)) (by decide)
  obtain ⟨earlier, s, action, x, transport, command, sessionId, k, hprevious, hfire, hk, hout⟩ :=
    dispatch_of_endsWithDispatch hrun htest
  exact of_decide_eq_true hout (hclaim s t action _ x transport command sessionId k
    hprevious.reachable hfire List.mem_cons_self hk)

end JarvisCore.Manager.Dispatch
