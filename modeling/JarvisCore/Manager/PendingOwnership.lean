import JarvisCore.Manager.Evolution

namespace JarvisCore.Manager.PendingOwnership

open JarvisCore.Domain.Values
open JarvisCore.Domain.Errors
open JarvisCore.Domain.Models
open JarvisCore.Foundation.AsyncIO
open JarvisCore.Foundation.Dictionary
open JarvisCore.Foundation.TransitionSystem
open JarvisCore.Manager.Operations
open JarvisCore.Manager.Execution
open JarvisCore.Manager.Invariant
open JarvisCore.Manager.Evolution

/-- What ties `_pending` to the connections, to the futures and to the calls. -/
structure PendingConsistent (s : State) : Prop where
  live : ∀ c p, s.pending.lookup c = some p →
    ∃ k, s.connections.lookup p.deviceId = some k ∧ k.sessionId = p.sessionId ∧ k.status = .online
  unresolved : ∀ c p, s.pending.lookup c = some p → (s.futures p.future).done = false
  distinct : ∀ c c' p p', s.pending.lookup c = some p → s.pending.lookup c' = some p' →
    p.future = p'.future → c = c'
  owned : ∀ x call, s.calls x = some (.admitted call) → call.Active →
    s.pending.lookup call.admission.command.id = some (call.admission.entry x) ∨
      (s.futures x).done = true

theorem pendingConsistent_of_inv {s : State} (hinv : Inv s) : PendingConsistent s where
  live := hinv.live
  unresolved c p hc := FutureState.done_eq_false_iff.mpr (hinv.unresolved c p hc)
  distinct c c' p p' hc hc' hfuture := by
    obtain ⟨call, hcall, -, hid, -⟩ := hinv.owner c p hc
    have hid' := (hinv.entry_eq hc' (hfuture ▸ hcall)).2.1
    exact hid.symm.trans hid'
  owned x call hcall hactive := by
    cases hdone : (s.futures x).done with
    | true => exact .inr rfl
    | false =>
        exact .inl (hinv.owned x call hcall hactive (FutureState.done_eq_false_iff.mp hdone))

def CleanedUp (s : State) (x : Nat) : Prop :=
  ∃ call outcome, s.calls x = some (.admitted call) ∧ call.stage = .finished outcome

/-- The devices whose commands an operation fails. -/
def Affects : Action → UUID → Prop
  | .connect deviceId _ _ _, d | .disconnectDevice deviceId _ _, d => d = deviceId
  | .closeAll, _ => True
  | _, _ => False

/-- The call does not depend on its timer any more: its future is done, and where
it is suspended on that future, its next step is one of its own. -/
def Released (s : State) (x : Nat) (call : AdmittedCall) : Prop :=
  (s.futures x).done = true ∧
    ∀ w, call.stage = .waiting w →
      (copyResult s x call).isSome = true ∨ (resumeWait s x call).isSome = true

theorem released_of_done {s : State} {x : Nat} {call : AdmittedCall}
    (h : (s.futures x).done = true) : Released s x call := by
  refine ⟨h, ?_⟩
  intro w hw
  cases houter : w.outer.done with
  | true => exact .inr (by simp [resumeWait, hw, houter])
  | false => exact .inl (by simp [copyResult, hw, h, houter])

/-- An entry that an operation removed belonged to a call that cleans up in this
step, or its future is completed by the step. -/
theorem removed_entry {s t : State} {action : Action} {events : List TransportCall}
    (hinv : Inv s) (h : step s action = some (t, events)) {c : UUID} {p : PendingCommand}
    (hc : s.pending.lookup c = some p) (hremoved : t.pending.lookup c ≠ some p) :
    (actor action = some p.future ∧ CleanedUp t p.future) ∨
      ((s.futures p.future).done = false ∧ (t.futures p.future).done = true) := by
  obtain ⟨call, hcall, hactive, hid, hentry⟩ := hinv.owner c p hc
  obtain ⟨call', hcall', hcontinues⟩ := step_continues h hcall
  have hopen : (s.futures p.future).done = false :=
    FutureState.done_eq_false_iff.mpr (hinv.unresolved c p hc)
  have hcompleted (hactive' : call'.Active) : (t.futures p.future).done = true := by
    rcases (pendingConsistent_of_inv (hinv.step h)).owned _ call' hcall' hactive' with howned | hdone
    · rw [hcontinues.admission, hid, hentry] at howned
      exact absurd howned hremoved
    · exact hdone
  by_cases hactor : actor action = some p.future
  · cases hstage : call'.stage with
    | finished outcome => exact .inl ⟨hactor, call', outcome, hcall', hstage⟩
    | waitingForLock | sending | waiting =>
        exact .inr ⟨hopen, hcompleted (active_of_stage hstage (by simp))⟩
  · rw [(step_frame h hactor).1, hcall] at hcall'
    cases hcall'
    exact .inr ⟨hopen, hcompleted hactive⟩

theorem affected_entry {s t : State} {action : Action} {events : List TransportCall}
    (h : step s action = some (t, events)) {c : UUID} {p : PendingCommand}
    (haffects : Affects action p.deviceId) : t.pending.lookup c ≠ some p := by
  intro hc
  cases action with
  | connect deviceId transport sessionId now =>
      cases h
      exact (dropPending_lookup.mp hc).2 haffects
  | disconnectDevice deviceId code reason =>
      cases h
      exact (dropPending_lookup.mp hc).2 haffects
  | closeAll =>
      cases h
      simp at hc
  | _ => exact haffects

theorem affected_call {s t : State} {action : Action} {events : List TransportCall}
    (hinv : Inv s) (h : step s action = some (t, events)) {x : Nat} {call : AdmittedCall}
    (hcall : t.calls x = some (.admitted call)) (hactive : call.Active)
    (haffects : Affects action call.admission.command.deviceId) : Released t x call := by
  rcases (pendingConsistent_of_inv (hinv.step h)).owned x call hcall hactive with howned | hdone
  · exact absurd howned (affected_entry h haffects)
  · exact released_of_done hdone

/-- In every reachable state the pending entries, the live connections, the futures
and the active calls agree, and no step from it forgets a command. -/
theorem pending_ownership {s : State} (hs : Reachable manager s) :
    PendingConsistent s ∧
    (∀ action t events, manager.step s action = some (t, events) →
      (∀ c p, s.pending.lookup c = some p → t.pending.lookup c ≠ some p →
        (actor action = some p.future ∧ CleanedUp t p.future) ∨
          ((s.futures p.future).done = false ∧ (t.futures p.future).done = true)) ∧
      ∀ x call, t.calls x = some (.admitted call) → call.Active →
        Affects action call.admission.command.deviceId → Released t x call) ∧
    ∀ deviceId sessionId result p, Addressed s deviceId sessionId result p →
      (s.futures p.future).done = false := by
  have hinv := inv_of_reachable hs
  refine ⟨pendingConsistent_of_inv hinv, ?_, ?_⟩
  · intro action t events h
    constructor
    · intro c p hc hremoved
      exact removed_entry hinv h hc hremoved
    · intro x call hcall hactive haffects
      exact affected_call hinv h hcall hactive haffects
  · intro deviceId sessionId result p haddressed
    exact (pendingConsistent_of_inv hinv).unresolved _ p haddressed.1

def sampleDevice : UUID := ⟨1⟩
def sampleSession : UUID := ⟨2⟩

def sampleCommand (id : UUID) : DeviceCommand where
  id := id
  deviceId := sampleDevice
  capability := .system
  action := "get_info"
  arguments := []
  issuedAt := ⟨0, 0⟩
  deadlineAt := ⟨30000000, 0⟩
  action_normalized := by decide
  action_length := by decide
  deadline_after_issue := by decide

def sampleResult (id : UUID) : DeviceCommandResult where
  commandId := id
  deviceId := sampleDevice
  succeeded := true
  completedAt := ⟨1000000, 0⟩
  output := .null
  error := none
  success_has_no_error := fun _ => rfl
  failure_has_error := by decide
  error_length := by decide

/-- A device connects and announces the `system` capability. -/
def sampleOnline : List Action :=
  [.connect sampleDevice 0 sampleSession ⟨0, 0⟩,
    .activate sampleDevice sampleSession {.system} {.system} ⟨0, 0⟩]

def sampleExecute (x : Nat) (id : UUID) : Action :=
  .execute x (sampleCommand id) 30000000 ⟨0, 0⟩

def isSending (s : State) (x : Nat) : Bool :=
  match s.calls x with
  | some (.admitted ⟨_, _, .sending⟩) => true
  | _ => false

theorem pending_ownership_shutdown :
    ∃ s t events call, Reachable manager s ∧ manager.step s .closeAll = some (t, events) ∧
      t.calls 0 = some (.admitted call) ∧ PendingConsistent s ∧ Released t 0 call := by
  obtain ⟨history, s, hrun, hsending⟩ := exists_run_of_replay (S := manager) (s := State.initial)
    (sampleOnline ++ [sampleExecute 0 ⟨3⟩]) (fun _ s => isSending s 0) (by decide)
  have hclose : manager.step s .closeAll = some ((closeAll s).1, _) := rfl
  obtain ⟨hconsistent, hstep, -⟩ := pending_ownership hrun.reachable
  unfold isSending at hsending
  split at hsending
  · rename_i a cancelRequested hcall
    exact ⟨s, _, _, _, hrun.reachable, hclose, hcall, hconsistent,
      (hstep _ _ _ hclose).2 0 _ hcall (active_of_stage rfl (by simp)) trivial⟩
  · cases hsending

end JarvisCore.Manager.PendingOwnership
