import JarvisCore.Manager.PendingOwnership

namespace JarvisCore.Manager.ResultCorrelation

open JarvisCore.Domain.Values
open JarvisCore.Domain.Errors
open JarvisCore.Domain.Models
open JarvisCore.Foundation.AsyncIO
open JarvisCore.Foundation.Dictionary
open JarvisCore.Foundation.TransitionSystem
open JarvisCore.Manager.Operations
open JarvisCore.Manager.Execution
open JarvisCore.Manager.Invariant
open JarvisCore.Manager.Evolution
open JarvisCore.Manager.PendingOwnership

/-- The call has taken a result over from its future. -/
def Carries : Stage → DeviceCommandResult → Prop
  | .waiting w, result => w.outer = .result result
  | .finished outcome, result => outcome = .returned result
  | _, _ => False

/-- What a call carries is what its future holds. -/
def OutcomeSound (s : State) : Prop :=
  ∀ x call result, s.calls x = some (.admitted call) → Carries call.stage result →
    s.futures x = .result result

theorem settle_eq_returned_iff {f : ResultFuture} {result : DeviceCommandResult} :
    settle f = .returned result ↔ f = .result result := by
  cases f <;> simp [settle]

theorem waitOutcome_eq_returned {call : AdmittedCall}
    {w : ShieldedWait DeviceCommandResult Raised} {result : DeviceCommandResult}
    (h : waitOutcome call w = .returned result) :
    call.cancelRequested = false ∧ w.timedOut = false ∧ w.outer = .result result := by
  unfold waitOutcome ShieldedWait.conclude at h
  cases hcancel : call.cancelRequested <;> cases htimer : w.timedOut <;>
    simp only [hcancel, htimer, Bool.false_eq_true, ite_true, ite_false, reduceCtorEq] at h
  exact ⟨rfl, rfl, settle_eq_returned_iff.mp h⟩

theorem continuation_carries {s : State} {x : Nat} {call call' : AdmittedCall} {action : Action}
    (h : Continuation s x call action call') {result : DeviceCommandResult}
    (hcarries : Carries call'.stage result) :
    s.futures x = .result result ∨ Carries call.stage result := by
  cases h with
  | interrupted | dropped | failed => cases hcarries
  | sends => exact absurd hcarries id
  | answered => exact .inl (settle_eq_returned_iff.mp hcarries)
  | waits =>
      simp only [Carries, ShieldedWait.start] at hcarries
      split at hcarries <;> cases hcarries
  | copies w _ _ hopen =>
      simp only [Carries, ShieldedWait.copyFrom, hopen] at hcarries
      exact .inl hcarries
  | expires w hstage =>
      right
      rw [hstage]
      exact FutureState.cancel_eq_result_iff.mp hcarries
  | resumes w hstage =>
      right
      rw [hstage]
      exact (waitOutcome_eq_returned hcarries).2.2
  | cancelled stage hstages =>
      rcases hstages with ⟨-, rfl⟩ | ⟨-, rfl⟩ | ⟨w, hstage, rfl⟩
      · exact absurd hcarries id
      · exact absurd hcarries id
      · right
        rw [hstage]
        exact FutureState.cancel_eq_result_iff.mp hcarries

theorem OutcomeSound.step {s t : State} {action : Action} {events : List TransportCall}
    (hunstarted : Unstarted s) (hsound : OutcomeSound s)
    (h : step s action = some (t, events)) : OutcomeSound t := by
  intro x call result hcall hcarries
  refine (step_result_iff hunstarted h).mpr (.inl ?_)
  rcases step_admitted h hcall with ⟨call₀, hcall₀, ⟨-, rfl⟩ | ⟨-, hcontinuation⟩⟩ | hstarts
  · exact hsound x call result hcall₀ hcarries
  · rcases continuation_carries hcontinuation hcarries with hheld | hcarries₀
    · exact hheld
    · exact hsound x call₀ result hcall₀ hcarries₀
  · rcases hstarts.stage with hstage | hstage
    all_goals
      rw [hstage] at hcarries
      exact absurd hcarries id

theorem outcomeSound_of_reachable {s : State} (hs : Reachable manager s) : OutcomeSound s := by
  obtain ⟨history, hrun⟩ := hs
  refine hrun.historyInvariant (fun _ s => OutcomeSound s) ?_ ?_
  · intro x call result hcall
    cases hcall
  · intro history s action t events hrun hsound h
    exact hsound.step (unstarted_of_reachable hrun.reachable) h

/-- The step is a `resolve` that returns `True` for the registration of call `x`. -/
def AcceptsFor (x : Nat) (t : Step) : Prop := ∃ result, Accepts t x result

/-- The results that the futures hold are those accepted in the history, and no
registration has two of them. -/
structure Accepted (history : List Step) (s : State) : Prop where
  recorded : ∀ x result, s.futures x = .result result ↔ ∃ t ∈ history, Accepts t x result
  once : ∀ x, (∀ t ∈ history, ¬ AcceptsFor x t) ∨ ExactlyOnce (AcceptsFor x) history

theorem Accepted.step {history : List Step} {s t : State} {action : Action}
    {events : List TransportCall} (hunstarted : Unstarted s) (haccepted : Accepted history s)
    (h : step s action = some (t, events)) :
    Accepted (⟨s, action, events, t⟩ :: history) t := by
  constructor
  · intro x result
    rw [step_result_iff hunstarted h, haccepted.recorded]
    simp only [List.mem_cons, exists_eq_or_imp]
    exact or_comm
  · intro x
    by_cases hnew : AcceptsFor x ⟨s, action, events, t⟩
    · -- The future was still open, so nothing was accepted for it before.
      obtain ⟨result, hresult⟩ := hnew
      obtain ⟨-, -, -, -, -, -, hopen, -⟩ := hresult.spec h
      refine .inr (ExactlyOnce.head ⟨result, hresult⟩ ?_)
      rintro u hu ⟨earlier, hearlier⟩
      have hheld := (haccepted.recorded x earlier).mpr ⟨u, hu, hearlier⟩
      have hsame : s.futures x = .pending := hopen
      rw [hheld] at hsame
      cases hsame
    · rcases haccepted.once x with hnone | honce
      · left
        intro u hu
        rcases List.mem_cons.mp hu with rfl | hu
        · exact hnew
        · exact hnone u hu
      · exact .inr (ExactlyOnce.cons hnew honce)

theorem accepted_of_run {history : List Step} {s : State}
    (hrun : Run manager State.initial history s) : Accepted history s := by
  refine hrun.historyInvariant Accepted ⟨?_, ?_⟩ ?_
  · intro x result
    simp [State.initial]
  · intro x
    exact .inl (by simp)
  · intro history s action t events hrun haccepted h
    exact haccepted.step (unstarted_of_reachable hrun.reachable) h

/-- The results that `resolve` accepts in a reachable state, and what becomes of
the others. -/
theorem resolve_true_iff {s : State} (hinv : Inv s) (deviceId sessionId : UUID)
    (result : DeviceCommandResult) :
    ((resolve s deviceId sessionId result).2 = true ↔
        ∃ p, s.pending.lookup result.commandId = some p ∧ p.deviceId = deviceId ∧
          p.sessionId = sessionId ∧ result.deviceId = deviceId) ∧
      ((resolve s deviceId sessionId result).2 = false →
        resolve s deviceId sessionId result = (s, false)) := by
  rcases resolve_cases s deviceId sessionId result with
    ⟨h, hnone⟩ | ⟨p, haddressed, ⟨hdone, -⟩ | ⟨-, h⟩⟩
  · refine ⟨?_, fun _ => h⟩
    rw [h]
    constructor
    · intro hfalse
      cases hfalse
    · rintro ⟨p, hp, hd, hs, hr⟩
      obtain ⟨k, hk, hsession, -⟩ := hinv.live _ p hp
      exact absurd ⟨hp, hd, hs, hr, k, hd ▸ hk, hsession.trans hs⟩ (hnone p)
  · rw [hinv.unresolved _ p haddressed.1] at hdone
    cases hdone
  · rw [h]
    refine ⟨⟨fun _ => ?_, fun _ => rfl⟩, fun hfalse => ?_⟩
    · obtain ⟨hp, hd, hs, hr, -⟩ := haddressed
      exact ⟨p, hp, hd, hs, hr⟩
    · cases hfalse

theorem finished_not_pending {s : State} (hinv : Inv s) {x : Nat} {call : AdmittedCall}
    (hcall : s.calls x = some (.admitted call)) (hfinished : ¬ call.Active) {c : UUID}
    {p : PendingCommand} (hc : s.pending.lookup c = some p) : p.future ≠ x := by
  rintro rfl
  exact hfinished (hinv.entry_eq hc hcall).1

/-- A result that `execute` returns was accepted for its registration exactly once,
from the current session of its device. -/
theorem returned_result_correlated {history : List Step} {s : State}
    (hrun : Run manager State.initial history s) :
    (∀ x call result, s.calls x = some (.admitted call) →
      call.stage = .finished (.returned result) →
      result.commandId = call.admission.command.id ∧
      result.deviceId = call.admission.command.deviceId ∧
      (∃ t ∈ history, Registers t x call.admission) ∧
      ExactlyOnce (AcceptsFor x) history ∧
      ∃ t ∈ history, Accepts t x result ∧
        t.action = .resolve call.admission.command.deviceId call.admission.sessionId result ∧
        t.source.pending.lookup call.admission.command.id = some (call.admission.entry x) ∧
        ∃ k, t.source.connections.lookup call.admission.command.deviceId = some k ∧
          k.sessionId = call.admission.sessionId) ∧
    (∀ x, (∀ t ∈ history, ¬ AcceptsFor x t) ∨ ExactlyOnce (AcceptsFor x) history) ∧
    (∀ deviceId sessionId result,
      ((resolve s deviceId sessionId result).2 = true ↔
        ∃ p, s.pending.lookup result.commandId = some p ∧ p.deviceId = deviceId ∧
          p.sessionId = sessionId ∧ result.deviceId = deviceId) ∧
      ((resolve s deviceId sessionId result).2 = false →
        resolve s deviceId sessionId result = (s, false))) ∧
    ∀ x call, s.calls x = some (.admitted call) → ¬ call.Active →
      ∀ c p, s.pending.lookup c = some p → p.future ≠ x := by
  have hinv := inv_of_reachable (s := s) hrun.reachable
  have haccepted := accepted_of_run hrun
  refine ⟨?_, haccepted.once, fun d c r => resolve_true_iff hinv d c r, ?_⟩
  · intro x call result hcall hstage
    have hheld : s.futures x = .result result :=
      outcomeSound_of_reachable hrun.reachable x call result hcall (by rw [hstage]; exact rfl)
    obtain ⟨t, ht, haccepts⟩ := (haccepted.recorded x result).mp hheld
    obtain ⟨later, earlier, -, hearlier, hfired, hlater⟩ := hrun.exists_of_mem ht
    obtain ⟨deviceId, sessionId, p, haction, haddressed, hpx, -⟩ := haccepts.spec hfired
    obtain ⟨hp, hd, hs, hr, k, hk, hsession⟩ := haddressed
    -- The entry belongs to this call, which has kept its admission since.
    obtain ⟨call₀, hcall₀, -, hid, hentry⟩ :=
      (inv_of_reachable (s := t.source) hearlier.reachable).owner _ p hp
    rw [hpx] at hcall₀ hentry
    obtain ⟨middle, hmiddle, hfirst⟩ := step_continues hfired hcall₀
    obtain ⟨call', hcall', hsecond⟩ := run_continues hlater hmiddle
    rw [hcall] at hcall'
    obtain rfl := by simpa using hcall'
    have hadmission : call.admission = call₀.admission := (hfirst.trans hsecond).admission
    have hdevice : call.admission.command.deviceId = deviceId := by
      rw [hadmission, ← hd, ← hentry]
      rfl
    have hsame : call.admission.sessionId = sessionId := by
      rw [hadmission, ← hs, ← hentry]
      rfl
    refine ⟨?_, hr.trans hdevice.symm, run_registers hrun hcall, ?_, t, ht, haccepts, ?_, ?_,
      k, hdevice ▸ hk, hsession.trans hsame.symm⟩
    · rw [hadmission, hid]
    · rcases haccepted.once x with hnone | honce
      · exact absurd ⟨result, haccepts⟩ (hnone t ht)
      · exact honce
    · rw [hdevice, hsame, haction]
    · rw [hadmission, hid, hp, hentry]
  · intro x call hcall hfinished c p hc
    exact finished_not_pending hinv hcall hfinished hc

def sampleAnswered : List Action :=
  sampleOnline ++
    [sampleExecute 0 ⟨3⟩, .completeSend 0 none ⟨0, 0⟩,
      .resolve sampleDevice sampleSession (sampleResult ⟨3⟩), .copyResult 0, .resumeWait 0]

def hasReturned (s : State) (x : Nat) : Bool :=
  match s.calls x with
  | some (.admitted ⟨_, _, .finished (.returned _)⟩) => true
  | _ => false

theorem returned_result_correlated_answered :
    ∃ history s call result, Run manager State.initial history s ∧
      s.calls 0 = some (.admitted call) ∧ call.stage = .finished (.returned result) ∧
      result.commandId = call.admission.command.id ∧ ExactlyOnce (AcceptsFor 0) history := by
  obtain ⟨history, s, hrun, hreturned⟩ := exists_run_of_replay (S := manager)
    (s := State.initial) sampleAnswered (fun _ s => hasReturned s 0) (by decide)
  obtain ⟨hresult, -⟩ := returned_result_correlated hrun
  unfold hasReturned at hreturned
  split at hreturned
  · rename_i a cancelRequested result hcall
    obtain ⟨hid, -, -, honce, -⟩ := hresult 0 _ result hcall rfl
    exact ⟨history, s, _, result, hrun, hcall, rfl, hid, honce⟩
  · cases hreturned

end JarvisCore.Manager.ResultCorrelation
