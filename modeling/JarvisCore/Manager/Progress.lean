import Mathlib.Algebra.BigOperators.Ring.Finset
import JarvisCore.Foundation.Progress
import JarvisCore.Manager.PendingOwnership
import JarvisCore.Manager.SendLocks

namespace JarvisCore.Manager.Progress

open JarvisCore.Domain.Values
open JarvisCore.Domain.Errors
open JarvisCore.Domain.Models
open JarvisCore.Foundation.AsyncIO
open JarvisCore.Foundation.AsyncIO.Lock
open JarvisCore.Foundation.Dictionary
open JarvisCore.Foundation.FairLock
open JarvisCore.Foundation.Progress
open JarvisCore.Foundation.TransitionSystem
open JarvisCore.Manager.Operations
open JarvisCore.Manager.Execution
open JarvisCore.Manager.Invariant
open JarvisCore.Manager.Evolution
open JarvisCore.Manager.PendingOwnership
open JarvisCore.Manager.SendLocks

/-- The step continues a call that has been entered: no operation is called and nobody
cancels. -/
def Proceeds : Action → Prop
  | .resumeLock _ | .completeSend _ _ _ | .copyResult _ | .fireTimer _ | .resumeWait _ => True
  | _ => False

/-- The steps that a call in this stage has left at most. -/
def Stage.stepsLeft : Stage → Nat
  | .waitingForLock => 5
  | .sending => 4
  | .waiting w => 1 + (if w.outer.done then 0 else 1) + (if w.timedOut then 0 else 1)
  | .finished _ => 0

def stepsLeft : Option ExecuteCall → Nat
  | some (.admitted call) => Stage.stepsLeft call.stage
  | _ => 0

/-- A timer that has fired has ended the wait. -/
def TimersSettled (s : State) : Prop :=
  ∀ x call w, s.calls x = some (.admitted call) → call.stage = .waiting w →
    w.timedOut = true → w.outer.done = true

theorem stage_stepsLeft_le (stage : Stage) : Stage.stepsLeft stage ≤ 5 := by
  cases stage with
  | waiting w =>
      simp only [Stage.stepsLeft]
      split <;> split <;> omega
  | _ => simp [Stage.stepsLeft]

theorem stepsLeft_le (call : Option ExecuteCall) : stepsLeft call ≤ 5 := by
  rcases call with - | ⟨- | call⟩
  · exact Nat.zero_le _
  · exact Nat.zero_le _
  · exact stage_stepsLeft_le call.stage

theorem active_of_stepsLeft {call : Option ExecuteCall} (h : stepsLeft call ≠ 0) :
    ∃ call', call = some (.admitted call') ∧ call'.Active := by
  rcases call with _ | ⟨_ | call⟩
  · exact absurd rfl h
  · exact absurd rfl h
  · refine ⟨call, rfl, ?_⟩
    intro outcome hfinished
    refine h ?_
    rw [stepsLeft, hfinished]
    rfl

theorem continuation_stepsLeft {s : State} {x : Nat} {call call' : AdmittedCall} {action : Action}
    (h : Continuation s x call action call') (hproceeds : Proceeds action) :
    Stage.stepsLeft call'.stage < Stage.stepsLeft call.stage := by
  cases h with
  | interrupted hstage | dropped hstage | sends hstage | failed _ _ hstage | answered _ hstage =>
      simp [Stage.stepsLeft, hstage]
  | waits _ hstage =>
      simp only [Stage.stepsLeft, hstage]
      split <;> split <;> omega
  | copies w hstage hdone hopen =>
      have hcopied : (w.copyFrom (s.futures x)).outer.done = true := by
        simp [ShieldedWait.copyFrom, hopen, hdone]
      have htimer : (w.copyFrom (s.futures x)).timedOut = w.timedOut := rfl
      simp [Stage.stepsLeft, hstage, hcopied, htimer, hopen]
  | expires w hstage htimer =>
      have hover : w.fireTimer.outer.done = true := FutureState.done_completeWith rfl
      have hfired : w.fireTimer.timedOut = true := rfl
      simp only [Stage.stepsLeft, hstage, hover, hfired, htimer, if_true, Bool.false_eq_true,
        if_false]
      omega
  | resumes w hstage =>
      simp only [Stage.stepsLeft, hstage]
      omega
  | cancelled stage hstages => exact hproceeds.elim

section Steps

variable {s t : State} {action : Action} {events : List TransportCall}

/-- A step that continues a call brings it closer to its end and leaves the others where
they are. -/
theorem proceeds_stepsLeft (h : step s action = some (t, events)) (hproceeds : Proceeds action) :
    ∃ x, stepsLeft (t.calls x) < stepsLeft (s.calls x) ∧ ∀ y, y ≠ x → t.calls y = s.calls y := by
  have hactor : ∃ x call, actor action = some x ∧ s.calls x = some (.admitted call) := by
    cases action with
    | resumeLock x | completeSend x failure now | copyResult x | fireTimer x | resumeWait x =>
        obtain ⟨call, hcall, -⟩ := onCall_eq_some h
        exact ⟨x, call, rfl, hcall⟩
    | connect | activate | disconnect | disconnectDevice | touch | resolve | closeAll | execute
    | cancel => exact hproceeds.elim
  obtain ⟨x, call, hactor, hcall⟩ := hactor
  obtain ⟨call', hcall', hcontinuation, -⟩ := step_continuation h hactor hcall
  refine ⟨x, ?_, ?_⟩
  · rw [hcall, hcall']
    exact continuation_stepsLeft hcontinuation hproceeds
  · intro y hy
    refine (step_frame h ?_).1
    rw [hactor]
    exact fun heq => hy (Option.some.inj heq).symm

def EnteredWithin (calls : Finset Nat) (s : State) : Prop := ∀ x, s.calls x ≠ none → x ∈ calls

theorem enteredWithin_step {calls : Finset Nat} (hcalls : EnteredWithin calls s)
    (h : step s action = some (t, events)) :
    EnteredWithin (calls ∪ (actor action).toFinset) t := by
  intro x hx
  by_cases hactor : actor action = some x
  · exact Finset.mem_union_right _ (by simp [hactor])
  · rw [(step_frame h hactor).1] at hx
    exact Finset.mem_union_left _ (hcalls x hx)

theorem exists_enteredWithin (hs : Reachable manager s) : ∃ calls, EnteredWithin calls s := by
  refine hs.invariant (fun s => ∃ calls, EnteredWithin calls s) ⟨∅, fun x hx => absurd rfl hx⟩ ?_
  rintro s action t events ⟨calls, hcalls⟩ h
  exact ⟨_, enteredWithin_step hcalls h⟩

end Steps

theorem timersSettled_step {s t : State} {action : Action} {events : List TransportCall}
    (hsettled : TimersSettled s) (h : step s action = some (t, events)) : TimersSettled t := by
  intro x call w hcall hstage htimer
  rcases step_admitted h hcall with ⟨call₀, hcall₀, ⟨-, rfl⟩ | ⟨-, hcontinuation⟩⟩ | hstarts
  · exact hsettled x call w hcall₀ hstage htimer
  · cases hcontinuation with
    | waits now =>
        cases hstage
        simp only [ShieldedWait.start] at htimer ⊢
        split at htimer
        · rename_i hover
          simp [hover]
        · cases htimer
    | copies w₀ hstage₀ hdone hopen =>
        cases hstage
        simp [ShieldedWait.copyFrom, hopen, hdone]
    | expires w₀ =>
        cases hstage
        exact FutureState.done_completeWith rfl
    | cancelled stage hstages =>
        rcases hstages with ⟨-, rfl⟩ | ⟨-, rfl⟩ | ⟨w₀, -, rfl⟩
        · cases hstage
        · cases hstage
        · cases hstage
          exact FutureState.done_completeWith rfl
    | interrupted | dropped | sends | failed | answered | resumes => cases hstage
  · rcases hstarts.stage with hwaits | hsends
    · rw [hstage] at hwaits
      cases hwaits
    · rw [hstage] at hsends
      cases hsends

theorem timersSettled_of_reachable {s : State} (hs : Reachable manager s) : TimersSettled s := by
  refine hs.invariant TimersSettled ?_ fun _ _ _ _ hsettled h => timersSettled_step hsettled h
  intro x call w hcall
  cases hcall

section Enabled

variable {s : State} {x : Nat} {call : AdmittedCall} (hcall : s.calls x = some (.admitted call))
include hcall

theorem not_stuck_of_sending (hstage : call.stage = .sending) : ¬ Stuck manager Proceeds s := by
  intro hstuck
  have hnone : onCall s x (fun call => completeSend s x call none ⟨0, 0⟩) = none :=
    hstuck (.completeSend x none ⟨0, 0⟩) trivial
  simp [onCall, hcall, completeSend, hstage] at hnone

theorem not_stuck_of_waiting {w : ShieldedWait DeviceCommandResult Raised}
    (hstage : call.stage = .waiting w) (hsettled : w.timedOut = true → w.outer.done = true) :
    ¬ Stuck manager Proceeds s := by
  intro hstuck
  cases htimer : w.timedOut with
  | false =>
      have hnone : onCall s x (fireTimer s x) = none := hstuck (.fireTimer x) trivial
      simp [onCall, hcall, fireTimer, hstage, htimer] at hnone
  | true =>
      have hnone : onCall s x (resumeWait s x) = none := hstuck (.resumeWait x) trivial
      simp [onCall, hcall, resumeWait, hstage, hsettled htimer] at hnone

/-- The first waiter of a send lock runs once it is woken, or once it is cancelled. -/
theorem not_stuck_of_first (hinv : LockInv s) (hstage : call.stage = .waitingForLock)
    {state : WaiterState} (hstate : state ≠ .pending)
    (hwaiter : (x, state) ∈ (s.sendLocks call.admission.connection).waiters) :
    ¬ Stuck manager Proceeds s := by
  intro hstuck
  have hnone : onCall s x (resumeLock s x) = none := hstuck (.resumeLock x) trivial
  have hlookup := (hinv.orderly call.admission.connection).waiterState_of_mem hwaiter
  cases state with
  | pending => exact hstate rfl
  | woken =>
      simp only [onCall, hcall, resumeLock, hstage, hlookup] at hnone
      split at hnone
      · cases hnone
      · cases hnone
  | cancelled =>
      obtain ⟨call', hcall', hflag⟩ := hinv.cancelled _ x hwaiter
      obtain rfl : call' = call := by simpa [hcall'] using hcall
      simp [onCall, hcall, resumeLock, hstage, hlookup, hflag] at hnone

/-- While a call waits for its send lock, some call goes on: the one that holds the lock, or
the first one in the queue. -/
theorem not_stuck_of_waitingForLock (hinv : LockInv s) (hstage : call.stage = .waitingForLock) :
    ¬ Stuck manager Proceeds s := by
  have hmem := hinv.mem_queue hcall hstage
  have horderly := hinv.orderly call.admission.connection
  cases howner : (s.sendLocks call.admission.connection).owner with
  | some y =>
      obtain ⟨holder, hholder, hsending, -⟩ := (hinv.held _ y).mp howner
      exact not_stuck_of_sending hholder hsending
  | none =>
      cases hwaiters : (s.sendLocks call.admission.connection).waiters with
      | nil => simp [queue, hwaiters] at hmem
      | cons first rest =>
          have hfirst : first ∈ (s.sendLocks call.admission.connection).waiters := by
            simp [hwaiters]
          obtain ⟨waiter, hwaiter, hwaits, hc⟩ :=
            (hinv.queued _ first.1).mp (List.mem_map.mpr ⟨first, hfirst, rfl⟩)
          exact not_stuck_of_first hwaiter hinv hwaits
            (horderly.awake howner first (by simp [hwaiters])) (hc ▸ hfirst)

end Enabled

/-- Nothing is left of any call: all have finished, no entry is pending, and nobody holds a
send lock or waits for one. -/
structure Drained (s : State) : Prop where
  finished : ∀ x call, s.calls x = some (.admitted call) → ∃ outcome, call.stage = .finished outcome
  pending : ∀ c, s.pending.lookup c = none
  sendLocks : ∀ c, s.sendLocks c = .free

theorem drained_of_finished {s : State} (hs : Reachable manager s)
    (hfinished : ∀ x call, s.calls x = some (.admitted call) →
      ∃ outcome, call.stage = .finished outcome) : Drained s := by
  have hinv := lockInv_of_reachable hs
  refine ⟨hfinished, ?_, ?_⟩
  · intro c
    cases hc : s.pending.lookup c with
    | none => rfl
    | some p =>
        obtain ⟨call, hcall, hactive, -⟩ := (inv_of_reachable hs).owner c p hc
        obtain ⟨outcome, houtcome⟩ := hfinished _ call hcall
        exact absurd houtcome (hactive outcome)
  · intro c
    have howner : (s.sendLocks c).owner = none := by
      cases h : (s.sendLocks c).owner with
      | none => rfl
      | some x =>
          obtain ⟨call, hcall, hstage, -⟩ := (hinv.held c x).mp h
          obtain ⟨outcome, houtcome⟩ := hfinished x call hcall
          rw [hstage] at houtcome
          cases houtcome
    have hwaiters : (s.sendLocks c).waiters = [] := by
      rw [← List.map_eq_nil_iff, List.eq_nil_iff_forall_not_mem]
      intro x hx
      obtain ⟨call, hcall, hstage, -⟩ := (hinv.queued c x).mp hx
      obtain ⟨outcome, houtcome⟩ := hfinished x call hcall
      rw [hstage] at houtcome
      cases houtcome
    cases hlock : s.sendLocks c with
    | mk owner waiters =>
        rw [hlock] at howner hwaiters
        simp only at howner hwaiters
        rw [howner, hwaiters]
        rfl

theorem stuck_iff_drained {s : State} (hs : Reachable manager s) :
    Stuck manager Proceeds s ↔ Drained s := by
  constructor
  · intro hstuck
    refine drained_of_finished hs ?_
    intro x call hcall
    cases hstage : call.stage with
    | finished outcome => exact ⟨outcome, rfl⟩
    | sending => exact absurd hstuck (not_stuck_of_sending hcall hstage)
    | waiting w =>
        exact absurd hstuck (not_stuck_of_waiting hcall hstage
          (timersSettled_of_reachable hs x call w hcall hstage))
    | waitingForLock =>
        exact absurd hstuck (not_stuck_of_waitingForLock hcall (lockInv_of_reachable hs) hstage)
  · intro hdrained action hproceeds
    cases hfire : manager.step s action with
    | none => rfl
    | some r =>
        obtain ⟨t, events⟩ := r
        obtain ⟨x, hlt, -⟩ := proceeds_stepsLeft hfire hproceeds
        cases hcall : s.calls x with
        | none => simp [hcall, stepsLeft] at hlt
        | some e =>
            cases e with
            | refused => simp [hcall, stepsLeft] at hlt
            | admitted call =>
                obtain ⟨outcome, houtcome⟩ := hdrained.finished x call hcall
                simp [hcall, stepsLeft, houtcome, Stage.stepsLeft] at hlt

theorem Run.reachable_of {s t : State} {history : List Step} (hs : Reachable manager s)
    (hrun : Run manager s history t) : Reachable manager t := by
  obtain ⟨earlier, hearlier⟩ := hs
  exact ⟨_, hearlier.append hrun⟩

/-- From every reachable state the calls drain, whatever the order in which the tasks run:
after at most five steps for each unfinished call nothing more can run, and where nothing can
run, every call has finished and left no entry and no lock behind. -/
theorem calls_drain {s : State} (hs : Reachable manager s) :
    ∃ unfinished : Finset Nat,
      (∀ x, x ∈ unfinished ↔ ∃ call, s.calls x = some (.admitted call) ∧ call.Active) ∧
      (∃ history t, Run manager s history t ∧ Only Proceeds history ∧ Drained t) ∧
      ∀ history t, Run manager s history t → Only Proceeds history →
        history.length ≤ 5 * unfinished.card ∧ (Stuck manager Proceeds t ↔ Drained t) := by
  classical
  obtain ⟨calls, hcalls⟩ := exists_enteredWithin hs
  let left (s : State) (x : Nat) : Nat := stepsLeft (s.calls x)
  have hlower : ∀ s action t events, Reachable manager s → Proceeds action →
      manager.step s action = some (t, events) → Reachable manager t ∧ Lowers left s t := by
    intro s action t events hs hproceeds hfire
    obtain ⟨x, hlt, hother⟩ := proceeds_stepsLeft hfire hproceeds
    refine ⟨Run.reachable_of hs (.step action events t .nil hfire), x, hlt, ?_⟩
    intro y hy
    exact congrArg stepsLeft (hother y hy)
  have hmem (x : Nat) : x ∈ calls.filter (fun x =>
      ∃ call, s.calls x = some (.admitted call) ∧ call.Active) ↔
      ∃ call, s.calls x = some (.admitted call) ∧ call.Active := by
    rw [Finset.mem_filter, and_iff_right_iff_imp]
    rintro ⟨call, hcall, -⟩
    exact hcalls x (by simp [hcall])
  obtain ⟨⟨history, t, hrun, honly, hstuck⟩, hbound⟩ :=
    tasks_drain (S := manager) (Reachable manager) hlower hs
      (calls.filter fun x => ∃ call, s.calls x = some (.admitted call) ∧ call.Active)
      fun x hleft => (hmem x).mpr (active_of_stepsLeft hleft)
  refine ⟨_, hmem, ?_, ?_⟩
  · exact ⟨history, t, hrun, honly, (stuck_iff_drained (Run.reachable_of hs hrun)).mp hstuck⟩
  · intro history t hrun honly
    obtain ⟨ht, hlength⟩ := hbound history t hrun honly
    refine ⟨hlength.trans ?_, stuck_iff_drained ht⟩
    refine (Finset.sum_le_card_nsmul _ _ 5 fun x _ => stepsLeft_le _).trans_eq ?_
    rw [nsmul_eq_mul, Nat.cast_id, Nat.mul_comm]

def sampleBusy : List Action := sampleOnline ++ [sampleExecute 0 ⟨3⟩, sampleExecute 1 ⟨4⟩]

theorem calls_drain_busy :
    ∃ s, Reachable manager s ∧ isSending s 0 = true ∧
      ∃ unfinished : Finset Nat,
        (∀ x, x ∈ unfinished ↔ ∃ call, s.calls x = some (.admitted call) ∧ call.Active) ∧
        (∃ history t, Run manager s history t ∧ Only Proceeds history ∧ Drained t) ∧
        ∀ history t, Run manager s history t → Only Proceeds history →
          history.length ≤ 5 * unfinished.card ∧ (Stuck manager Proceeds t ↔ Drained t) := by
  obtain ⟨history, s, hrun, hsending⟩ := exists_run_of_replay (S := manager) (s := State.initial)
    sampleBusy (fun _ s => isSending s 0) (by decide)
  exact ⟨s, hrun.reachable, hsending, calls_drain hrun.reachable⟩

end JarvisCore.Manager.Progress
