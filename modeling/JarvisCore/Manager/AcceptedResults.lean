import JarvisCore.Manager.ResultCorrelation

namespace JarvisCore.Manager.AcceptedResults

open JarvisCore.Domain.Values
open JarvisCore.Domain.Errors
open JarvisCore.Domain.Models
open JarvisCore.Foundation.AsyncIO
open JarvisCore.Foundation.Dictionary
open JarvisCore.Foundation.TransitionSystem
open JarvisCore.Manager.Operations
open JarvisCore.Manager.Execution
open JarvisCore.Manager.Invariant
open JarvisCore.Manager.Evolution
open JarvisCore.Manager.PendingOwnership
open JarvisCore.Manager.ResultCorrelation

def Resolved (s : State) (x : Nat) : Prop := ∃ result, s.futures x = .result result

/-- The timer has cancelled the wait of call `x`, whose task has not run again. -/
def Expired (s : State) (x : Nat) : Prop :=
  ∃ call w, s.calls x = some (.admitted call) ∧ call.stage = .waiting w ∧ w.timedOut = true

/-- The steps that part an accepted result from its caller: `resolve` accepts while
the wait is already cancelled, or the timer fires, the send fails, or the connection
turns out to be replaced after `resolve` has accepted. -/
def Loses (s : State) (x : Nat) : Action → Prop
  | .resolve deviceId sessionId result =>
      (∃ p, Addressed s deviceId sessionId result p ∧ p.future = x) ∧ Expired s x
  | .fireTimer y | .completeSend y (some _) _ => y = x ∧ Resolved s x
  | .resumeLock y =>
      y = x ∧ Resolved s x ∧
        ∃ call, s.calls x = some (.admitted call) ∧ ¬ HoldsCurrent s call.admission
  | _ => False

def Lost (history : List Step) (x : Nat) : Prop := ∃ t ∈ history, Loses t.source x t.action

theorem lost_cons {t : Step} {history : List Step} {x : Nat} :
    Lost (t :: history) x ↔ Loses t.source x t.action ∨ Lost history x := by
  simp [Lost]

/-- Where the call of a caller that does not cancel stands when its result has been
accepted. -/
def Undelivered (call : AdmittedCall) : Prop :=
  (∃ w, call.stage = .waiting w ∧ w.timedOut = true) ∨
    ∃ error, call.stage = .finished (.raised error)

def Deliverable (call : AdmittedCall) (result : DeviceCommandResult) : Prop :=
  call.stage = .waitingForLock ∨ call.stage = .sending ∨
    (∃ w, call.stage = .waiting w ∧ w.timedOut = false) ∨
    call.stage = .finished (.returned result)

/-- The invariant behind the delivery of results to a caller that does not cancel. -/
structure Delivery (history : List Step) (s : State) (x : Nat) : Prop where
  notCancelled : ∀ call, s.calls x = some (.admitted call) → call.cancelRequested = false
  outer : ∀ call w, s.calls x = some (.admitted call) → call.stage = .waiting w →
    w.timedOut = false → w.outer = .pending ∨ ((s.futures x).done = true ∧ w.outer = s.futures x)
  early : ¬ Resolved s x → ¬ Lost history x
  undelivered : ∀ call result, s.calls x = some (.admitted call) →
    s.futures x = .result result → Lost history x → Undelivered call
  deliverable : ∀ call result, s.calls x = some (.admitted call) →
    s.futures x = .result result → ¬ Lost history x → Deliverable call result

theorem Resolved.step {s t : State} {action : Action} {events : List TransportCall}
    (hunstarted : Unstarted s) (h : step s action = some (t, events)) {x : Nat}
    (hresolved : Resolved s x) : Resolved t x := by
  obtain ⟨result, hresult⟩ := hresolved
  exact ⟨result, (step_result_iff hunstarted h).mpr (.inl hresult)⟩

theorem Loses.resolved {s t : State} {action : Action} {events : List TransportCall}
    (hinv : Inv s) (hunstarted : Unstarted s) (h : step s action = some (t, events)) {x : Nat}
    (hloses : Loses s x action) : Resolved t x := by
  cases action with
  | resolve deviceId sessionId result =>
      obtain ⟨⟨p, haddressed, hpx⟩, -⟩ := hloses
      have htrue : (resolve s deviceId sessionId result).2 = true := by
        obtain ⟨hp, hd, hs, hr, -⟩ := haddressed
        exact (resolve_true_iff hinv deviceId sessionId result).1.mpr ⟨p, hp, hd, hs, hr⟩
      exact ⟨result, (step_result_iff hunstarted h).mpr
        (.inr ⟨deviceId, sessionId, p, rfl, haddressed.1, hpx, htrue⟩)⟩
  | fireTimer y => exact hloses.2.step hunstarted h
  | completeSend y failure now =>
      cases failure with
      | none => exact absurd hloses id
      | some error => exact hloses.2.step hunstarted h
  | resumeLock y => exact hloses.2.1.step hunstarted h
  | connect | activate | disconnect | disconnectDevice | touch | closeAll | execute | copyResult
  | resumeWait | cancel => exact absurd hloses id

theorem not_carries_of_timedOut {call : AdmittedCall}
    {w : ShieldedWait DeviceCommandResult Raised} (hcancel : call.cancelRequested = false)
    (htimer : w.timedOut = true) : ∃ error, waitOutcome call w = .raised error := by
  refine ⟨.device (.deviceCommandTimeout call.admission.command.id), ?_⟩
  simp [waitOutcome, ShieldedWait.conclude, hcancel, htimer]

theorem undelivered_of_loses {s t : State} {action : Action} {events : List TransportCall}
    (h : step s action = some (t, events)) {x : Nat} (hloses : Loses s x action)
    {call : AdmittedCall} (hcall : t.calls x = some (.admitted call)) : Undelivered call := by
  rcases step_admitted h hcall with ⟨call₀, hcall₀, ⟨hactor, rfl⟩ | ⟨hactor, hcontinuation⟩⟩ | hstarts
  · cases action with
    | resolve deviceId sessionId result =>
        obtain ⟨-, call', w, hcall', hstage, htimer⟩ := hloses
        rw [hcall₀] at hcall'
        cases hcall'
        exact .inl ⟨w, hstage, htimer⟩
    | completeSend y failure now =>
        cases failure with
        | none => exact absurd hloses id
        | some error => exact absurd (congrArg some hloses.1) hactor
    | fireTimer y | resumeLock y => exact absurd (congrArg some hloses.1) hactor
    | connect | activate | disconnect | disconnectDevice | touch | closeAll | execute
    | copyResult | resumeWait | cancel => exact absurd hloses id
  · cases hcontinuation with
    | interrupted | dropped | failed => exact .inr ⟨_, rfl⟩
    | expires w => exact .inl ⟨w.fireTimer, rfl, rfl⟩
    | sends _ hcurrent =>
        obtain ⟨-, -, call', hcall', hgone⟩ := hloses
        rw [hcall₀] at hcall'
        cases hcall'
        exact absurd hcurrent hgone
    | answered | waits | copies | resumes | cancelled => exact absurd hloses id
  · obtain ⟨k, now, haction, -⟩ := hstarts.registers
    obtain rfl : action = _ := haction
    exact absurd hloses id

theorem undelivered_of_continuation {s : State} {x : Nat} {call call' : AdmittedCall}
    {action : Action} (h : Continuation s x call action call') (haction : action ≠ .cancel x)
    (hcancel : call.cancelRequested = false) (hundelivered : Undelivered call) :
    Undelivered call' := by
  rcases hundelivered with ⟨w, hw, htimer⟩ | ⟨error, hfinished⟩
  · cases h with
    | interrupted hstage | dropped hstage | sends hstage | failed _ _ hstage | answered _ hstage
    | waits _ hstage =>
        rw [hw] at hstage
        cases hstage
    | copies w' hstage =>
        obtain rfl : w = w' := by simpa [hw] using hstage
        exact .inl ⟨_, rfl, htimer⟩
    | expires w' hstage hrunning =>
        obtain rfl : w = w' := by simpa [hw] using hstage
        rw [htimer] at hrunning
        cases hrunning
    | resumes w' hstage =>
        obtain rfl : w = w' := by simpa [hw] using hstage
        obtain ⟨error, herror⟩ := not_carries_of_timedOut hcancel htimer
        exact .inr ⟨error, congrArg Stage.finished herror⟩
    | cancelled => exact absurd rfl haction
  · have hsame := h.continues.finished (by
      intro hactive
      exact hactive _ hfinished)
    rw [hsame]
    exact .inr ⟨error, hfinished⟩

theorem deliverable_of_continuation {s : State} {x : Nat} {call call' : AdmittedCall}
    {action : Action} {result : DeviceCommandResult} (h : Continuation s x call action call')
    (hcall : s.calls x = some (.admitted call)) (hresult : s.futures x = .result result)
    (haction : action ≠ .cancel x) (hcancel : call.cancelRequested = false)
    (houter : ∀ w, call.stage = .waiting w → w.timedOut = false →
      w.outer = .pending ∨ ((s.futures x).done = true ∧ w.outer = s.futures x))
    (hloses : ¬ Loses s x action) (hdeliverable : Deliverable call result) :
    Deliverable call' result := by
  have hresolved : Resolved s x := ⟨result, hresult⟩
  have running : ∀ w, call.stage = .waiting w → w.timedOut = false := by
    intro w hw
    rcases hdeliverable with hstage | hstage | ⟨w', hstage, htimer⟩ | hstage
    all_goals
      rw [hw] at hstage
      cases hstage
    exact htimer
  cases h with
  | interrupted _ hrequested =>
      rw [hcancel] at hrequested
      cases hrequested
  | dropped _ hgone => exact absurd ⟨rfl, hresolved, call, hcall, hgone⟩ hloses
  | sends => exact .inr (.inl rfl)
  | failed => exact absurd ⟨rfl, hresolved⟩ hloses
  | answered =>
      refine .inr (.inr (.inr ?_))
      rw [hresult]
      rfl
  | waits _ _ hopen =>
      rw [hresult] at hopen
      cases hopen
  | copies w hstage => exact .inr (.inr (.inl ⟨_, rfl, running w hstage⟩))
  | expires => exact absurd ⟨rfl, hresolved⟩ hloses
  | resumes w hstage hdone =>
      have htimer := running w hstage
      rcases houter w hstage htimer with hpending | ⟨-, hcopied⟩
      · rw [hpending] at hdone
        cases hdone
      · refine .inr (.inr (.inr ?_))
        simp [waitOutcome, ShieldedWait.conclude, hcancel, htimer, hcopied, hresult, settle]
  | cancelled => exact absurd rfl haction

/-- A call whose result is accepted now is active, and its timer has not fired. -/
theorem deliverable_of_accepts {s t : State} {action : Action} {events : List TransportCall}
    {x : Nat} {call : AdmittedCall} {result : DeviceCommandResult} (hinv : Inv s)
    (h : step s action = some (t, events)) (hcall : t.calls x = some (.admitted call))
    (haccepts : Accepts ⟨s, action, events, t⟩ x result) (hloses : ¬ Loses s x action) :
    Deliverable call result := by
  obtain ⟨deviceId, sessionId, p, hresolve, haddressed, hpx, -⟩ := haccepts.spec h
  obtain rfl : action = .resolve deviceId sessionId result := hresolve
  obtain ⟨call₀, hcall₀, hactive, -⟩ := hinv.owner _ p haddressed.1
  rw [hpx] at hcall₀
  have hsame := (step_frame h (y := x) (by simp [actor])).1
  rw [hcall, hcall₀] at hsame
  cases hsame
  cases hstage : call.stage with
  | waitingForLock => exact .inl hstage
  | sending => exact .inr (.inl hstage)
  | finished outcome => exact absurd hstage (hactive outcome)
  | waiting w =>
      refine .inr (.inr (.inl ⟨w, hstage, ?_⟩))
      cases htimer : w.timedOut with
      | false => rfl
      | true => exact absurd ⟨⟨p, haddressed, hpx⟩, call, w, hcall₀, hstage, htimer⟩ hloses

section Steps

variable {history : List Step} {s t : State} {action : Action} {events : List TransportCall}
  {x : Nat} {call : AdmittedCall}

theorem Delivery.step_notCancelled (hdelivery : Delivery history s x) (haction : action ≠ .cancel x)
    (h : step s action = some (t, events)) (hcall : t.calls x = some (.admitted call)) :
    call.cancelRequested = false := by
  rcases step_admitted h hcall with ⟨call₀, hcall₀, ⟨-, rfl⟩ | ⟨-, hcontinuation⟩⟩ | hstarts
  · exact hdelivery.notCancelled call hcall₀
  · have hcancel := hdelivery.notCancelled call₀ hcall₀
    cases hcontinuation with
    | cancelled => exact absurd rfl haction
    | interrupted | dropped | sends | failed | answered | copies | expires | resumes => exact hcancel
    | waits => rfl
  · exact hstarts.notCancelled

theorem Delivery.step_outer {w : ShieldedWait DeviceCommandResult Raised}
    (hdelivery : Delivery history s x) (haction : action ≠ .cancel x)
    (h : step s action = some (t, events)) (hcall : t.calls x = some (.admitted call))
    (hstage : call.stage = .waiting w) (htimer : w.timedOut = false) :
    w.outer = .pending ∨ ((t.futures x).done = true ∧ w.outer = t.futures x) := by
  rcases step_admitted h hcall with ⟨call₀, hcall₀, ⟨-, rfl⟩ | ⟨-, hcontinuation⟩⟩ | hstarts
  · rcases hdelivery.outer call w hcall₀ hstage htimer with hopen | ⟨hdone, hcopied⟩
    · exact .inl hopen
    · rw [step_futures_of_done h hcall₀ hdone]
      exact .inr ⟨hdone, hcopied⟩
  · cases hcontinuation with
    | interrupted | dropped | sends | failed | answered | resumes => cases hstage
    | waits =>
        cases hstage
        simp only [ShieldedWait.start] at htimer ⊢
        split at htimer
        · cases htimer
        · rename_i hpositive
          simp [hpositive]
    | copies w' _ hdone hopen =>
        cases hstage
        rw [step_futures_of_done h hcall₀ hdone]
        exact .inr ⟨hdone, by simp [ShieldedWait.copyFrom, hopen]⟩
    | expires =>
        cases hstage
        cases htimer
    | cancelled => exact absurd rfl haction
  · rcases hstarts.stage with hinitial | hinitial
    all_goals
      rw [hstage] at hinitial
      cases hinitial

theorem Delivery.step_early (hinv : Inv s) (hunstarted : Unstarted s)
    (hdelivery : Delivery history s x) (h : step s action = some (t, events))
    (hopen : ¬ Resolved t x) : ¬ Lost (⟨s, action, events, t⟩ :: history) x := by
  intro hlost
  rcases lost_cons.mp hlost with hloses | hlost
  · exact hopen (hloses.resolved hinv hunstarted h)
  · exact hdelivery.early (fun hresolved => hopen (hresolved.step hunstarted h)) hlost

theorem Delivery.step_undelivered (hunstarted : Unstarted s) (hdelivery : Delivery history s x)
    (haction : action ≠ .cancel x) (h : step s action = some (t, events))
    (hcall : t.calls x = some (.admitted call))
    (hlost : Lost (⟨s, action, events, t⟩ :: history) x) : Undelivered call := by
  rcases lost_cons.mp hlost with hloses | hlost
  · exact undelivered_of_loses h hloses hcall
  have hresolved : Resolved s x := by
    by_contra hopen
    exact hdelivery.early hopen hlost
  obtain ⟨held, hheld⟩ := hresolved
  rcases step_admitted h hcall with ⟨call₀, hcall₀, ⟨-, rfl⟩ | ⟨-, hcontinuation⟩⟩ | hstarts
  · exact hdelivery.undelivered call held hcall₀ hheld hlost
  · exact undelivered_of_continuation hcontinuation haction
      (hdelivery.notCancelled call₀ hcall₀) (hdelivery.undelivered call₀ held hcall₀ hheld hlost)
  · exact absurd hheld (hunstarted x held hstarts.fresh)

theorem Delivery.step_deliverable {result : DeviceCommandResult} (hinv : Inv s)
    (hunstarted : Unstarted s) (hdelivery : Delivery history s x) (haction : action ≠ .cancel x)
    (h : step s action = some (t, events)) (hcall : t.calls x = some (.admitted call))
    (hresult : t.futures x = .result result)
    (hdelivered : ¬ Lost (⟨s, action, events, t⟩ :: history) x) : Deliverable call result := by
  have hloses : ¬ Loses s x action := fun hloses => hdelivered (lost_cons.mpr (.inl hloses))
  have hearlier : ¬ Lost history x := fun hlost => hdelivered (lost_cons.mpr (.inr hlost))
  rcases (step_result_iff hunstarted h).mp hresult with hheld | haccepts
  · rcases step_admitted h hcall with ⟨call₀, hcall₀, ⟨-, rfl⟩ | ⟨-, hcontinuation⟩⟩ | hstarts
    · exact hdelivery.deliverable call result hcall₀ hheld hearlier
    · exact deliverable_of_continuation hcontinuation hcall₀ hheld haction
        (hdelivery.notCancelled call₀ hcall₀)
        (fun w hw htimer => hdelivery.outer call₀ w hcall₀ hw htimer) hloses
        (hdelivery.deliverable call₀ result hcall₀ hheld hearlier)
    · exact absurd hheld (hunstarted x result hstarts.fresh)
  · exact deliverable_of_accepts hinv h hcall haccepts hloses

theorem Delivery.step (hinv : Inv s) (hunstarted : Unstarted s) (hdelivery : Delivery history s x)
    (haction : action ≠ .cancel x) (h : step s action = some (t, events)) :
    Delivery (⟨s, action, events, t⟩ :: history) t x where
  notCancelled _ hcall := hdelivery.step_notCancelled haction h hcall
  outer _ _ hcall hstage htimer := hdelivery.step_outer haction h hcall hstage htimer
  early := hdelivery.step_early hinv hunstarted h
  undelivered _ _ hcall _ hlost := hdelivery.step_undelivered hunstarted haction h hcall hlost
  deliverable _ _ hcall hresult hdelivered :=
    hdelivery.step_deliverable hinv hunstarted haction h hcall hresult hdelivered

end Steps

theorem delivery_of_run {history : List Step} {s : State}
    (hrun : Run manager State.initial history s) {x : Nat}
    (hcaller : ∀ t ∈ history, t.action ≠ .cancel x) : Delivery history s x := by
  induction hrun with
  | nil =>
      refine ⟨?_, ?_, ?_, ?_, ?_⟩
      · intro call hcall
        cases hcall
      · intro call w hcall
        cases hcall
      · rintro - ⟨t, ht, -⟩
        cases ht
      · intro call result hcall
        cases hcall
      · intro call result hcall
        cases hcall
  | step action events t hrun h ih =>
      have hprevious := ih fun u hu => hcaller u (List.mem_cons_of_mem _ hu)
      exact hprevious.step (inv_of_reachable hrun.reachable)
        (unstarted_of_reachable hrun.reachable) (hcaller _ List.mem_cons_self) h

def Returned (s : State) (x : Nat) (result : DeviceCommandResult) : Prop :=
  ∃ call, s.calls x = some (.admitted call) ∧ call.stage = .finished (.returned result)

/-- The call reaches its result by steps of its own. -/
def ReachesReturn (s : State) (x : Nat) (result : DeviceCommandResult) : Prop :=
  ∃ later t, Run manager s later t ∧
    (∀ u ∈ later, actor u.action = some x ∧ u.action ≠ .cancel x) ∧ Returned t x result

theorem ReachesReturn.of_step {s t : State} {action : Action} {events : List TransportCall}
    {x : Nat} {result : DeviceCommandResult} (h : step s action = some (t, events))
    (hactor : actor action = some x) (haction : action ≠ .cancel x)
    (hreturn : ReachesReturn t x result) : ReachesReturn s x result := by
  obtain ⟨later, last, hrun, hown, hreturned⟩ := hreturn
  refine ⟨_, last, Run.append (.step action events t .nil h) hrun, ?_, hreturned⟩
  intro u hu
  rcases List.mem_append.mp hu with hu | hu
  · exact hown u hu
  · obtain rfl := List.mem_singleton.mp hu
    exact ⟨hactor, haction⟩

theorem ReachesReturn.of_returned {s : State} {x : Nat} {result : DeviceCommandResult}
    (hreturned : Returned s x result) : ReachesReturn s x result :=
  ⟨[], s, .nil, by simp, hreturned⟩

section OwnSteps

variable {s : State} {x : Nat} {call : AdmittedCall} {result : DeviceCommandResult}
  (hcall : s.calls x = some (.admitted call)) (hresult : s.futures x = .result result)
include hcall hresult

theorem reachesReturn_of_sending (hstage : call.stage = .sending) : ReachesReturn s x result := by
  have h : step s (.completeSend x none ⟨0, 0⟩) =
      some (cleanUp (releaseSendLock s call.admission) x call (settle (s.futures x)), []) := by
    simp [step, onCall, hcall, completeSend, hstage, beginWait, releaseSendLock, setLock, hresult]
  refine .of_step h rfl (by simp) (.of_returned ⟨_, cleanUp_calls_self _ _ _ _, ?_⟩)
  rw [hresult]
  rfl

omit hresult in
theorem reachesReturn_of_copied (hcancel : call.cancelRequested = false)
    {w : ShieldedWait DeviceCommandResult Raised} (hstage : call.stage = .waiting w)
    (htimer : w.timedOut = false) (houter : w.outer = .result result) :
    ReachesReturn s x result := by
  have h : step s (.resumeWait x) = some (cleanUp s x call (waitOutcome call w), []) := by
    simp [step, onCall, hcall, resumeWait, hstage, houter]
  refine .of_step h rfl (by simp) (.of_returned ⟨_, cleanUp_calls_self _ _ _ _, ?_⟩)
  simp [waitOutcome, ShieldedWait.conclude, hcancel, htimer, houter, settle]

theorem reachesReturn_of_waiting (hcancel : call.cancelRequested = false)
    {w : ShieldedWait DeviceCommandResult Raised} (hstage : call.stage = .waiting w)
    (htimer : w.timedOut = false)
    (houter : w.outer = .pending ∨ ((s.futures x).done = true ∧ w.outer = s.futures x)) :
    ReachesReturn s x result := by
  rcases houter with hopen | ⟨-, hcopied⟩
  · have h : step s (.copyResult x) = some (setCall s x (.admitted
        { call with stage := .waiting (w.copyFrom (s.futures x)) }), []) := by
      simp [step, onCall, hcall, copyResult, hstage, hopen, hresult]
    refine .of_step h rfl (by simp) ?_
    exact reachesReturn_of_copied (setCall_calls_self _ _ _) hcancel rfl htimer
      (by simp [ShieldedWait.copyFrom, hopen, hresult])
  · exact reachesReturn_of_copied hcall hcancel hstage htimer (hcopied.trans hresult)

theorem reachesReturn_of_woken (hcancel : call.cancelRequested = false)
    (hstage : call.stage = .waitingForLock)
    (hwoken : (s.sendLocks call.admission.connection).waiterState x = some .woken)
    (hcurrent : HoldsCurrent s call.admission) : ReachesReturn s x result := by
  have h : step s (.resumeLock x) = some (send (setLock s call.admission.connection
      ((s.sendLocks call.admission.connection).grant x)) x call) := by
    simp [step, onCall, hcall, resumeLock, hstage, hwoken, hcancel]
  rcases send_cases (setLock s call.admission.connection
      ((s.sendLocks call.admission.connection).grant x)) x call with ⟨-, hs⟩ | ⟨hgone, -⟩
  · rw [hs] at h
    exact .of_step h rfl (by simp)
      (reachesReturn_of_sending (setCall_calls_self _ _ _) hresult rfl)
  · obtain ⟨k, hk, href⟩ := hcurrent
    exact absurd href (hgone k hk)

end OwnSteps

/-- A call whose caller does not cancel gets an accepted result exactly when no step
of the run loses it; until then its own steps lead there, once it has the send lock. -/
theorem accepted_result_returned_iff {history : List Step} {s : State}
    (hrun : Run manager State.initial history s) {x : Nat} {call : AdmittedCall}
    (hcall : s.calls x = some (.admitted call)) (hcaller : ∀ t ∈ history, t.action ≠ .cancel x)
    {result : DeviceCommandResult} (haccepted : ∃ t ∈ history, Accepts t x result) :
    (∀ outcome, call.stage = .finished outcome →
      (outcome = .returned result ↔ ¬ Lost history x)) ∧
    (¬ Lost history x →
      (call.stage = .waitingForLock →
        (s.sendLocks call.admission.connection).waiterState x = some .woken ∧
          HoldsCurrent s call.admission) →
      ReachesReturn s x result) := by
  have hdelivery := delivery_of_run hrun hcaller
  have hresult : s.futures x = .result result :=
    ((accepted_of_run hrun).recorded x result).mpr haccepted
  have hcancel := hdelivery.notCancelled call hcall
  constructor
  · intro outcome hstage
    constructor
    · rintro rfl hlost
      rcases hdelivery.undelivered call result hcall hresult hlost with ⟨w, hw, -⟩ | ⟨error, he⟩
      · rw [hstage] at hw
        cases hw
      · rw [hstage] at he
        cases he
    · intro hdelivered
      rcases hdelivery.deliverable call result hcall hresult hdelivered with
        hw | hw | ⟨w, hw, -⟩ | hw
      all_goals
        rw [hstage] at hw
        cases hw
      rfl
  · intro hdelivered hlock
    rcases hdelivery.deliverable call result hcall hresult hdelivered with
      hstage | hstage | ⟨w, hstage, htimer⟩ | hstage
    · obtain ⟨hwoken, hcurrent⟩ := hlock hstage
      exact reachesReturn_of_woken hcall hresult hcancel hstage hwoken hcurrent
    · exact reachesReturn_of_sending hcall hresult hstage
    · exact reachesReturn_of_waiting hcall hresult hcancel hstage htimer
        (hdelivery.outer call w hcall hstage htimer)
    · exact .of_returned ⟨call, hcall, hstage⟩

def acceptsUncancelled (history : List Step) : Bool :=
  history.any (fun t => match t.action with
    | .resolve deviceId sessionId result =>
        (t.source.pending.lookup result.commandId).any (fun p => p.future = 0) &&
          (resolve t.source deviceId sessionId result).2
    | _ => false) &&
  history.all fun t => match t.action with
    | .cancel _ => false
    | _ => true

theorem accepts_of_acceptsUncancelled {history : List Step}
    (h : acceptsUncancelled history = true) :
    (∃ result, ∃ t ∈ history, Accepts t 0 result) ∧ ∀ t ∈ history, t.action ≠ .cancel 0 := by
  simp only [acceptsUncancelled, Bool.and_eq_true, List.any_eq_true, List.all_eq_true] at h
  obtain ⟨⟨t, ht, haccepts⟩, hcaller⟩ := h
  constructor
  · split at haccepts
    · rename_i deviceId sessionId result haction
      simp only [Bool.and_eq_true, Option.any_eq_true, decide_eq_true_eq] at haccepts
      obtain ⟨⟨p, hp, hpx⟩, htrue⟩ := haccepts
      exact ⟨result, t, ht, deviceId, sessionId, p, haction, hp, hpx, htrue⟩
    · cases haccepts
  · intro u hu hcancel
    have := hcaller u hu
    rw [hcancel] at this
    cases this

theorem accepted_result_returned_answered :
    ∃ history s call result, Run manager State.initial history s ∧
      s.calls 0 = some (.admitted call) ∧ call.stage = .finished (.returned result) ∧
      ¬ Lost history 0 := by
  obtain ⟨history, s, hrun, htest⟩ := exists_run_of_replay (S := manager) (s := State.initial)
    sampleAnswered (fun history s => hasReturned s 0 && acceptsUncancelled history) (by decide)
  simp only [Bool.and_eq_true] at htest
  obtain ⟨hreturned, haccepts⟩ := htest
  unfold hasReturned at hreturned
  split at hreturned
  · rename_i a cancelRequested result hcall
    have hcaller := (accepts_of_acceptsUncancelled haccepts).2
    have hheld := outcomeSound_of_reachable hrun.reachable 0 _ result hcall rfl
    have haccepted := ((accepted_of_run hrun).recorded 0 result).mp hheld
    exact ⟨history, s, _, result, hrun, hcall, rfl,
      ((accepted_result_returned_iff hrun hcall hcaller haccepted).1 _ rfl).mp rfl⟩
  · cases hreturned

/-- The timer fires, the answer arrives and is accepted, and only then does the
waiting task run again. -/
def sampleLate : List Action :=
  sampleOnline ++
    [sampleExecute 0 ⟨3⟩, .completeSend 0 none ⟨0, 0⟩, .fireTimer 0,
      .resolve sampleDevice sampleSession (sampleResult ⟨3⟩), .resumeWait 0]

def hasTimedOut (s : State) (x : Nat) : Bool :=
  match s.calls x with
  | some (.admitted ⟨_, _, .finished (.raised (.device (.deviceCommandTimeout _)))⟩) => true
  | _ => false

theorem accepted_result_lost :
    ¬ ∀ history s x call outcome result, Run manager State.initial history s →
      s.calls x = some (.admitted call) → (∀ t ∈ history, t.action ≠ .cancel x) →
      (∃ t ∈ history, Accepts t x result) → call.stage = .finished outcome →
      outcome = .returned result := by
  intro hclaim
  obtain ⟨history, s, hrun, htest⟩ := exists_run_of_replay (S := manager) (s := State.initial)
    sampleLate (fun history s => hasTimedOut s 0 && acceptsUncancelled history) (by decide)
  simp only [Bool.and_eq_true] at htest
  obtain ⟨htimeout, haccepts⟩ := htest
  obtain ⟨⟨result, haccepted⟩, hcaller⟩ := accepts_of_acceptsUncancelled haccepts
  unfold hasTimedOut at htimeout
  split at htimeout
  · rename_i a cancelRequested commandId hcall
    have hreturned := hclaim history s 0 _ _ result hrun hcall hcaller haccepted rfl
    cases hreturned
  · cases htimeout

end JarvisCore.Manager.AcceptedResults
