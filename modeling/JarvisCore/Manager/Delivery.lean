import JarvisCore.Manager.SendLocks

namespace JarvisCore.Manager.Delivery

open JarvisCore.Domain.Values
open JarvisCore.Domain.Errors
open JarvisCore.Domain.Models
open JarvisCore.Foundation.AsyncIO
open JarvisCore.Foundation.Dictionary
open JarvisCore.Foundation.TransitionSystem
open JarvisCore.Manager.Operations
open JarvisCore.Manager.Execution
open JarvisCore.Manager.Invariant
open JarvisCore.Manager.Evolution
open JarvisCore.Manager.SendLocks

def isSendOf (x : Nat) : TransportCall → Bool
  | .sendCommand y _ _ _ => y = x
  | .close _ _ _ => false

def sendsIn (x : Nat) (events : List TransportCall) : List TransportCall :=
  events.filter (isSendOf x)

/-- The sends of call `x` in the history. -/
def sends (x : Nat) (history : List Step) : List TransportCall :=
  history.flatMap fun u => sendsIn x u.events

theorem isSendOf_iff {x : Nat} {call : TransportCall} :
    isSendOf x call = true ↔ ∃ transport command sessionId,
      call = .sendCommand x transport command sessionId := by
  cases call with
  | sendCommand y transport command sessionId => simp [isSendOf]
  | close transport code reason => simp [isSendOf]

theorem sendsIn_dispatchOf (x : Nat) (a : Admission) :
    sendsIn x [dispatchOf x a] = [dispatchOf x a] := by
  simp [sendsIn, isSendOf, dispatchOf]

theorem sendsIn_other {x y : Nat} (h : x ≠ y) (a : Admission) :
    sendsIn x [dispatchOf y a] = [] := by
  simp [sendsIn, isSendOf, dispatchOf, Ne.symm h]

section Steps

variable {s t : State} {action : Action} {events : List TransportCall} {x : Nat}

def Enters (s t : State) (x : Nat) (a : Admission) : Prop :=
  (∃ cancelled, t.calls x = some (.admitted ⟨a, cancelled, .sending⟩)) ∧
    (s.calls x = none ∨
      ∃ call, s.calls x = some (.admitted call) ∧ call.stage = .waitingForLock)

/-- A step hands a command to the transport exactly when it takes its call into
`send_command`. -/
theorem sendsIn_step (h : step s action = some (t, events)) :
    (sendsIn x events = [] ∧ ∀ a, ¬ Enters s t x a) ∨
      ∃ a, Enters s t x a ∧ sendsIn x events = [dispatchOf x a] := by
  have hquiet : ∀ {y c : Nat} {call : ExecuteCall} {lock : Lock Nat}, Moves s t y call c lock →
      events = [] → (∀ a, call = .admitted a → a.stage ≠ .sending ∨
        ∃ b, s.calls y = some (.admitted b) ∧ b.stage ≠ .waitingForLock) →
      sendsIn x events = [] ∧ ∀ a, ¬ Enters s t x a := by
    rintro y c call lock hmoves rfl hstage
    refine ⟨rfl, ?_⟩
    rintro a ⟨⟨cancelled, hcall⟩, hbefore⟩
    rw [hmoves.calls] at hcall
    by_cases hx : x = y
    · subst hx
      rw [Function.update_self] at hcall
      rcases hstage _ (Option.some.inj hcall) with hother | ⟨b, hb, hother⟩
      · exact hother rfl
      · rcases hbefore with hnone | ⟨call', hcall', hwaiting⟩
        · rw [hnone] at hb
          cases hb
        · rw [hcall'] at hb
          cases hb
          exact hother hwaiting
    · rw [Function.update_of_ne hx] at hcall
      rcases hbefore with hnone | ⟨call', hcall', hwaiting⟩
      · rw [hnone] at hcall
        cases hcall
      · rw [hcall'] at hcall
        cases hcall
        cases hwaiting
  have hloud : ∀ {y : Nat} (call : AdmittedCall) {lock : Lock Nat},
      Moves s t y (.admitted { call with stage := .sending }) call.admission.connection lock →
      events = [dispatchOf y call.admission] →
      (s.calls y = none ∨ ∃ b, s.calls y = some (.admitted b) ∧ b.stage = .waitingForLock) →
      (sendsIn x events = [] ∧ ∀ a, ¬ Enters s t x a) ∨
        ∃ a, Enters s t x a ∧ sendsIn x events = [dispatchOf x a] := by
    rintro y call lock hmoves rfl hbefore
    by_cases hx : x = y
    · subst hx
      refine .inr ⟨call.admission, ⟨⟨call.cancelRequested, ?_⟩, hbefore⟩,
        sendsIn_dispatchOf x call.admission⟩
      rw [hmoves.calls, Function.update_self]
    · refine .inl ⟨sendsIn_other hx call.admission, ?_⟩
      rintro a ⟨⟨cancelled, hcall⟩, hbefore⟩
      rw [hmoves.calls, Function.update_of_ne hx] at hcall
      rcases hbefore with hnone | ⟨call', hcall', hwaiting⟩
      · rw [hnone] at hcall
        cases hcall
      · rw [hcall'] at hcall
        cases hcall
        cases hwaiting
  cases step_lockStep h with
  | frame _ hactor hcalls _ hevents =>
      refine .inl ⟨?_, ?_⟩
      · refine List.filter_eq_nil_iff.mpr ?_
        intro event hevent hsend
        obtain ⟨transport, command, sessionId, rfl⟩ := isSendOf_iff.mp hsend
        exact hevents x ⟨command, 0, 0, sessionId, transport⟩ hevent
      · rintro a ⟨⟨cancelled, hcall⟩, hbefore⟩
        rw [hcalls] at hcall
        rcases hbefore with hnone | ⟨call', hcall', hwaiting⟩
        · rw [hnone] at hcall
          cases hcall
        · rw [hcall'] at hcall
          cases hcall
          cases hwaiting
  | refused y command timeoutSeconds now error _ hmoves hevents =>
      exact .inl (hquiet hmoves hevents fun a ha => by cases ha)
  | takes y a now hfresh _ hmoves hevents =>
      exact hloud ⟨a, false, .sending⟩ hmoves hevents (.inl hfresh)
  | queues y a now _ _ hmoves hevents =>
      refine .inl (hquiet hmoves hevents ?_)
      rintro a' ha
      cases ha
      exact .inl (by simp)
  | granted y call hcall hstage _ hmoves hevents =>
      exact hloud call hmoves hevents (.inr ⟨call, hcall, hstage⟩)
  | turnedAway y call _ _ _ hmoves hevents =>
      refine .inl (hquiet hmoves hevents ?_)
      rintro a ha
      cases ha
      exact .inl (by simp)
  | abandons y call _ _ hmoves hevents =>
      refine .inl (hquiet hmoves hevents ?_)
      rintro a ha
      cases ha
      exact .inl (by simp)
  | releases y failure now call call' _ _ _ hfree hmoves hevents =>
      refine .inl (hquiet hmoves hevents ?_)
      rintro a ha
      cases ha
      exact .inl hfree.2
  | proceeds y action call call' _ _ _ _ hfree hmoves hevents =>
      refine .inl (hquiet hmoves hevents ?_)
      rintro a ha
      cases ha
      exact .inl hfree.2
  | leaves y call _ hstage hmoves hevents =>
      refine .inl (hquiet hmoves hevents ?_)
      rintro a ha
      cases ha
      refine .inl ?_
      simp [hstage]
  | marks y call hcall hstage hmoves hevents =>
      refine .inl (hquiet hmoves hevents ?_)
      rintro a ha
      exact .inr ⟨call, hcall, by simp [hstage]⟩

end Steps

section Exceptions

def Names (s : State) (x : Nat) (d : UUID) : Prop :=
  ∃ call, s.calls x = some (.admitted call) ∧ call.admission.command.deviceId = d

/-- The futures fail only because the device of the call has gone. -/
def FailOffline (names : Nat → UUID → Prop) (futures : Nat → ResultFuture) : Prop :=
  ∀ x error, futures x = .exception error → ∃ d, names x d ∧ error = .device (.deviceOffline d)

theorem names_entry {s : State} (hinv : Inv s) {c : UUID} {p : PendingCommand}
    (hp : s.pending.lookup c = some p) : Names s p.future p.deviceId := by
  obtain ⟨call, hcall, -, -, hentry⟩ := hinv.owner c p hp
  exact ⟨call, hcall, congrArg PendingCommand.deviceId hentry⟩

variable {names : Nat → UUID → Prop}

theorem FailOffline.mono {names' : Nat → UUID → Prop} {futures : Nat → ResultFuture}
    (h : FailOffline names futures) (hnames : ∀ x d, names x d → names' x d) :
    FailOffline names' futures := by
  intro x error hx
  obtain ⟨d, hd, herror⟩ := h x error hx
  exact ⟨d, hnames x d hd, herror⟩

theorem FailOffline.update {futures : Nat → ResultFuture} (h : FailOffline names futures) (x : Nat)
    {future : ResultFuture} (hfuture : ∀ error, future = .exception error →
      ∃ d, names x d ∧ error = .device (.deviceOffline d)) :
    FailOffline names (Function.update futures x future) := by
  intro y error hy
  by_cases hyx : y = x
  · subst hyx
    rw [Function.update_self] at hy
    exact hfuture error hy
  · rw [Function.update_of_ne hyx] at hy
    exact h y error hy

theorem FailOffline.complete {futures : Nat → ResultFuture} (h : FailOffline names futures)
    (x : Nat) {outcome : ResultFuture} (houtcome : ∀ error, outcome = .exception error →
      ∃ d, names x d ∧ error = .device (.deviceOffline d)) :
    FailOffline names (Function.update futures x ((futures x).completeWith outcome)) := by
  apply h.update
  intro error herror
  cases hfuture : futures x with
  | pending =>
      rw [hfuture] at herror
      exact houtcome error herror
  | result result =>
      rw [hfuture] at herror
      cases herror
  | exception error' =>
      rw [hfuture] at herror
      cases herror
      exact h x error hfuture
  | cancelled =>
      rw [hfuture] at herror
      cases herror

theorem FailOffline.failPending {futures : Nat → ResultFuture} (h : FailOffline names futures)
    {items : List PendingCommand} {d : UUID} (hitems : ∀ p ∈ items, names p.future d) :
    FailOffline names (failPending items (.device (.deviceOffline d)) futures) := by
  induction items generalizing futures with
  | nil => exact h
  | cons p items ih =>
      refine ih ?_ fun q hq => hitems q (List.mem_cons_of_mem p hq)
      apply h.complete
      intro error herror
      cases herror
      exact ⟨d, hitems p List.mem_cons_self, rfl⟩

theorem FailOffline.failPendingOf {futures : Nat → ResultFuture} (h : FailOffline names futures)
    (connections : List (UUID × LiveConnection)) {pending : List PendingCommand}
    (hpending : ∀ p ∈ pending, names p.future p.deviceId) :
    FailOffline names (failPendingOf connections pending futures) := by
  induction connections generalizing futures with
  | nil => exact h
  | cons c connections ih =>
      refine ih (h.failPending ?_)
      intro p hp
      obtain ⟨hp, hd⟩ := List.mem_filter.mp hp
      exact of_decide_eq_true hd ▸ hpending p hp

theorem FailOffline.dropPending {s : State} (h : FailOffline names s.futures) {d : UUID}
    (hentries : ∀ c p, s.pending.lookup c = some p → names p.future p.deviceId) :
    FailOffline names (dropPending d s).futures := by
  refine h.failPending ?_
  intro p hp
  obtain ⟨c, hc, rfl⟩ := mem_removed_iff.mp hp
  exact hentries c p hc

theorem FailOffline.cleanUp {s : State} (h : FailOffline names s.futures) (x : Nat)
    (call : AdmittedCall) (outcome : Outcome) :
    FailOffline names (cleanUp s x call outcome).futures := by
  apply h.complete
  intro error herror
  cases herror

theorem FailOffline.send {s : State} (h : FailOffline names s.futures) (x : Nat)
    (call : AdmittedCall) : FailOffline names (send s x call).1.futures := by
  rcases send_cases s x call with ⟨-, hsend⟩ | ⟨-, hsend⟩
  · rw [hsend]
    exact h
  · rw [hsend]
    exact FailOffline.cleanUp (s := releaseSendLock s call.admission) h x call _

theorem FailOffline.disconnect {s : State} (h : FailOffline names s.futures) (d sessionId : UUID)
    (hentries : ∀ c p, s.pending.lookup c = some p → names p.future p.deviceId) :
    FailOffline names (disconnect s d sessionId).1.futures := by
  rcases disconnect_cases s d sessionId with hsame | ⟨k, -, -, hdropped⟩
  · rw [hsame]
    exact h
  · rw [hdropped]
    exact FailOffline.dropPending (s := s) h hentries

theorem FailOffline.execute {s : State} (h : FailOffline names s.futures) (x : Nat)
    (command : DeviceCommand) (timeoutSeconds : Int) (now : AwareDatetime) :
    FailOffline names (execute s x command timeoutSeconds now).1.futures := by
  have hregistered : ∀ a, FailOffline names (register s x a).futures := by
    intro a
    apply h.update
    intro error herror
    cases herror
  rcases execute_cases s x command timeoutSeconds now with
    ⟨error, -, hr⟩ | ⟨k, lock, -, hr | hr⟩
  · rw [hr]
    exact h
  · rw [hr]
    have hlocked : FailOffline names (setLock (register s x (admissionOf command timeoutSeconds k))
        k.ref lock).futures := hregistered (admissionOf command timeoutSeconds k)
    exact hlocked.send x _
  · rw [hr]
    exact hregistered (admissionOf command timeoutSeconds k)

theorem FailOffline.step {s t : State} {action : Action} {events : List TransportCall}
    (hs : FailOffline names s.futures)
    (hentries : ∀ c p, s.pending.lookup c = some p → names p.future p.deviceId)
    (h : step s action = some (t, events)) : FailOffline names t.futures := by
  cases action with
  | connect d transport sessionId now =>
      cases h
      exact FailOffline.dropPending (s := s) hs hentries
  | activate d sessionId advertised effective now =>
      simp only [Execution.step] at h
      split at h
      · rename_i t' hactivate
        cases h
        obtain ⟨k, k', -, -, -, -, -, -, -, -, rfl⟩ := activate_eq_ok hactivate
        exact hs
      · cases h
        exact hs
  | disconnect d sessionId =>
      cases h
      exact hs.disconnect d sessionId hentries
  | disconnectDevice d code reason =>
      cases h
      exact FailOffline.dropPending (s := s) hs hentries
  | touch d sessionId now =>
      cases h
      rcases touch_cases s d sessionId now with hsame | ⟨k, -, -, hsame⟩
      · rw [hsame]
        exact hs
      · rw [hsame]
        exact hs
  | resolve d sessionId result =>
      cases h
      rcases resolve_cases s d sessionId result with ⟨hsame, -⟩ | ⟨p, -, ⟨-, hdone⟩ | ⟨-, hset⟩⟩
      · rw [hsame]
        exact hs
      · rw [hdone]
        exact hs
      · rw [hset]
        apply hs.update
        intro error herror
        cases herror
  | closeAll =>
      cases h
      refine hs.failPendingOf _ ?_
      intro p hp
      obtain ⟨c, hc⟩ := Dict.mem_values.mp hp
      exact hentries c p hc
  | execute x command timeoutSeconds now =>
      simp only [Execution.step] at h
      split at h
      · have hr := Option.some.inj h
        have hexecute := hs.execute x command timeoutSeconds now
        rw [hr] at hexecute
        exact hexecute
      · cases h
  | resumeLock x =>
      obtain ⟨call, -, h⟩ := onCall_eq_some h
      obtain ⟨-, lock, ⟨-, hr⟩ | ⟨-, hr⟩⟩ := resumeLock_cases h
      · cases hr
        exact FailOffline.cleanUp (s := setLock s call.admission.connection lock) hs x call _
      · have hsend := FailOffline.send (s := setLock s call.admission.connection lock) hs x call
        rw [← hr] at hsend
        exact hsend
  | completeSend x failure now =>
      obtain ⟨call, -, h⟩ := onCall_eq_some h
      obtain ⟨-, ⟨-, hr⟩ | ⟨error, -, ⟨-, hr⟩ | ⟨-, -, hr⟩⟩⟩ := completeSend_cases h
      · cases hr
        rcases beginWait_cases (releaseSendLock s call.admission) x call now with ⟨-, h⟩ | ⟨-, h⟩
        · rw [h]
          exact FailOffline.cleanUp (s := releaseSendLock s call.admission) hs x call _
        · rw [h]
          exact hs
      · cases hr
        exact FailOffline.cleanUp (s := releaseSendLock _ call.admission)
          (hs.disconnect _ _ hentries) x call _
      · cases hr
        exact FailOffline.cleanUp (s := releaseSendLock s call.admission) hs x call _
  | copyResult x =>
      obtain ⟨call, -, h⟩ := onCall_eq_some h
      obtain ⟨w, -, -, -, hr⟩ := copyResult_cases h
      cases hr
      exact hs
  | fireTimer x =>
      obtain ⟨call, -, h⟩ := onCall_eq_some h
      obtain ⟨w, -, -, hr⟩ := fireTimer_cases h
      cases hr
      exact hs
  | resumeWait x =>
      obtain ⟨call, -, h⟩ := onCall_eq_some h
      obtain ⟨w, -, -, hr⟩ := resumeWait_cases h
      cases hr
      exact hs.cleanUp x call _
  | cancel x =>
      obtain ⟨call, -, h⟩ := onCall_eq_some h
      unfold cancel at h
      dsimp only at h
      split at h
      · cases h
        exact hs
      · cases h
        exact hs
      · cases h
        exact hs
      · cases h

theorem FailOffline.offline {s : State} (h : FailOffline (Names s) s.futures) {x : Nat}
    {call : AdmittedCall} (hcall : s.calls x = some (.admitted call)) (error : Raised)
    (herror : s.futures x = .exception error) :
    error = .device (.deviceOffline call.admission.command.deviceId) := by
  obtain ⟨d, ⟨call', hcall', rfl⟩, rfl⟩ := h x error herror
  rw [hcall] at hcall'
  cases hcall'
  rfl

theorem Names.step {s t : State} {action : Action} {events : List TransportCall}
    (h : Execution.step s action = some (t, events)) (x : Nat) (d : UUID) (hx : Names s x d) :
    Names t x d := by
  obtain ⟨call, hcall, hd⟩ := hx
  obtain ⟨call', hcall', hcontinues⟩ := step_continues h hcall
  exact ⟨call', hcall', by rw [hcontinues.admission, hd]⟩

end Exceptions

section Runs

/-- How a call whose command was sent may raise: its device has gone, its time is up, its
caller is gone, or the transport has raised. -/
def RaisedAfterSend (x : Nat) (a : Admission) (history : List Step) (error : Raised) : Prop :=
  error = .device (.deviceOffline a.command.deviceId) ∨
    error = .device (.deviceCommandTimeout a.command.id) ∨ error = .cancelled ∨
    ∃ now, ∃ u ∈ history, u.action = .completeSend x (some error) now

/-- What the stage of an admitted call says of its sends. -/
def StageSent (x : Nat) (a : Admission) (history : List Step) : Stage → Prop
  | .waitingForLock => sends x history = []
  | .sending => sends x history = [dispatchOf x a]
  | .waiting w => sends x history = [dispatchOf x a] ∧
      ∀ error, w.outer = .exception error → error = .device (.deviceOffline a.command.deviceId)
  | .finished (.returned _) => sends x history = [dispatchOf x a]
  | .finished (.raised error) => sends x history = [] ∨
      (sends x history = [dispatchOf x a] ∧ RaisedAfterSend x a history error)

def CallSent (x : Nat) (history : List Step) : Option ExecuteCall → Prop
  | none => sends x history = []
  | some (.refused _ _) => sends x history = []
  | some (.admitted call) => StageSent x call.admission history call.stage

variable {history : List Step} {s t : State} {action : Action} {events : List TransportCall}
  {x : Nat}

theorem sends_cons (u : Step) : sends x (u :: history) = sendsIn x u.events ++ sends x history :=
  List.flatMap_cons

theorem sends_quiet {u : Step} (h : sendsIn x u.events = []) :
    sends x (u :: history) = sends x history := by
  rw [sends_cons, h, List.nil_append]

theorem RaisedAfterSend.cons {a : Admission} {error : Raised}
    (h : RaisedAfterSend x a history error) (u : Step) :
    RaisedAfterSend x a (u :: history) error := by
  rcases h with h | h | h | ⟨now, v, hv, haction⟩
  · exact .inl h
  · exact .inr (.inl h)
  · exact .inr (.inr (.inl h))
  · exact .inr (.inr (.inr ⟨now, v, List.mem_cons_of_mem u hv, haction⟩))

theorem StageSent.cons {a : Admission} {stage : Stage} {u : Step}
    (h : StageSent x a history stage) (hu : sendsIn x u.events = []) :
    StageSent x a (u :: history) stage := by
  have hsame : sends x (u :: history) = sends x history := sends_quiet hu
  cases stage with
  | waitingForLock => exact hsame.trans h
  | sending => exact hsame.trans h
  | waiting w => exact ⟨hsame.trans h.1, h.2⟩
  | finished outcome =>
      cases outcome with
      | returned result => exact hsame.trans h
      | raised error =>
          rcases h with hnone | ⟨hsent, hraised⟩
          · exact .inl (hsame.trans hnone)
          · exact .inr ⟨hsame.trans hsent, hraised.cons u⟩

theorem exception_of_cancelled {future : ResultFuture} {error : Raised}
    (h : future.completeWith .cancelled = .exception error) : future = .exception error := by
  cases future with
  | pending => cases h
  | result result => cases h
  | exception error' => exact h
  | cancelled => cases h

theorem stageSent_settle {a : Admission} {future : ResultFuture}
    (hsends : sends x history = [dispatchOf x a])
    (hfuture : ∀ error, future = .exception error →
      error = .device (.deviceOffline a.command.deviceId)) :
    StageSent x a history (.finished (settle future)) := by
  cases hsettle : future with
  | result result => exact hsends
  | exception error => exact .inr ⟨hsends, .inl (hfuture error hsettle)⟩
  | pending => exact .inr ⟨hsends, .inr (.inr (.inl rfl))⟩
  | cancelled => exact .inr ⟨hsends, .inr (.inr (.inl rfl))⟩

theorem stageSent_waitOutcome {call : AdmittedCall}
    {w : ShieldedWait DeviceCommandResult Raised}
    (hsends : sends x history = [dispatchOf x call.admission])
    (houter : ∀ error, w.outer = .exception error →
      error = .device (.deviceOffline call.admission.command.deviceId)) :
    StageSent x call.admission history (.finished (waitOutcome call w)) := by
  unfold waitOutcome ShieldedWait.conclude
  split
  · rename_i hconcluded
    exact .inr ⟨hsends, .inr (.inr (.inl rfl))⟩
  · exact .inr ⟨hsends, .inr (.inl rfl)⟩
  · rename_i outer hconcluded
    have houter' : outer = w.outer := by
      split at hconcluded
      · cases hconcluded
      · split at hconcluded
        · cases hconcluded
        · exact (WaitOutcome.settled.inj hconcluded).symm
    rw [houter']
    exact stageSent_settle hsends houter

theorem StageSent.sent {a : Admission} {stage : Stage} (h : StageSent x a history stage)
    (hstage : stage ≠ .waitingForLock) (hactive : ∀ outcome, stage ≠ .finished outcome) :
    sends x history = [dispatchOf x a] := by
  cases stage with
  | waitingForLock => exact absurd rfl hstage
  | sending => exact h
  | waiting w => exact h.1
  | finished outcome => exact absurd rfl (hactive outcome)

/-- What an own step of an admitted call that sends nothing makes of its stage. -/
theorem StageSent.continues {call call' : AdmittedCall}
    (hfuture : ∀ error, s.futures x = .exception error →
      error = .device (.deviceOffline call.admission.command.deviceId))
    (hsent : StageSent x call.admission history call.stage)
    (h : Continuation s x call action call') (hquiet : sendsIn x events = [])
    (hstage : call.stage = .waitingForLock → call'.stage ≠ .sending) :
    StageSent x call'.admission (⟨s, action, events, t⟩ :: history) call'.stage := by
  have hold := hsent.cons (u := ⟨s, action, events, t⟩) hquiet
  cases h with
  | interrupted hwaiting =>
      rw [hwaiting] at hold
      exact .inl hold
  | dropped hwaiting =>
      rw [hwaiting] at hold
      exact .inl hold
  | sends hwaiting => exact absurd rfl (hstage hwaiting)
  | failed error now hsending =>
      rw [hsending] at hold
      exact .inr ⟨hold, .inr (.inr (.inr ⟨now, _, List.mem_cons_self, rfl⟩))⟩
  | answered now hsending =>
      rw [hsending] at hold
      exact stageSent_settle hold hfuture
  | waits now hsending =>
      rw [hsending] at hold
      refine ⟨hold, ?_⟩
      intro error herror
      unfold ShieldedWait.start at herror
      split at herror <;> cases herror
  | copies w hwaiting _ hopen =>
      rw [hwaiting] at hold
      refine ⟨hold.1, ?_⟩
      intro error herror
      rw [ShieldedWait.copyFrom, hopen] at herror
      exact hfuture error herror
  | expires w hwaiting =>
      rw [hwaiting] at hold
      refine ⟨hold.1, ?_⟩
      intro error herror
      exact hold.2 error (exception_of_cancelled herror)
  | resumes w hwaiting =>
      rw [hwaiting] at hold
      exact stageSent_waitOutcome hold.1 hold.2
  | cancelled stage hstages =>
      rcases hstages with ⟨hwaiting, rfl⟩ | ⟨hsending, rfl⟩ | ⟨w, hwaiting, rfl⟩
      · rw [hwaiting] at hold
        exact hold
      · rw [hsending] at hold
        exact hold
      · rw [hwaiting] at hold
        refine ⟨hold.1, ?_⟩
        intro error herror
        exact hold.2 error (exception_of_cancelled herror)

theorem CallSent.step (hfutures : FailOffline (Names s) s.futures)
    (hsent : CallSent x history (s.calls x))
    (h : Execution.step s action = some (t, events)) :
    CallSent x (⟨s, action, events, t⟩ :: history) (t.calls x) := by
  have hbare : (∀ call, t.calls x ≠ some (.admitted call)) →
      sends x (⟨s, action, events, t⟩ :: history) = [] := by
    intro hnot
    have hquiet : sendsIn x events = [] := by
      rcases sendsIn_step (x := x) h with ⟨hquiet, -⟩ | ⟨a, ⟨⟨cancelled, hcall⟩, -⟩, -⟩
      · exact hquiet
      · exact absurd hcall (hnot _)
    rw [sends_quiet hquiet]
    cases hcall : s.calls x with
    | none =>
        rw [hcall] at hsent
        exact hsent
    | some call =>
        rw [hcall] at hsent
        cases call with
        | refused command error => exact hsent
        | admitted call =>
            obtain ⟨call', hcall', -⟩ := step_continues h hcall
            exact absurd hcall' (hnot call')
  cases hcall : t.calls x with
  | none => exact hbare fun call h => by rw [hcall] at h; cases h
  | some call' =>
      cases call' with
      | refused command error => exact hbare fun call h => by rw [hcall] at h; cases h
      | admitted call' =>
          rcases sendsIn_step (x := x) h with ⟨hquiet, hnot⟩ | ⟨a, henters, hsends⟩
          · rcases step_admitted h hcall with
              ⟨call, hcall₀, ⟨-, rfl⟩ | ⟨-, hcontinuation⟩⟩ | hstarts
            · rw [hcall₀] at hsent
              exact StageSent.cons hsent hquiet
            · rw [hcall₀] at hsent
              refine StageSent.continues (hfutures.offline hcall₀) hsent hcontinuation hquiet ?_
              intro hwaiting hsending
              obtain ⟨a, cancelled, stage⟩ := call'
              obtain rfl : stage = .sending := hsending
              exact hnot a ⟨⟨cancelled, hcall⟩, .inr ⟨call, hcall₀, hwaiting⟩⟩
            · have hfresh := hstarts.fresh
              simp only at hfresh
              rw [hfresh] at hsent
              obtain ⟨a, cancelled, stage⟩ := call'
              rcases hstarts.stage with hstage | hstage
              · obtain rfl : stage = .waitingForLock := hstage
                exact (sends_quiet hquiet).trans hsent
              · obtain rfl : stage = .sending := hstage
                exact absurd ⟨⟨cancelled, hcall⟩, .inl hfresh⟩ (hnot a)
          · obtain ⟨⟨cancelled, hcall'⟩, hbefore⟩ := henters
            obtain rfl : call' = _ :=
              ExecuteCall.admitted.inj (Option.some.inj (hcall.symm.trans hcall'))
            have hnone : sends x history = [] := by
              rcases hbefore with hfresh | ⟨call, hcall₀, hwaiting⟩
              · rw [hfresh] at hsent
                exact hsent
              · rw [hcall₀, CallSent, hwaiting] at hsent
                exact hsent
            show sends x _ = _
            rw [sends_cons, hsends, hnone]
            rfl

theorem callSent_of_run (hrun : Run manager State.initial history s) (x : Nat) :
    CallSent x history (s.calls x) ∧ FailOffline (Names s) s.futures := by
  induction hrun with
  | nil => exact ⟨rfl, fun y error h => by cases h⟩
  | step action events t hprev h ih =>
      refine ⟨ih.1.step ih.2 h, FailOffline.mono (ih.2.step ?_ h) (Names.step h)⟩
      exact fun c p hp => names_entry (inv_of_reachable hprev.reachable) hp

end Runs

end JarvisCore.Manager.Delivery
