import JarvisCore.Manager.PendingOwnership
import JarvisCore.Manager.SendLocks

namespace JarvisCore.Manager.DispatchOrder

open JarvisCore.Domain.Values
open JarvisCore.Domain.Errors
open JarvisCore.Domain.Models
open JarvisCore.Foundation.AsyncIO
open JarvisCore.Foundation.AsyncIO.Lock
open JarvisCore.Foundation.FairLock
open JarvisCore.Foundation.TransitionSystem
open JarvisCore.Manager.Operations
open JarvisCore.Manager.Execution
open JarvisCore.Manager.Invariant
open JarvisCore.Manager.Evolution
open JarvisCore.Manager.PendingOwnership
open JarvisCore.Manager.SendLocks

def connectionOf (s : State) (x : Nat) : Option Nat :=
  match s.calls x with
  | some (.admitted call) => some call.admission.connection
  | _ => none

def callsOn (c : Nat) (s : State) (xs : List Nat) : List Nat :=
  xs.filter fun x => connectionOf s x = some c

/-- The call that the step registers, when its connection is `c`. -/
def registeredBy (c : Nat) (u : Step) : List Nat :=
  match u.action with
  | .execute x _ _ _ => callsOn c u.target [x]
  | _ => []

def sendingCall : TransportCall → Option Nat
  | .sendCommand x _ _ _ => some x
  | .close _ _ _ => none

/-- The calls for which the step calls `send_command` on connection `c`. -/
def dispatchedBy (c : Nat) (u : Step) : List Nat :=
  callsOn c u.target (u.events.filterMap sendingCall)

/-- The calls registered on connection `c`, the first one first. -/
def registered (c : Nat) (history : List Step) : List Nat :=
  history.reverse.flatMap (registeredBy c)

/-- The calls whose commands were sent on connection `c`, the first one first. -/
def dispatched (c : Nat) (history : List Step) : List Nat :=
  history.reverse.flatMap (dispatchedBy c)

@[simp] theorem registered_cons (c : Nat) (u : Step) (history : List Step) :
    registered c (u :: history) = registered c history ++ registeredBy c u := by
  simp [registered]

@[simp] theorem dispatched_cons (c : Nat) (u : Step) (history : List Step) :
    dispatched c (u :: history) = dispatched c history ++ dispatchedBy c u := by
  simp [dispatched]

@[simp] theorem sendingCall_dispatchOf (x : Nat) (a : Admission) :
    sendingCall (dispatchOf x a) = some x := rfl

theorem sendingCall_eq_some {e : TransportCall} {x : Nat} (h : sendingCall e = some x) :
    ∃ a, e = dispatchOf x a := by
  cases e with
  | sendCommand y transport command sessionId =>
      cases h
      exact ⟨⟨command, 0, 0, sessionId, transport⟩, rfl⟩
  | close transport code reason => cases h

section Step

variable {s t : State} {action : Action} {events : List TransportCall}

theorem connectionOf_moves {x c : Nat} {call : AdmittedCall} {lock : Lock Nat}
    (h : Moves s t x (.admitted call) c lock) :
    connectionOf t x = some call.admission.connection := by
  simp [connectionOf, h.calls]

theorem dispatchedBy_eq_nil (c : Nat) (hevents : ∀ x a, dispatchOf x a ∉ events) :
    dispatchedBy c ⟨s, action, events, t⟩ = [] := by
  have hnone : events.filterMap sendingCall = [] := by
    rw [List.filterMap_eq_nil_iff]
    intro e he
    cases hsending : sendingCall e with
    | none => rfl
    | some x =>
        obtain ⟨a, rfl⟩ := sendingCall_eq_some hsending
        exact absurd he (hevents x a)
  simp [dispatchedBy, hnone, callsOn]

theorem registeredBy_eq_nil (c : Nat)
    (h : ∀ x command timeoutSeconds now, action ≠ .execute x command timeoutSeconds now) :
    registeredBy c ⟨s, action, events, t⟩ = [] := by
  cases action with
  | execute x command timeoutSeconds now => exact absurd rfl (h x command timeoutSeconds now)
  | _ => rfl

end Step

/-- What has been sent on a connection, and what its send lock still lets through, lies in
the order of the registrations. -/
structure InOrder (history : List Step) (s : State) : Prop where
  inOrder : ∀ c, (dispatched c history ++ candidates (s.sendLocks c)).Sublist (registered c history)
  distinct : ∀ c, (registered c history).Nodup
  started : ∀ c x, x ∈ registered c history → s.calls x ≠ none

theorem inOrder_initial : InOrder [] State.initial where
  inOrder _ := .slnil
  distinct _ := List.nodup_nil
  started c x h := by simp [registered] at h

/-- A step that registers nothing: what it sends, and the waiters it leaves, come from the
waiters it found. -/
theorem InOrder.advance {history : List Step} {s t : State} {action : Action}
    {events : List TransportCall} (hinOrder : InOrder history s)
    (h : step s action = some (t, events)) (hregisters : ∀ c,
      registeredBy c ⟨s, action, events, t⟩ = [])
    (hsends : ∀ c, (dispatchedBy c ⟨s, action, events, t⟩ ++ candidates (t.sendLocks c)).Sublist
      (candidates (s.sendLocks c))) :
    InOrder (⟨s, action, events, t⟩ :: history) t := by
  refine ⟨?_, ?_, ?_⟩
  · intro c
    rw [dispatched_cons, registered_cons, hregisters c, List.append_nil, List.append_assoc]
    exact ((hsends c).append_left _).trans (hinOrder.inOrder c)
  · intro c
    rw [registered_cons, hregisters c, List.append_nil]
    exact hinOrder.distinct c
  · intro c x hx
    rw [registered_cons, hregisters c, List.append_nil] at hx
    intro hnone
    exact hinOrder.started c x hx (step_unstarted h hnone).2

theorem InOrder.register {history : List Step} {s t : State} {x : Nat} {a : Admission}
    {now : AwareDatetime} {events : List TransportCall} {call : AdmittedCall} {lock : Lock Nat}
    (hinOrder : InOrder history s) (hfresh : s.calls x = none)
    (hadmission : call.admission = a)
    (hmoves : Moves s t x (.admitted call) a.connection lock)
    (hsends : (dispatchedBy a.connection
        ⟨s, .execute x a.command a.timeoutSeconds now, events, t⟩ ++ candidates lock).Sublist
      (candidates (s.sendLocks a.connection) ++ [x]))
    (hother : ∀ c, c ≠ a.connection →
      dispatchedBy c ⟨s, .execute x a.command a.timeoutSeconds now, events, t⟩ = []) :
    InOrder (⟨s, .execute x a.command a.timeoutSeconds now, events, t⟩ :: history) t := by
  have hconnection : connectionOf t x = some a.connection := by
    rw [connectionOf_moves hmoves, hadmission]
  have hregisters : ∀ c, registeredBy c
      ⟨s, .execute x a.command a.timeoutSeconds now, events, t⟩ =
        if a.connection = c then [x] else [] := by
    intro c
    by_cases hc : a.connection = c
    all_goals simp [registeredBy, callsOn, hconnection, hc]
  have hnew : ∀ c, x ∉ registered c history := fun c hx => hinOrder.started c x hx hfresh
  refine ⟨?_, ?_, ?_⟩
  · intro c
    rw [dispatched_cons, registered_cons, hregisters c, hmoves.sendLocks]
    by_cases hc : a.connection = c
    · subst hc
      rw [Function.update_self, List.append_assoc, if_pos rfl]
      refine (hsends.append_left _).trans ?_
      rw [← List.append_assoc]
      exact (hinOrder.inOrder _).append_right _
    · rw [Function.update_of_ne (Ne.symm hc), hother c (Ne.symm hc), List.append_nil, if_neg hc,
        List.append_nil]
      exact hinOrder.inOrder c
  · intro c
    rw [registered_cons, hregisters c]
    split
    · exact (hinOrder.distinct c).append (List.nodup_singleton x) (by simpa using hnew c)
    · rw [List.append_nil]
      exact hinOrder.distinct c
  · intro c y hy
    rw [hmoves.calls]
    by_cases hyx : y = x
    · rw [hyx, Function.update_self]
      simp
    · rw [Function.update_of_ne hyx]
      rw [registered_cons, hregisters c, List.mem_append] at hy
      rcases hy with hy | hy
      · exact hinOrder.started c y hy
      · split at hy
        · exact absurd (List.mem_singleton.mp hy) hyx
        · cases hy

theorem dispatchedBy_single {s t : State} {action : Action} {x : Nat} {call : AdmittedCall}
    {a : Admission} {d : Nat} {lock : Lock Nat} (h : Moves s t x (.admitted call) d lock) (c : Nat) :
    dispatchedBy c ⟨s, action, [dispatchOf x a], t⟩ =
      if call.admission.connection = c then [x] else [] := by
  by_cases hc : call.admission.connection = c
  all_goals simp [dispatchedBy, callsOn, connectionOf_moves h, hc]

/-- A step of a registered call that dispatches nothing keeps what it changes of its lock
within the waiters it found. -/
theorem InOrder.quiet {history : List Step} {s t : State} {action : Action} {x c : Nat}
    {call : ExecuteCall} {lock : Lock Nat} (hinOrder : InOrder history s)
    (h : step s action = some (t, [])) (hmoves : Moves s t x call c lock)
    (hregisters : ∀ c, registeredBy c ⟨s, action, [], t⟩ = [])
    (hlock : (candidates lock).Sublist (candidates (s.sendLocks c))) :
    InOrder (⟨s, action, [], t⟩ :: history) t := by
  refine hinOrder.advance h hregisters ?_
  intro d
  rw [dispatchedBy_eq_nil d fun _ _ => List.not_mem_nil, List.nil_append, hmoves.sendLocks]
  by_cases hd : d = c
  · rw [hd, Function.update_self]
    exact hlock
  · rw [Function.update_of_ne hd]

theorem InOrder.step {history : List Step} {s t : State} {action : Action}
    {events : List TransportCall} (hinv : LockInv s) (hinOrder : InOrder history s)
    (h : step s action = some (t, events)) : InOrder (⟨s, action, events, t⟩ :: history) t := by
  cases step_lockStep h with
  | frame _ hactor hcalls hlocks hevents =>
      refine hinOrder.advance h (fun c => registeredBy_eq_nil c ?_) ?_
      · rintro x command timeoutSeconds now rfl
        cases hactor
      · intro c
        rw [dispatchedBy_eq_nil c hevents, hlocks]
        exact List.Sublist.refl _
  | refused x command timeoutSeconds now error hfresh hmoves hevents =>
      subst hevents
      refine hinOrder.quiet h hmoves ?_ (List.Sublist.refl _)
      intro c
      simp [registeredBy, callsOn, connectionOf, hmoves.calls]
  | takes x a now hfresh havailable hmoves hevents =>
      subst hevents
      refine hinOrder.register hfresh rfl hmoves ?_ ?_
      · rw [dispatchedBy_single hmoves, if_pos rfl, candidates_take,
          candidates_of_available havailable]
        exact List.Sublist.refl _
      · intro c hc
        rw [dispatchedBy_single hmoves, if_neg (Ne.symm hc)]
  | queues x a now hfresh havailable hmoves hevents =>
      subst hevents
      refine hinOrder.register hfresh rfl hmoves ?_ ?_
      · rw [dispatchedBy_eq_nil _ fun _ _ => List.not_mem_nil, candidates_enqueue]
        exact List.Sublist.refl _
      · exact fun c _ => dispatchedBy_eq_nil c fun _ _ => List.not_mem_nil
  | granted x call hcall hstage hwoken hmoves hevents =>
      subst hevents
      refine hinOrder.advance h (fun _ => rfl) ?_
      intro c
      rw [dispatchedBy_single hmoves, hmoves.sendLocks]
      by_cases hc : call.admission.connection = c
      · subst hc
        rw [if_pos rfl, Function.update_self,
          (hinv.orderly call.admission.connection).candidates_of_woken hwoken]
        exact List.Sublist.refl _
      · rw [if_neg hc, Function.update_of_ne (Ne.symm hc)]
        exact List.Sublist.refl _
  | turnedAway x call hcall hstage hwoken hmoves hevents =>
      subst hevents
      refine hinOrder.quiet h hmoves (fun _ => rfl) ?_
      rw [candidates_release, candidates_grant]
      exact List.filter_sublist
  | abandons x call hcall hstage hmoves hevents =>
      subst hevents
      refine hinOrder.quiet h hmoves (fun _ => rfl) ?_
      rw [candidates_abandon]
      exact List.filter_sublist
  | releases x failure now call call' hcall hstage hadmission hfreed hmoves hevents =>
      subst hevents
      refine hinOrder.quiet h hmoves (fun _ => rfl) ?_
      rw [candidates_release]
  | proceeds x _ call call' hactor hcall hfree hadmission hfreed hmoves hevents =>
      subst hevents
      refine hinOrder.quiet h hmoves (fun c => registeredBy_eq_nil c ?_) (List.Sublist.refl _)
      rintro y command timeoutSeconds now rfl
      cases hactor
      simp [Execution.step, hcall] at h
  | leaves x call hcall hstage hmoves hevents =>
      subst hevents
      exact hinOrder.quiet h hmoves (fun _ => rfl) candidates_cancelWaiter
  | marks x call hcall hstage hmoves hevents =>
      subst hevents
      exact hinOrder.quiet h hmoves (fun _ => rfl) (List.Sublist.refl _)

/-- On each connection the commands are sent at most once and in the order in which their
`execute` calls were admitted. -/
theorem dispatched_in_order {history : List Step} {s : State}
    (hrun : Run manager State.initial history s) (c : Nat) :
    (dispatched c history).Sublist (registered c history) ∧ (registered c history).Nodup := by
  have hinOrder := hrun.historyInvariant InOrder inOrder_initial fun _ _ _ _ _ hprevious hinv h =>
    hinv.step (lockInv_of_reachable hprevious.reachable) h
  exact ⟨(List.sublist_append_left _ _).trans (hinOrder.inOrder c), hinOrder.distinct c⟩

/-- Three commands on one connection, of which the second is cancelled in the queue. -/
def sampleQueue : List Action :=
  sampleOnline ++
    [sampleExecute 0 ⟨3⟩, sampleExecute 1 ⟨4⟩, sampleExecute 2 ⟨5⟩, .cancel 1,
      .completeSend 0 none ⟨0, 0⟩, .resumeLock 1, .resumeLock 2]

theorem dispatched_in_order_cancelled :
    ∃ history s, Run manager State.initial history s ∧ dispatched 0 history = [0, 2] ∧
      registered 0 history = [0, 1, 2] ∧ (registered 0 history).Nodup ∧
      (dispatched 0 history).Sublist (registered 0 history) := by
  obtain ⟨history, s, hrun, htest⟩ := exists_run_of_replay (S := manager) (s := State.initial)
    sampleQueue
    (fun history _ => dispatched 0 history == [0, 2] && registered 0 history == [0, 1, 2])
    (by decide)
  simp only [Bool.and_eq_true, beq_iff_eq] at htest
  obtain ⟨hsublist, hnodup⟩ := dispatched_in_order hrun 0
  exact ⟨history, s, hrun, htest.1, htest.2, hnodup, hsublist⟩

def EndsSend (x : Nat) (u : Step) : Prop := ∃ failure now, u.action = .completeSend x failure now

theorem mem_callsOn {c x : Nat} {s : State} {xs : List Nat} :
    x ∈ callsOn c s xs ↔ x ∈ xs ∧ connectionOf s x = some c := by
  simp [callsOn]

/-- A command is dispatched on a lock that nobody holds, and its call holds it afterwards. -/
theorem holds_of_dispatched {s t : State} {action : Action} {events : List TransportCall}
    (hinv : LockInv s) (h : step s action = some (t, events)) {c x : Nat}
    (hx : x ∈ dispatchedBy c ⟨s, action, events, t⟩) :
    (s.sendLocks c).owner = none ∧ Holds (t.calls x) c := by
  have taken : ∀ {y : Nat} {call : AdmittedCall} {a : Admission} {lock : Lock Nat},
      Moves s t y (.admitted call) call.admission.connection lock →
      call.stage = .sending → events = [dispatchOf y a] →
      (s.sendLocks call.admission.connection).owner = none →
      (s.sendLocks c).owner = none ∧ Holds (t.calls x) c := by
    intro y call a lock hmoves hstage hevents hfree
    obtain ⟨hmem, hconnection⟩ := mem_callsOn.mp hx
    obtain rfl : x = y := by simpa [hevents] using hmem
    rw [connectionOf_moves hmoves] at hconnection
    cases hconnection
    exact ⟨hfree, call, by rw [hmoves.calls, Function.update_self], hstage, rfl⟩
  have silent : (∀ y a, dispatchOf y a ∉ events) → False := by
    intro hevents
    rw [dispatchedBy_eq_nil c hevents] at hx
    cases hx
  cases step_lockStep h with
  | frame _ _ _ _ hevents => exact (silent hevents).elim
  | takes y a now _ havailable hmoves hevents =>
      exact taken hmoves rfl hevents (owner_of_available havailable)
  | granted y call _ _ hwoken hmoves hevents =>
      exact taken hmoves rfl hevents ((hinv.orderly _).wellFormed.owner_of_woken hwoken)
  | refused _ _ _ _ _ _ _ hevents | queues _ _ _ _ _ _ hevents
  | turnedAway _ _ _ _ _ _ hevents | abandons _ _ _ _ _ hevents
  | releases _ _ _ _ _ _ _ _ _ _ hevents | proceeds _ _ _ _ _ _ _ _ _ _ hevents
  | leaves _ _ _ _ _ hevents | marks _ _ _ _ _ hevents =>
      exact (silent fun _ _ => by simp [hevents]).elim

theorem step_holds {s t : State} {action : Action} {events : List TransportCall}
    (h : step s action = some (t, events)) {x c : Nat} (hholds : Holds (s.calls x) c)
    (hkeeps : ∀ failure now, action ≠ .completeSend x failure now) : Holds (t.calls x) c := by
  obtain ⟨call, hcall, hstage, hc⟩ := hholds
  by_cases hactor : actor action = some x
  · obtain ⟨call', hcall', hcontinuation, -⟩ := step_continuation h hactor hcall
    have hadmission := hcontinuation.continues.admission
    cases hcontinuation with
    | failed error now => exact absurd rfl (hkeeps _ now)
    | answered now => exact absurd rfl (hkeeps _ now)
    | waits now => exact absurd rfl (hkeeps _ now)
    | cancelled stage hstages =>
        rcases hstages with ⟨hwaits, -⟩ | ⟨-, rfl⟩ | ⟨w, hwaits, -⟩
        · rw [hstage] at hwaits
          cases hwaits
        · exact ⟨_, hcall', rfl, hc⟩
        · rw [hstage] at hwaits
          cases hwaits
    | interrupted hwaits | dropped hwaits | sends hwaits | copies _ hwaits | expires _ hwaits
    | resumes _ hwaits =>
        rw [hstage] at hwaits
        cases hwaits
  · rw [(step_frame h hactor).1]
    exact ⟨call, hcall, hstage, hc⟩

theorem run_holds {s t : State} {history : List Step} (hrun : Run manager s history t) {x c : Nat}
    (hholds : Holds (s.calls x) c) (hkeeps : ∀ u ∈ history, ¬ EndsSend x u) :
    Holds (t.calls x) c := by
  induction hrun with
  | nil => exact hholds
  | step action events t _ h ih =>
      refine step_holds h (ih fun u hu => hkeeps u (List.mem_cons_of_mem _ hu)) ?_
      intro failure now haction
      exact hkeeps _ List.mem_cons_self ⟨failure, now, haction⟩

/-- The sends of one connection do not overlap: between two dispatches the first
`send_command` returned or raised. -/
theorem sends_do_not_overlap {later middle earlier : List Step} {u v : Step} {s : State}
    (hrun : Run manager State.initial (later ++ v :: (middle ++ u :: earlier)) s) {c x y : Nat}
    (hx : x ∈ dispatchedBy c u) (hy : y ∈ dispatchedBy c v) : ∃ w ∈ middle, EndsSend x w := by
  obtain ⟨hbefore, hsecond, -⟩ := hrun.split
  obtain ⟨hearlier, hfirst, hmiddle⟩ := hbefore.split
  obtain ⟨-, hholds⟩ :=
    holds_of_dispatched (lockInv_of_reachable hearlier.reachable) hfirst hx
  have hinv := lockInv_of_reachable hbefore.reachable
  obtain ⟨hfree, -⟩ := holds_of_dispatched hinv hsecond hy
  by_contra hnone
  have hstill := run_holds hmiddle hholds fun w hw hends => hnone ⟨w, hw, hends⟩
  rw [← hinv.held, hfree] at hstill
  cases hstill

def dispatchesNext (history : List Step) : Bool :=
  match history with
  | [v, _, _, _, _, _, u, _, _] => dispatchedBy 0 v == [2] && dispatchedBy 0 u == [0]
  | _ => false

theorem exists_of_dispatchesNext {history : List Step} (h : dispatchesNext history = true) :
    ∃ v middle u earlier, history = v :: (middle ++ u :: earlier) ∧ 2 ∈ dispatchedBy 0 v ∧
      0 ∈ dispatchedBy 0 u := by
  unfold dispatchesNext at h
  split at h
  · rename_i v w₁ w₂ w₃ w₄ w₅ u e₁ e₂
    simp only [Bool.and_eq_true, beq_iff_eq] at h
    exact ⟨v, [w₁, w₂, w₃, w₄, w₅], u, [e₁, e₂], rfl, by simp [h.1], by simp [h.2]⟩
  · cases h

theorem sends_do_not_overlap_queued :
    ∃ s v middle u earlier, Run manager State.initial (v :: (middle ++ u :: earlier)) s ∧
      2 ∈ dispatchedBy 0 v ∧ 0 ∈ dispatchedBy 0 u ∧ ∃ w ∈ middle, EndsSend 0 w := by
  obtain ⟨history, s, hrun, htest⟩ := exists_run_of_replay (S := manager) (s := State.initial)
    sampleQueue (fun history _ => dispatchesNext history) (by decide)
  obtain ⟨v, middle, u, earlier, rfl, hv, hu⟩ := exists_of_dispatchesNext htest
  have hrun' : Run manager State.initial ([] ++ v :: (middle ++ u :: earlier)) s := hrun
  exact ⟨s, v, middle, u, earlier, hrun, hv, hu, sends_do_not_overlap hrun' hu hv⟩

end JarvisCore.Manager.DispatchOrder
