import JarvisCore.Manager.Progress
import JarvisCore.Pairing.Progress
import JarvisCore.Service.Delivery
import JarvisCore.Service.GrantContainment

namespace JarvisCore.Service.Progress

open JarvisCore.Domain.Values
open JarvisCore.Domain.Errors
open JarvisCore.Domain.Models
open JarvisCore.Foundation.AsyncIO
open JarvisCore.Foundation.LockUsers
open JarvisCore.Foundation.Progress
open JarvisCore.Foundation.TransitionSystem
open JarvisCore.Manager.Operations (TransportCall)
open JarvisCore.Pairing.Backends
open JarvisCore.Pairing.Progress (sqlTerminates)
open JarvisCore.Service.CallSteps
open JarvisCore.Service.Delivery
open JarvisCore.Service.Effects
open JarvisCore.Service.GrantContainment (sampleDevice sampleDispatched sampleService)
open JarvisCore.Service.Invariant
open JarvisCore.Service.Operations

variable {Digest : Type} {config : Config Digest}

section Roles

def callRole (call : Call) : Role :=
  match call.stage with
  | .waitingForLock cancelRequested => .waits cancelRequested
  | .finished _ => .idle
  | _ => if call.request.underLock then .holds else .idle

def role (s : State config) (x : Nat) : Role :=
  match s.calls x with
  | some call => callRole call
  | none => .idle

theorem role_eq {s : State config} {x : Nat} {call : Call} (h : s.calls x = some call) :
    role s x = callRole call := by
  rw [role, h]

theorem role_fresh {s : State config} {x : Nat} (h : s.calls x = none) : role s x = .idle := by
  rw [role, h]

theorem role_of_calls {s t : State config} {x : Nat} {call : Call}
    (h : t.calls = Function.update s.calls x (some call)) :
    role t = Function.update (role s) x (callRole call) := by
  funext y
  by_cases hy : y = x
  · subst hy
    simp [role, h]
  · simp [role, h, Function.update_of_ne hy]

theorem callRole_of_inSection {request : Request} {stage : Stage} (h : InSection stage) :
    callRole ⟨request, stage⟩ = if request.underLock then .holds else .idle := by
  cases stage with
  | waitingForLock | finished => exact h.elim
  | _ => rfl

theorem callRole_underLock {request : Request} {stage : Stage} (h : InSection stage)
    (hunder : request.underLock = true) : callRole ⟨request, stage⟩ = .holds := by
  rw [callRole_of_inSection h, if_pos hunder]

theorem waiting_of_callRole {request : Request} {stage : Stage} {cancelled : Bool}
    (h : callRole ⟨request, stage⟩ = .waits cancelled) : stage = .waitingForLock cancelled := by
  have hsection : ¬ InSection stage := by
    intro hsection
    rw [callRole_of_inSection hsection] at h
    split at h
    · cases h
    · cases h
  cases stage with
  | waitingForLock cancelRequested => exact congrArg _ (Role.waits.inj h)
  | finished outcome => cases h
  | _ => exact absurd trivial hsection

theorem uses_of_calls {s t : State config} {x : Nat} {call : Call}
    (hcalls : t.calls = Function.update s.calls x (some call))
    (huse : Use x s.lifecycle (role s x) t.lifecycle (callRole call)) :
    Uses s.lifecycle (role s) t.lifecycle (role t) := by
  rw [role_of_calls hcalls]
  exact .step x _ (.refl _ _) huse

theorem uses_of_same {s t : State config} {x : Nat} {call : Call}
    (hcalls : t.calls = Function.update s.calls x (some call)) (hsame : callRole call = role s x)
    (hlock : t.lifecycle = s.lifecycle) : Uses s.lifecycle (role s) t.lifecycle (role t) := by
  rw [role_of_calls hcalls, hsame, Function.update_eq_self, hlock]
  exact .refl _ _

theorem finish_lifecycle (s : State config) (x : Nat) (request : Request)
    (outcome : Except Raised Value) : (finish s x request outcome).lifecycle =
      if request.underLock then s.lifecycle.release else s.lifecycle := by
  unfold finish
  dsimp only
  split <;> rfl

theorem finish_uses {s : State config} (s' : State config) {x : Nat} {request : Request}
    {stage : Stage}
    (hcall : s.calls x = some ⟨request, stage⟩) (hsection : InSection stage)
    (hcalls : s'.calls = s.calls) (hlock : s'.lifecycle = s.lifecycle)
    (outcome : Except Raised Value) :
    Uses s.lifecycle (role s) (finish s' x request outcome).lifecycle
      (role (finish s' x request outcome)) := by
  have hrole : role s x = if request.underLock then .holds else .idle :=
    (role_eq hcall).trans (callRole_of_inSection hsection)
  have hupdate : (finish s' x request outcome).calls =
      Function.update s.calls x (some ⟨request, .finished outcome⟩) := by
    rw [finish_update, hcalls]
  have hfinished := finish_lifecycle s' x request outcome
  rw [hlock] at hfinished
  cases hunder : request.underLock with
  | false =>
      rw [hunder] at hrole hfinished
      exact uses_of_same hupdate hrole.symm hfinished
  | true =>
      rw [hunder] at hrole hfinished
      refine uses_of_calls hupdate ?_
      rw [hrole, hfinished]
      exact .releases

theorem concludes_uses {s : State config} {x : Nat} {request : Request} {stage : Stage}
    {value : Value} {manager : Manager.Operations.State} {calls : List TransportCall}
    {r : Result config} (hcall : s.calls x = some ⟨request, stage⟩) (hsection : InSection stage)
    (h : Concludes s x request value manager calls r) :
    Uses s.lifecycle (role s) r.1.lifecycle (role r.1) := by
  rcases h with ⟨-, rfl⟩ | ⟨transport, code, reason, -, rfl⟩
  · exact finish_uses { s with manager } hcall hsection rfl rfl _
  · refine uses_of_same rfl ?_ rfl
    rw [role_eq hcall, callRole_of_inSection hsection]
    rfl

theorem proceeds_uses {s : State config} {x : Nat} {request : Request} {stage : Stage}
    {r : Result config} (hcall : s.calls x = some ⟨request, stage⟩)
    (h : Proceeds s x request stage r) : Uses s.lifecycle (role s) r.1.lifecycle (role r.1) := by
  cases h with
  | refuses _ error hanswered =>
      exact finish_uses s hcall (inSection_of_answered hanswered) rfl rfl _
  | reads => exact finish_uses s hcall trivial rfl rfl _
  | activates _ _ _ _ _ _ manager => exact finish_uses { s with manager } hcall trivial rfl rfl _
  | identifies | strips | saves | executes =>
      refine uses_of_same rfl ?_ rfl
      rw [role_eq hcall]
      rfl
  | disconnects _ _ _ _ _ _ _ hstage _ _ hconcludes =>
      refine concludes_uses hcall ?_ hconcludes
      rcases hstage with ⟨-, rfl, -⟩ | rfl
      · trivial
      · trivial
  | connects _ _ _ _ _ _ _ _ _ _ _ _ _ hconcludes => exact concludes_uses hcall trivial hconcludes

end Roles

variable [DecidableEq Digest] {s t : State config} {action : Action config}
  {events : List (Event Digest)}

section Locks

/-- The calls that wait for the lock have requests that run under it. -/
def WaitsUnderLock (s : State config) : Prop :=
  ∀ x request cancelled, s.calls x = some ⟨request, .waitingForLock cancelled⟩ →
    request.underLock = true

omit [DecidableEq Digest] in
theorem begin_uses (s : State config) (x : Nat) (request : Request) (hfresh : s.calls x = none) :
    Uses s.lifecycle (role s) (begin s x request).lifecycle (role (begin s x request)) := by
  have hrole := role_fresh hfresh
  have locked (d : UUID) (hunder : request.underLock = true) :
      ∀ t : State config, t =
        (if s.lifecycle.available then
          State.setCall { s with lifecycle := s.lifecycle.take x } x
            ⟨request, .awaitingGet d none⟩
        else
          State.setCall { s with lifecycle := s.lifecycle.enqueue x } x
            ⟨request, .waitingForLock false⟩) →
      Uses s.lifecycle (role s) t.lifecycle (role t) := by
    rintro t rfl
    split
    · rename_i havailable
      refine uses_of_calls rfl ?_
      have hholds : callRole ⟨request, .awaitingGet d none⟩ = .holds :=
        callRole_underLock trivial hunder
      rw [hrole, hholds]
      exact .takes havailable
    · rename_i havailable
      refine uses_of_calls rfl ?_
      rw [hrole]
      exact .queues (Bool.eq_false_of_not_eq_true havailable)
  cases request with
  | authenticate | getDevice | activateDevice | executeCommand =>
      exact uses_of_same rfl hrole.symm rfl
  | revokeDevice d => exact locked d rfl _ rfl
  | connectDevice d transport => exact locked d rfl _ rfl

omit [DecidableEq Digest] in
theorem resumeLock_uses {x : Nat} {call : Call} {r : Result config}
    (hwaits : WaitsUnderLock s) (hcall : s.calls x = some call)
    (h : resumeLock s x call = some r) :
    Uses s.lifecycle (role s) r.1.lifecycle (role r.1) := by
  obtain ⟨request, stage⟩ := call
  unfold resumeLock at h
  split at h
  · rename_i d hstage hwoken _
    obtain rfl : stage = .waitingForLock false := hstage
    cases h
    refine uses_of_calls rfl ?_
    have hholds : callRole ⟨request, .awaitingGet d none⟩ = .holds :=
      callRole_underLock trivial (hwaits x request false hcall)
    rw [role_eq hcall, hholds]
    exact .granted false hwoken
  · rename_i hstage _
    obtain rfl : stage = .waitingForLock true := hstage
    cases h
    refine uses_of_calls rfl ?_
    rw [role_eq hcall]
    exact .abandons true
  · rename_i hstage _
    obtain rfl : stage = .waitingForLock true := hstage
    cases h
    refine uses_of_calls rfl ?_
    rw [role_eq hcall]
    exact .abandons true
  · cases h

omit [DecidableEq Digest] in
theorem endClose_uses {x : Nat} {call : Call} {failure : Option Raised} {r : Result config}
    (hcall : s.calls x = some call) (h : endClose s x call failure = some r) :
    Uses s.lifecycle (role s) r.1.lifecycle (role r.1) := by
  obtain ⟨request, stage⟩ := call
  unfold endClose at h
  split at h
  · rename_i value hstage
    obtain rfl : stage = _ := hstage
    cases h
    exact finish_uses s hcall trivial rfl rfl _
  · rename_i value error hstage
    obtain rfl : stage = _ := hstage
    split at h
    · cases h
      exact finish_uses s hcall trivial rfl rfl _
    · cases h
      exact finish_uses s hcall trivial rfl rfl _
  · cases h

theorem step_uses (hwaits : WaitsUnderLock s) (h : step s action = some (t, events)) :
    Uses s.lifecycle (role s) t.lifecycle (role t) := by
  cases action with
  | createPairing | pairDevice | resumePairing | cancelPairing | advancePairing =>
      simp only [step, pairingAction] at h
      split at h
      · cases h
        exact .refl _ _
      · cases h
  | connections managerAction =>
      obtain ⟨manager, calls, -, rfl, -⟩ := connections_step h
      exact .refl _ _
  | start x request =>
      simp only [step, pairingAction] at h
      split at h
      · rename_i hfresh
        cases h
        exact begin_uses s x request hfresh
      · cases h
  | resumeLock x =>
      obtain ⟨call, hcall, h⟩ := onCall_eq_some h
      exact resumeLock_uses hwaits hcall h
  | cancelWaiting x =>
      obtain ⟨⟨request, stage⟩, hcall, h⟩ := onCall_eq_some h
      unfold cancelWaiting at h
      split at h
      · rename_i cancelled hstage
        obtain rfl : stage = .waitingForLock cancelled := hstage
        cases h
        refine uses_of_calls rfl ?_
        rw [role_eq hcall]
        exact .marks cancelled
      · cases h
  | perform x outcome =>
      obtain ⟨⟨request, stage⟩, hcall, h⟩ := onCall_eq_some h
      unfold perform at h
      split at h
      · rename_i hstage
        obtain rfl : stage = _ := hstage
        cases h
        refine uses_of_same rfl ?_ rfl
        rw [role_eq hcall]
        rfl
      · rename_i hstage
        obtain rfl : stage = _ := hstage
        cases h
        refine uses_of_same rfl ?_ rfl
        rw [role_eq hcall]
        rfl
      · rename_i hstage
        obtain rfl : stage = _ := hstage
        cases h
        refine uses_of_same rfl ?_ rfl
        rw [role_eq hcall]
        rfl
      · rename_i hstage
        obtain rfl : stage = _ := hstage
        cases h
        refine uses_of_same rfl ?_ rfl
        rw [role_eq hcall]
        rfl
      · cases h
  | proceed x inputs =>
      obtain ⟨call, hcall, h⟩ := onCall_eq_some h
      exact proceeds_uses hcall (proceed_proceeds h)
  | endClose x failure =>
      obtain ⟨call, hcall, h⟩ := onCall_eq_some h
      exact endClose_uses hcall h

omit [DecidableEq Digest] in
theorem begin_waiting {x : Nat} {request request' : Request} {cancelled : Bool}
    (hfresh : s.calls x = none)
    (h : (begin s x request).calls x = some ⟨request', .waitingForLock cancelled⟩) :
    request'.underLock = true := by
  have elsewhere {call : Call} (hstage : ∀ c, call.stage ≠ .waitingForLock c)
      (hcall : (s.setCall x call).calls x = some ⟨request', .waitingForLock cancelled⟩) :
      request'.underLock = true := by
    rcases setCall_calls hcall with ⟨-, rfl⟩ | hsame
    · exact absurd rfl (hstage cancelled)
    · rw [hfresh] at hsame
      cases hsame
  obtain ⟨stage, hstarted⟩ := begin_calls s x request
  rw [hstarted] at h
  obtain rfl : request = request' := congrArg Call.request (Option.some.inj h)
  rw [h] at hstarted
  cases request with
  | authenticate | getDevice | activateDevice | executeCommand =>
      exact elsewhere (by simp) hstarted
  | revokeDevice | connectDevice => rfl

theorem step_waitsUnderLock (hwaits : WaitsUnderLock s)
    (h : step s action = some (t, events)) : WaitsUnderLock t := by
  intro x request cancelled hx
  have hold : s.calls x = some ⟨request, .waitingForLock cancelled⟩ → request.underLock = true :=
    hwaits x request cancelled
  cases step_effect h with
  | pairs | passes => exact hold hx
  | begins y request₀ stage₀ _ hbegins =>
      rcases setCall_calls hx with ⟨-, hcall⟩ | hsame
      · cases hcall
        cases hbegins
      · exact hold hsame
  | queues y request₀ lock hfresh =>
      rcases setCall_calls hx with ⟨rfl, hcall⟩ | hsame
      · simp only [step, pairingAction, hfresh] at h
        obtain ⟨hbegun, -⟩ := Prod.mk.inj (Option.some.inj h)
        rw [← hbegun] at hx
        exact begin_waiting hfresh hx
      · exact hold hsame
  | enters _ y request₀ d lock =>
      rcases setCall_calls hx with ⟨-, hcall⟩ | hsame
      · cases hcall
      · exact hold hsame
  | leaves _ y request₀ cancelled₀ stage₀ lock hwaiting =>
      rcases setCall_calls hx with ⟨rfl, hcall⟩ | hsame
      · obtain rfl : request = request₀ := congrArg Call.request hcall
        exact hwaits x request cancelled₀ hwaiting
      · exact hold hsame
  | performs y request₀ stage₀ stage₁ tables _ _ hperforms =>
      rcases setCall_calls hx with ⟨-, hcall⟩ | hsame
      · cases hcall
        cases hperforms
      · exact hold hsame
  | proceeds y request₀ stage₀ r inputs _ hproceeds =>
      cases hproceeds with
      | refuses | reads | activates =>
          rcases finish_calls hx with ⟨-, hcall⟩ | hsame
          · cases hcall
          · exact hold hsame
      | identifies | strips | saves | executes =>
          rcases setCall_calls hx with ⟨-, hcall⟩ | hsame
          · cases hcall
          · exact hold hsame
      | disconnects _ _ _ _ _ _ _ _ _ _ hconcludes =>
          rcases concluded_calls hconcludes hx with ⟨-, -, hconcluding⟩ | hsame
          · exact hconcluding.elim
          · exact hold hsame
      | connects _ _ _ _ _ _ _ _ _ _ _ _ _ hconcludes =>
          rcases concluded_calls hconcludes hx with ⟨-, -, hconcluding⟩ | hsame
          · exact hconcluding.elim
          · exact hold hsame
  | closes y request₀ value outcome =>
      rcases finish_calls hx with ⟨-, hcall⟩ | hsame
      · cases hcall
      · exact hold hsame

/-- What the locks of the service and of the pairing store owe to the calls. -/
structure LockInv (s : State config) : Prop where
  waiting : WaitsUnderLock s
  lifecycle : Serves s.lifecycle (role s)
  pairing : Serves s.pairing.lock (Pairing.Progress.role s.pairing)

theorem step_pairing (h : step s action = some (t, events)) :
    (t.pairing.lock = s.pairing.lock ∧ t.pairing.calls = s.pairing.calls) ∨
      ∃ pairingAction' r, pairingAction action = some pairingAction' ∧
        Pairing.Challenges.step config.pairing s.pairing pairingAction' = some r ∧
        t.pairing = r.1 ∧ t.calls = s.calls ∧ t.manager = s.manager := by
  cases step_effect h with
  | pairs _ pairingAction' pairing events haction hstep =>
      exact .inr ⟨pairingAction', _, haction, hstep, rfl, rfl, rfl⟩
  | passes | begins | queues | enters | leaves => exact .inl ⟨rfl, rfl⟩
  | performs => exact .inl ⟨rfl, rfl⟩
  | closes y request value outcome =>
      rw [finish_pairing]
      exact .inl ⟨rfl, rfl⟩
  | proceeds y request stage r inputs _ hproceeds =>
      rw [proceeds_pairing hproceeds]
      exact .inl ⟨rfl, rfl⟩

theorem LockInv.step (hlocks : LockInv s) (h : step s action = some (t, events)) : LockInv t where
  waiting := step_waitsUnderLock hlocks.waiting h
  lifecycle := hlocks.lifecycle.uses (step_uses hlocks.waiting h)
  pairing := by
    rcases step_pairing h with ⟨hlock, hcalls⟩ | ⟨pairingAction', r, -, hstep, hpairing, -, -⟩
    · have hrole : Pairing.Progress.role t.pairing = Pairing.Progress.role s.pairing := by
        funext x
        rw [Pairing.Progress.role, Pairing.Progress.role, hcalls]
      rw [hlock, hrole]
      exact hlocks.pairing
    · rw [hpairing]
      exact hlocks.pairing.uses (Pairing.Progress.step_uses hstep)

theorem lockInv_of_run {history : List (Invariant.Step config)}
    (hrun : Run (service config) (.initial config) history s) : LockInv s := by
  refine hrun.historyInvariant (fun _ s => LockInv s) ⟨?_, .free, .free⟩ ?_
  · intro x request cancelled hx
    cases hx
  · intro history s action t events _ hlocks h
    exact hlocks.step h

end Locks

section Measure

/-- The step continues a call that has been entered: no method is called and nobody cancels. -/
def Resumes : Action config → Prop
  | .connections action => Manager.Progress.Proceeds action
  | .resumePairing _ _ _ | .advancePairing _ _ | .resumeLock _ | .perform _ _ | .proceed _ _
  | .endClose _ _ => True
  | _ => False

/-- The steps that a call in this stage has left at most, but for those in the manager. -/
def stageSteps : Stage → Nat
  | .waitingForLock _ => 8
  | .awaitingAuthenticate _ none => 9
  | .awaitingAuthenticate _ (some _) => 8
  | .awaitingGet _ none => 7
  | .awaitingGet _ (some _) => 6
  | .awaitingRevoke _ _ none => 5
  | .awaitingRevoke _ _ (some _) => 4
  | .awaitingSave _ _ none => 3
  | .awaitingSave _ _ (some _) => 2
  | .awaitingClose _ => 1
  | .awaitingExecute _ | .finished _ => 0

def callSteps : Option Call → Nat
  | some call => stageSteps call.stage
  | none => 0

/-- The steps that a call has left at most: on the left a call of the service, with its call of
the manager, on the right one of the pairing store. -/
def left (s : State config) : Nat ⊕ Nat → Nat
  | .inl x => callSteps (s.calls x) + Manager.Progress.stepsLeft (s.manager.calls x)
  | .inr x => Pairing.Progress.stepsLeft (sqlTerminates config.codec) (s.pairing.calls x)

omit [DecidableEq Digest] in
theorem lowers_of_calls {x : Nat} {call : Call} (call' : Call) (hcall : s.calls x = some call)
    (hcalls : t.calls = Function.update s.calls x (some call'))
    (hmanager : t.manager.calls = s.manager.calls) (hpairing : t.pairing.calls = s.pairing.calls)
    (hlt : stageSteps call'.stage < stageSteps call.stage) : Lowers left s t := by
  refine ⟨.inl x, ?_, ?_⟩
  · simp only [left, hcalls, hmanager, Function.update_self, hcall, callSteps]
    omega
  · rintro (y | y) hy
    · have hyx : y ≠ x := fun heq => hy (congrArg Sum.inl heq)
      simp only [left, hcalls, hmanager, Function.update_of_ne hyx]
    · simp only [left, hpairing]

omit [DecidableEq Digest] in
theorem stageSteps_of_answered {stage : Stage} (h : Answered stage) : 2 ≤ stageSteps stage := by
  unfold Answered at h
  split at h
  · exact Nat.le_of_ble_eq_true rfl
  · exact Nat.le_of_ble_eq_true rfl
  · exact Nat.le_of_ble_eq_true rfl
  · exact Nat.le_refl 2
  · exact h.elim

omit [DecidableEq Digest] in
theorem finish_lowers (s' : State config) {x : Nat} {call : Call} {request : Request}
    {outcome : Except Raised Value} (hcall : s.calls x = some call) (hcalls : s'.calls = s.calls)
    (hmanager : s'.manager.calls = s.manager.calls) (hpairing : s'.pairing = s.pairing)
    (hlt : 0 < stageSteps call.stage) : Lowers left s (finish s' x request outcome) := by
  refine lowers_of_calls ⟨request, .finished outcome⟩ hcall ?_ ?_ ?_ hlt
  · rw [finish_update, hcalls]
  · rw [finish_manager, hmanager]
  · rw [finish_pairing, hpairing]

omit [DecidableEq Digest] in
theorem concludes_lowers {x : Nat} {call : Call} {request : Request} {value : Value}
    {manager : Manager.Operations.State} {calls : List TransportCall} {r : Result config}
    (hcall : s.calls x = some call) (hmanager : manager.calls = s.manager.calls)
    (h : Concludes s x request value manager calls r) (hlt : 1 < stageSteps call.stage) :
    Lowers left s r.1 := by
  rcases h with ⟨-, rfl⟩ | ⟨transport, code, reason, -, rfl⟩
  · exact finish_lowers { s with manager } hcall rfl hmanager rfl (by omega)
  · exact lowers_of_calls ⟨request, .awaitingClose value⟩ hcall rfl hmanager rfl hlt

omit [DecidableEq Digest] in
theorem proceeds_lowers {x : Nat} {request : Request} {stage : Stage} {r : Result config}
    (hcall : s.calls x = some ⟨request, stage⟩) (h : Proceeds s x request stage r) :
    Lowers left s r.1 := by
  cases h with
  | refuses _ error hanswered =>
      exact finish_lowers s hcall rfl rfl rfl (Nat.lt_of_lt_of_le Nat.two_pos
        (stageSteps_of_answered hanswered))
  | reads => exact finish_lowers s hcall rfl rfl rfl (by simp [stageSteps])
  | identifies token d =>
      exact lowers_of_calls ⟨request, .awaitingGet d none⟩ hcall rfl rfl rfl
        (by simp [stageSteps])
  | strips d d' device =>
      exact lowers_of_calls ⟨request, .awaitingRevoke d device none⟩ hcall rfl rfl rfl
        (by simp [stageSteps])
  | saves d device device' clock =>
      exact lowers_of_calls ⟨request, .awaitingSave d device' none⟩ hcall rfl rfl rfl
        (by simp [stageSteps])
  | disconnects _ _ _ _ _ _ _ hstage _ hmanager hconcludes =>
      refine concludes_lowers hcall hmanager hconcludes ?_
      rcases hstage with ⟨-, rfl, -⟩ | rfl
      · simp [stageSteps]
      · simp [stageSteps]
  | connects _ _ _ _ _ _ _ _ _ _ _ _ hmanager hconcludes =>
      exact concludes_lowers hcall hmanager hconcludes (by simp [stageSteps])
  | activates d d' sessionId advertised device now manager hrequest hactivate =>
      have hcalls : manager.calls = s.manager.calls := by
        obtain ⟨k, k', -, -, -, -, -, -, -, -, rfl⟩ :=
          Manager.Operations.activate_eq_ok hactivate
        rfl
      exact finish_lowers { s with manager } hcall rfl hcalls rfl (by simp [stageSteps])
  | executes d d' capability action arguments device commandId clock now command =>
      refine ⟨.inl x, ?_, ?_⟩
      · have hbefore : left s (.inl x) = 6 + Manager.Progress.stepsLeft (s.manager.calls x) := by
          rw [left, hcall]
          rfl
        have hafter (manager : Manager.Operations.State) :
            left (State.setCall { s with manager } x ⟨request, .awaitingExecute command⟩) (.inl x) =
              0 + Manager.Progress.stepsLeft (manager.calls x) := by
          simp [left, State.setCall, callSteps, stageSteps]
        have hsteps (manager : Manager.Operations.State) :=
          Manager.Progress.stepsLeft_le (manager.calls x)
        rw [hbefore, hafter, Nat.zero_add]
        exact Nat.lt_of_le_of_lt (hsteps _) (by omega)
      · rintro (y | y) hy
        · have hyx : y ≠ x := fun heq => hy (congrArg Sum.inl heq)
          simp only [left, State.setCall, Function.update_of_ne hyx,
            (Manager.Evolution.execute_of_ne hyx command config.commandTimeoutSeconds now).1]
        · rfl

omit [DecidableEq Digest] in
theorem resumeLock_lowers {x : Nat} {call : Call} {r : Result config}
    (hcall : s.calls x = some call) (h : resumeLock s x call = some r) : Lowers left s r.1 := by
  obtain ⟨request, stage⟩ := call
  unfold resumeLock at h
  split at h
  · rename_i d hstage _ _
    obtain rfl : stage = .waitingForLock false := hstage
    cases h
    exact lowers_of_calls ⟨request, .awaitingGet d none⟩ hcall rfl rfl rfl (by simp [stageSteps])
  · rename_i hstage _
    obtain rfl : stage = .waitingForLock true := hstage
    cases h
    exact lowers_of_calls ⟨request, .finished _⟩ hcall rfl rfl rfl (by simp [stageSteps])
  · rename_i hstage _
    obtain rfl : stage = .waitingForLock true := hstage
    cases h
    exact lowers_of_calls ⟨request, .finished _⟩ hcall rfl rfl rfl (by simp [stageSteps])
  · cases h

theorem perform_lowers {x : Nat} {call : Call} {outcome : AwaitOutcome} {r : Result config}
    (hcall : s.calls x = some call) (h : perform s x call outcome = some r) :
    Lowers left s r.1 := by
  obtain ⟨request, stage⟩ := call
  unfold perform at h
  split at h
  · rename_i token hstage
    obtain rfl : stage = _ := hstage
    cases h
    exact lowers_of_calls ⟨request, .awaitingAuthenticate token _⟩ hcall rfl rfl rfl
      (by simp [stageSteps])
  · rename_i d hstage
    obtain rfl : stage = _ := hstage
    cases h
    exact lowers_of_calls ⟨request, .awaitingGet d _⟩ hcall rfl rfl rfl (by simp [stageSteps])
  · rename_i d device hstage
    obtain rfl : stage = _ := hstage
    cases h
    exact lowers_of_calls ⟨request, .awaitingRevoke d device _⟩ hcall rfl rfl rfl
      (by simp [stageSteps])
  · rename_i d device hstage
    obtain rfl : stage = _ := hstage
    cases h
    exact lowers_of_calls ⟨request, .awaitingSave d device _⟩ hcall rfl rfl rfl
      (by simp [stageSteps])
  · cases h

omit [DecidableEq Digest] in
theorem endClose_lowers {x : Nat} {call : Call} {failure : Option Raised} {r : Result config}
    (hcall : s.calls x = some call) (h : endClose s x call failure = some r) :
    Lowers left s r.1 := by
  obtain ⟨request, stage⟩ := call
  unfold endClose at h
  split at h
  · rename_i value hstage
    obtain rfl : stage = _ := hstage
    cases h
    exact finish_lowers s hcall rfl rfl rfl (by simp [stageSteps])
  · rename_i value error hstage
    obtain rfl : stage = _ := hstage
    split at h
    · cases h
      exact finish_lowers s hcall rfl rfl rfl (by simp [stageSteps])
    · cases h
      exact finish_lowers s hcall rfl rfl rfl (by simp [stageSteps])
  · cases h

theorem pairing_lowers (pairingAction' : Pairing.Challenges.Action (sql config.codec))
    (hresumes : Pairing.Progress.Resumes pairingAction')
    (haction : pairingAction action = some pairingAction')
    (h : step s action = some (t, events)) : Lowers left s t := by
  simp only [step, haction] at h
  split at h
  · rename_i pairing served hstep
    cases h
    obtain ⟨y, call, call', hcall, hcalls, hlt⟩ :=
      Pairing.Progress.step_lowers (sqlTerminates config.codec) hresumes hstep
    have hcalls : pairing.calls = Function.update s.pairing.calls y (some call') := hcalls
    refine ⟨.inr y, ?_, ?_⟩
    · simp only [left, hcalls, Function.update_self, hcall]
      exact hlt
    · rintro (z | z) hz
      · rfl
      · have hzy : z ≠ y := fun heq => hz (congrArg Sum.inr heq)
        simp only [left, hcalls, Function.update_of_ne hzy]
  · cases h

/-- A step that continues a call brings it closer to its end and leaves the others where they
are. -/
theorem step_lowers (hresumes : Resumes action) (h : step s action = some (t, events)) :
    Lowers left s t := by
  cases action with
  | createPairing | pairDevice | cancelPairing | start | cancelWaiting => exact hresumes.elim
  | resumePairing x clock setup =>
      exact pairing_lowers (.resumeLock x clock setup) trivial rfl h
  | advancePairing x outcome =>
      exact pairing_lowers (.advance x outcome) trivial rfl h
  | connections managerAction =>
      obtain ⟨manager, calls, hstep, rfl, -⟩ := connections_step h
      obtain ⟨x, hlt, hother⟩ := Manager.Progress.proceeds_stepsLeft hstep hresumes
      refine ⟨.inl x, Nat.add_lt_add_left hlt _, ?_⟩
      rintro (y | y) hy
      · have hyx : y ≠ x := fun heq => hy (congrArg Sum.inl heq)
        simp only [left, hother y hyx]
      · rfl
  | resumeLock x =>
      obtain ⟨call, hcall, h⟩ := onCall_eq_some h
      exact resumeLock_lowers hcall h
  | perform x outcome =>
      obtain ⟨call, hcall, h⟩ := onCall_eq_some h
      exact perform_lowers hcall h
  | proceed x inputs =>
      obtain ⟨call, hcall, h⟩ := onCall_eq_some h
      exact proceeds_lowers hcall (proceed_proceeds h)
  | endClose x failure =>
      obtain ⟨call, hcall, h⟩ := onCall_eq_some h
      exact endClose_lowers hcall h

end Measure

section Enabled

def Enabled (s : State config) : Prop := ∃ action, Resumes action ∧ step s action ≠ none

theorem enabled_of_inSection {x : Nat} {request : Request} {stage : Stage}
    (hcall : s.calls x = some ⟨request, stage⟩) (hsection : InSection stage)
    (hexecute : ∀ command, stage ≠ .awaitingExecute command) : Enabled s := by
  have inputs : Inputs := ⟨⟨0, none⟩, ⟨0, 0⟩, ⟨0⟩, ⟨0⟩⟩
  have hperform (h : perform s x ⟨request, stage⟩ .completed ≠ none) : Enabled s := by
    refine ⟨.perform x .completed, trivial, ?_⟩
    simpa only [step, pairingAction, onCall, hcall] using h
  have hproceed (h : proceed s x ⟨request, stage⟩ inputs ≠ none) : Enabled s := by
    refine ⟨.proceed x inputs, trivial, ?_⟩
    simpa only [step, pairingAction, onCall, hcall] using h
  cases stage with
  | waitingForLock | finished => exact hsection.elim
  | awaitingExecute command => exact absurd rfl (hexecute command)
  | awaitingClose value =>
      refine ⟨.endClose x none, trivial, ?_⟩
      simp [step, pairingAction, onCall, hcall, endClose]
  | awaitingAuthenticate token answer =>
      rcases answer with - | error | - | d
      · exact hperform (by simp [perform])
      · exact hproceed (by simp [proceed])
      · exact hproceed (by simp [proceed])
      · exact hproceed (by simp [proceed])
  | awaitingGet d answer =>
      rcases answer with - | error | - | device
      · exact hperform (by simp [perform])
      · exact hproceed (by simp [proceed])
      · exact hproceed (by simp [proceed])
      · exact hproceed (by simp [proceed])
  | awaitingRevoke d device answer =>
      rcases answer with - | error | done
      · exact hperform (by simp [perform])
      · exact hproceed (by simp [proceed])
      · refine hproceed ?_
        simp only [proceed]
        split <;> simp
  | awaitingSave d device answer =>
      rcases answer with - | error | done
      · exact hperform (by simp [perform])
      · exact hproceed (by simp [proceed])
      · exact hproceed (by simp [proceed])

variable {history : List (Invariant.Step config)}

omit [DecidableEq Digest] in
theorem callRole_executing (hcarried : Carried s) {x : Nat} {request : Request}
    {command : DeviceCommand} (hcall : s.calls x = some ⟨request, .awaitingExecute command⟩) :
    callRole ⟨request, .awaitingExecute command⟩ = .idle := by
  obtain ⟨hasks, -⟩ := hcarried x request command hcall
  obtain rfl : request = _ := hasks
  rfl

theorem enabled_of_awake (hwaits : WaitsUnderLock s) {x : Nat} {flag : Bool}
    (hx : role s x = .waits flag) (hawake : s.lifecycle.waiterState x = some .woken ∨
      (s.lifecycle.waiterState x = some .cancelled ∧ flag = true)) : Enabled s := by
  cases hcall : s.calls x with
  | none =>
      rw [role_fresh hcall] at hx
      cases hx
  | some call =>
      obtain ⟨request, stage⟩ := call
      rw [role_eq hcall] at hx
      obtain rfl := waiting_of_callRole hx
      obtain ⟨d, hd⟩ : ∃ d, request.deviceId? = some d := by
        have hunder := hwaits x request flag hcall
        cases request with
        | revokeDevice d => exact ⟨d, rfl⟩
        | connectDevice d transport => exact ⟨d, rfl⟩
        | authenticate | getDevice | activateDevice | executeCommand => cases hunder
      refine ⟨.resumeLock x, trivial, ?_⟩
      simp only [step, pairingAction, onCall, hcall]
      rcases hawake with hwoken | ⟨hcancelled, rfl⟩
      · cases flag with
        | false => simp [resumeLock, hwoken, hd]
        | true => simp [resumeLock, hwoken]
      · simp [resumeLock, hcancelled]

/-- While a call is in its section or waits for the lock, some call can go on. -/
theorem enabled_of_role (hlocks : LockInv s) (hcarried : Carried s) {x : Nat}
    (hx : role s x ≠ .idle) : Enabled s := by
  have hholder {y : Nat} (hy : role s y = .holds) : Enabled s := by
    cases hcall : s.calls y with
    | none =>
        rw [role_fresh hcall] at hy
        cases hy
    | some call =>
        obtain ⟨request, stage⟩ := call
        rw [role_eq hcall] at hy
        refine enabled_of_inSection hcall ?_ ?_
        · cases stage with
          | waitingForLock | finished => cases hy
          | _ => trivial
        · rintro command rfl
          rw [callRole_executing hcarried hcall] at hy
          cases hy
  cases hrole : role s x with
  | idle => exact absurd hrole hx
  | holds => exact hholder hrole
  | waits cancelRequested =>
      by_cases hheld : ∃ y, role s y = .holds
      · obtain ⟨y, hy⟩ := hheld
        exact hholder hy
      · obtain ⟨y, flag, hy, hawake⟩ :=
          hlocks.lifecycle.exists_awake hrole (not_exists.mp hheld)
        exact enabled_of_awake hlocks.waiting hy hawake

theorem manager_reachable (hrun : Run (service config) (.initial config) history s) :
    Reachable Manager.Execution.manager s.manager :=
  service_refines_manager.reachable ⟨history, hrun⟩

theorem enabled_of_manager
    (h : ¬ Stuck Manager.Execution.manager Manager.Progress.Proceeds s.manager) : Enabled s := by
  obtain ⟨action, manager, calls, hproceeds, hstep⟩ := exists_step_of_not_stuck h
  have hpassed : passedOn action = true := by
    cases action with
    | resumeLock | completeSend | copyResult | fireTimer | resumeWait => rfl
    | connect | activate | disconnect | disconnectDevice | touch | resolve | closeAll | execute
    | cancel => exact hproceeds.elim
  refine ⟨.connections action, hproceeds, ?_⟩
  have hstep : Manager.Execution.step s.manager action = some (manager, calls) := hstep
  simp only [step, pairingAction, if_pos hpassed, hstep]
  exact Option.some_ne_none _

theorem enabled_of_pairing {action : Pairing.Challenges.Action (sql config.codec)}
    (hresumes : Pairing.Progress.Resumes action)
    (hstep : Pairing.Challenges.step config.pairing s.pairing action ≠ none) : Enabled s := by
  obtain ⟨⟨pairing, served⟩, hstep⟩ := Option.ne_none_iff_exists'.mp hstep
  cases action with
  | create | claim | cancelWaiting => exact hresumes.elim
  | resumeLock x clock setup =>
      refine ⟨.resumePairing x clock setup, trivial, ?_⟩
      simp only [step, pairingAction, hstep]
      exact Option.some_ne_none _
  | advance x outcome =>
      refine ⟨.advancePairing x outcome, trivial, ?_⟩
      simp only [step, pairingAction, hstep]
      exact Option.some_ne_none _

theorem enabled_of_left (hrun : Run (service config) (.initial config) history s)
    {task : Nat ⊕ Nat} (hleft : left s task ≠ 0) : Enabled s := by
  have hinv := inv_of_run hrun
  have hlocks := lockInv_of_run hrun
  rcases task with x | x
  · cases hcall : s.calls x with
    | none =>
        rw [left, hcall, hinv.not_started hcall] at hleft
        exact absurd rfl hleft
    | some call =>
        obtain ⟨request, stage⟩ := call
        cases stage with
        | waitingForLock cancelled =>
            refine enabled_of_role hlocks (carried_of_run hrun) (x := x) ?_
            rw [role_eq hcall]
            exact Role.noConfusion
        | finished outcome =>
            rw [left, hcall, hinv.not_executing hcall (by simp)] at hleft
            exact absurd rfl hleft
        | awaitingExecute command =>
            refine enabled_of_manager ?_
            intro hstuck
            have hdrained :=
              (Manager.Progress.stuck_iff_drained (manager_reachable hrun)).mp hstuck
            rw [left, hcall] at hleft
            cases hmanager : s.manager.calls x with
            | none =>
                rw [hmanager] at hleft
                exact absurd rfl hleft
            | some executed =>
                rw [hmanager] at hleft
                cases executed with
                | refused => exact absurd rfl hleft
                | admitted executed =>
                    obtain ⟨outcome, hfinished⟩ := hdrained.finished x executed hmanager
                    simp [callSteps, stageSteps, Manager.Progress.stepsLeft, hfinished,
                      Manager.Progress.Stage.stepsLeft] at hleft
        | _ => exact enabled_of_inSection hcall trivial (by simp)
  · have hrole : Pairing.Progress.role s.pairing x ≠ .idle := by
      intro hidle
      cases hcall : s.pairing.calls x with
      | none =>
          rw [left, hcall] at hleft
          exact hleft rfl
      | some call =>
          rw [Pairing.Progress.role_eq hcall] at hidle
          rw [left, hcall] at hleft
          exact hleft ((Pairing.Progress.callSteps_eq_zero _).mpr hidle)
    have hregistering : ∀ y call stage, s.pairing.calls y = some (.claim call) →
        call.stage = .registering stage → call.registration ≠ none := by
      intro y call stage hcall hstage
      obtain ⟨-, registration, hregistration, -⟩ :=
        hinv.pairing.registering y call stage hcall hstage
      rw [hregistration]
      exact Option.some_ne_none _
    have hcontinues : ∃ action, Pairing.Progress.Resumes action ∧
        Pairing.Challenges.step config.pairing s.pairing action ≠ none :=
      Pairing.Progress.exists_resumes (sqlTerminates config.codec) hlocks.pairing hregistering hrole
    obtain ⟨action, hresumes, hstep⟩ := hcontinues
    exact enabled_of_pairing hresumes hstep

end Enabled

section Drained

/-- Call `x` of the service has come to its end; a command ends with its call of `execute`. -/
def Over (s : State config) (x : Nat) (call : Call) : Prop :=
  (∃ outcome, call.stage = .finished outcome) ∨
    (∃ command, call.stage = .awaitingExecute command) ∧
      ∃ executed outcome, s.manager.calls x = some executed ∧ ended executed = some outcome

def PairingOver {B : Pairing.Challenges.Backend} : Pairing.Challenges.PairingCall Digest B → Prop
  | .refused _ => True
  | .create call => ∃ outcome, call.stage = .finished outcome
  | .claim call => ∃ outcome, call.stage = .finished outcome

/-- The calls that have been entered and are not over yet. -/
def Unfinished (s : State config) : Nat ⊕ Nat → Prop
  | .inl x => ∃ call, s.calls x = some call ∧ ¬ Over s x call
  | .inr x => ∃ call, s.pairing.calls x = some call ∧ ¬ PairingOver call

/-- Nothing is left of any call: all are over, and nobody holds a lock or waits for one. -/
structure Drained (s : State config) : Prop where
  finished : ∀ task, ¬ Unfinished s task
  lifecycle : s.lifecycle = .free
  pairing : s.pairing.lock = .free
  manager : Manager.Progress.Drained s.manager

omit [DecidableEq Digest] in
theorem pairingOver_iff {B : Pairing.Challenges.Backend}
    (call : Pairing.Challenges.PairingCall Digest B) :
    PairingOver call ↔ Pairing.Progress.callRole call = .idle := by
  cases call with
  | refused error => exact ⟨fun _ => rfl, fun _ => trivial⟩
  | create call =>
      obtain ⟨challenge, record, stage⟩ := call
      cases stage with
      | waitingForLock cancelled => simp [PairingOver, Pairing.Progress.callRole]
      | finished outcome => simp [PairingOver, Pairing.Progress.callRole]
  | claim call =>
      obtain ⟨pairingId, secret, name, registration, stage⟩ := call
      cases stage with
      | waitingForLock cancelled => simp [PairingOver, Pairing.Progress.callRole]
      | registering stage => simp [PairingOver, Pairing.Progress.callRole]
      | finished outcome => simp [PairingOver, Pairing.Progress.callRole]

theorem stepsLeft_eq_zero (executed : Manager.Operations.ExecuteCall) :
    Manager.Progress.stepsLeft (some executed) = 0 ↔ ∃ outcome, ended executed = some outcome := by
  rcases executed with ⟨command, error⟩ | ⟨admission, cancelled, stage⟩
  · exact ⟨fun _ => ⟨_, rfl⟩, fun _ => rfl⟩
  · cases stage with
    | finished outcome => exact ⟨fun _ => ⟨_, rfl⟩, fun _ => rfl⟩
    | waitingForLock => simp [Manager.Progress.stepsLeft, Manager.Progress.Stage.stepsLeft, ended]
    | sending => simp [Manager.Progress.stepsLeft, Manager.Progress.Stage.stepsLeft, ended]
    | waiting w =>
        simp only [Manager.Progress.stepsLeft, Manager.Progress.Stage.stepsLeft, ended]
        simp

theorem stageSteps_pos {stage : Stage} (hexecute : ∀ command, stage ≠ .awaitingExecute command)
    (hfinished : ∀ outcome, stage ≠ .finished outcome) : 0 < stageSteps stage := by
  unfold stageSteps
  split
  all_goals try exact Nat.succ_pos _
  · exact absurd rfl (hexecute _)
  · exact absurd rfl (hfinished _)

variable {history : List (Invariant.Step config)}

theorem left_ne_zero (hrun : Run (service config) (.initial config) history s)
    (task : Nat ⊕ Nat) : left s task ≠ 0 ↔ Unfinished s task := by
  have hinv := inv_of_run hrun
  rcases task with x | x
  · cases hcall : s.calls x with
    | none => simp [left, Unfinished, hcall, hinv.not_started hcall, callSteps,
        Manager.Progress.stepsLeft]
    | some call =>
        obtain ⟨request, stage⟩ := call
        simp only [left, Unfinished, hcall, callSteps, Option.some.injEq, exists_eq_left', ne_eq,
          Nat.add_eq_zero_iff]
        refine not_congr ?_
        cases stage with
        | finished outcome =>
            rw [hinv.not_executing hcall (by simp)]
            exact ⟨fun _ => .inl ⟨outcome, rfl⟩, fun _ => ⟨rfl, rfl⟩⟩
        | awaitingExecute command =>
            obtain ⟨-, executed, hexecuted, -⟩ := carried_of_run hrun x request command hcall
            rw [hexecuted, stepsLeft_eq_zero]
            constructor
            · rintro ⟨-, outcome, hended⟩
              exact .inr ⟨⟨command, rfl⟩, executed, outcome, hexecuted, hended⟩
            · rintro (⟨outcome, houtcome⟩ | ⟨-, executed', outcome, hexecuted', hended⟩)
              · cases houtcome
              · rw [hexecuted] at hexecuted'
                cases hexecuted'
                exact ⟨rfl, outcome, hended⟩
        | _ =>
            refine iff_of_false ?_ ?_
            · rintro ⟨hzero, -⟩
              exact (stageSteps_pos (by simp) (by simp)).ne' hzero
            · rintro (⟨outcome, houtcome⟩ | ⟨⟨command, hcommand⟩, -⟩)
              · cases houtcome
              · cases hcommand
  · cases hcall : s.pairing.calls x with
    | none => simp [left, Unfinished, hcall, Pairing.Progress.stepsLeft]
    | some call =>
        simp only [left, Unfinished, hcall, Pairing.Progress.stepsLeft, Option.some.injEq,
          exists_eq_left', ne_eq, pairingOver_iff]
        exact not_congr (Pairing.Progress.callSteps_eq_zero _)

theorem left_le (hrun : Run (service config) (.initial config) history s) (task : Nat ⊕ Nat) :
    left s task ≤ 9 := by
  have hinv := inv_of_run hrun
  rcases task with x | x
  · cases hexecuted : s.manager.calls x with
    | none =>
        rw [left, hexecuted]
        unfold callSteps stageSteps
        split
        · split
          all_goals simp [Manager.Progress.stepsLeft]
        · exact Nat.zero_le _
    | some executed =>
        obtain ⟨request, command, hcall⟩ :=
          hinv.executing x (by rw [hexecuted]; exact Option.some_ne_none _)
        have hsteps := Manager.Progress.stepsLeft_le (some executed)
        rw [left, hexecuted, hcall]
        simp only [callSteps, stageSteps]
        omega
  · have hsteps := Pairing.Progress.stepsLeft_le (sqlTerminates config.codec) (s.pairing.calls x)
    have hbound : (sqlTerminates config.codec).bound = 2 := rfl
    rw [left]
    omega

theorem drained_of_over (hrun : Run (service config) (.initial config) history s)
    (hover : ∀ task, ¬ Unfinished s task) : Drained s := by
  have hinv := inv_of_run hrun
  have hlocks := lockInv_of_run hrun
  have hzero (task : Nat ⊕ Nat) : left s task = 0 := by
    by_contra hleft
    exact hover task ((left_ne_zero hrun task).mp hleft)
  refine ⟨hover, hlocks.lifecycle.eq_free ?_, hlocks.pairing.eq_free ?_, ?_⟩
  · intro x
    cases hcall : s.calls x with
    | none => exact role_fresh hcall
    | some call =>
        obtain ⟨request, stage⟩ := call
        have hsteps : stageSteps stage = 0 := by
          have hleft := hzero (.inl x)
          rw [left, hcall] at hleft
          exact (Nat.add_eq_zero_iff.mp hleft).1
        rw [role_eq hcall]
        cases stage with
        | finished => rfl
        | awaitingExecute command => exact callRole_executing (carried_of_run hrun) hcall
        | _ => exact absurd hsteps (stageSteps_pos (by simp) (by simp)).ne'
  · intro x
    cases hcall : s.pairing.calls x with
    | none => exact Pairing.Progress.role_fresh hcall
    | some call =>
        have hsteps := hzero (.inr x)
        rw [left, hcall] at hsteps
        rw [Pairing.Progress.role_eq hcall]
        exact (Pairing.Progress.callSteps_eq_zero _).mp hsteps
  · refine Manager.Progress.drained_of_finished (manager_reachable hrun) ?_
    intro x executed hexecuted
    have hsteps := (Nat.add_eq_zero_iff.mp (hzero (.inl x))).2
    rw [hexecuted] at hsteps
    obtain ⟨outcome, hended⟩ := (stepsLeft_eq_zero _).mp hsteps
    exact ⟨outcome, ended_admitted hended⟩

theorem stuck_iff_drained (hrun : Run (service config) (.initial config) history s) :
    Stuck (service config) Resumes s ↔ Drained s := by
  constructor
  · intro hstuck
    refine drained_of_over hrun ?_
    intro task hunfinished
    obtain ⟨action, hresumes, hstep⟩ :=
      enabled_of_left hrun ((left_ne_zero hrun task).mpr hunfinished)
    exact hstep (hstuck action hresumes)
  · intro hdrained action hresumes
    cases hstep : (service config).step s action with
    | none => rfl
    | some r =>
        obtain ⟨t, events⟩ := r
        obtain ⟨task, hlt, -⟩ := step_lowers hresumes hstep
        exact absurd ((left_ne_zero hrun task).mp (by omega)) (hdrained.finished task)

theorem exists_entered (hrun : Run (service config) (.initial config) history s) :
    ∃ tasks : Finset (Nat ⊕ Nat), (∀ x, s.calls x ≠ none → .inl x ∈ tasks) ∧
      ∀ x, s.pairing.calls x ≠ none → .inr x ∈ tasks := by
  classical
  induction hrun with
  | nil => exact ⟨∅, fun x hx => absurd rfl hx, fun x hx => absurd rfl hx⟩
  | @step history s action events t hprev h ih =>
      obtain ⟨tasks, hcalls, hpairing⟩ := ih
      have hgrown : ∃ y : Nat, ∀ x, x ≠ y → t.calls x = s.calls x := by
        cases step_updates (inv_of_run hprev) h with
        | stays hsame => exact ⟨0, fun x _ => by rw [hsame]⟩
        | begins y _ _ _ _ hsame | moves y _ _ _ _ _ hsame | closes y _ _ _ _ _ _ _ hsame =>
            exact ⟨y, fun x hx => by rw [hsame, Function.update_of_ne hx]⟩
      have hpaired : ∃ y : Nat, ∀ x, x ≠ y → t.pairing.calls x = s.pairing.calls x := by
        rcases step_pairing h with ⟨-, hsame⟩ | ⟨pairingAction', r, -, hstep, hpairing', -, -⟩
        · exact ⟨0, fun x _ => by rw [hsame]⟩
        · refine ⟨Pairing.Challenges.actor pairingAction', fun x hx => ?_⟩
          rw [hpairing']
          exact Pairing.Contract.step_others (inv_of_run hprev).pairing hstep hx
      obtain ⟨y, hgrown⟩ := hgrown
      obtain ⟨z, hpaired⟩ := hpaired
      refine ⟨insert (.inl y) (insert (.inr z) tasks), ?_, ?_⟩
      · intro x hx
        by_cases hxy : x = y
        · simp [hxy]
        · rw [hgrown x hxy] at hx
          simp [hcalls x hx]
      · intro x hx
        by_cases hxz : x = z
        · simp [hxz]
        · rw [hpaired x hxz] at hx
          simp [hpairing x hx]

theorem exists_tasks (hrun : Run (service config) (.initial config) history s) :
    ∃ tasks : Finset (Nat ⊕ Nat), ∀ task, Unfinished s task → task ∈ tasks := by
  obtain ⟨tasks, hcalls, hpairing⟩ := exists_entered hrun
  refine ⟨tasks, ?_⟩
  rintro (x | x) ⟨call, hcall, -⟩
  · exact hcalls x (by simp [hcall])
  · exact hpairing x (by simp [hcall])

/-- From every state of the service the calls of all methods drain, whatever the order in
which the tasks run: after at most nine steps for each call that is not over nothing more can
run, and where nothing can run every call is over and every lock is free. -/
theorem service_drains (hrun : Run (service config) (.initial config) history s) :
    ∃ unfinished : Finset (Nat ⊕ Nat), (∀ task, task ∈ unfinished ↔ Unfinished s task) ∧
      (∃ later t, Run (service config) s later t ∧ Only Resumes later ∧ Drained t) ∧
      ∀ later t, Run (service config) s later t → Only Resumes later →
        later.length ≤ 9 * unfinished.card ∧
          (Stuck (service config) Resumes t ↔ Drained t) := by
  classical
  obtain ⟨tasks, htasks⟩ := exists_tasks hrun
  have hmem (task : Nat ⊕ Nat) :
      task ∈ tasks.filter (Unfinished s) ↔ Unfinished s task := by
    rw [Finset.mem_filter, and_iff_right_iff_imp]
    exact htasks task
  have hlower : ∀ s action t events,
      (∃ earlier, Run (service config) (.initial config) earlier s) → Resumes action →
      (service config).step s action = some (t, events) →
      (∃ earlier, Run (service config) (.initial config) earlier t) ∧ Lowers left s t := by
    rintro s action t events ⟨earlier, hearlier⟩ hresumes hstep
    exact ⟨⟨_, .step _ _ _ hearlier hstep⟩, step_lowers hresumes hstep⟩
  obtain ⟨⟨later, t, hlater, honly, hstuck⟩, hbound⟩ :=
    tasks_drain (S := service config) _ hlower ⟨history, hrun⟩ (tasks.filter (Unfinished s))
      fun task hleft => (hmem task).mpr ((left_ne_zero hrun task).mp hleft)
  refine ⟨tasks.filter (Unfinished s), hmem, ?_, ?_⟩
  · exact ⟨later, t, hlater, honly, (stuck_iff_drained (hrun.append hlater)).mp hstuck⟩
  · intro later t hlater honly
    obtain ⟨-, hlength⟩ := hbound later t hlater honly
    refine ⟨hlength.trans ?_, stuck_iff_drained (hrun.append hlater)⟩
    have hsum : ∑ task ∈ tasks.filter (Unfinished s), left s task ≤ _ • 9 :=
      Finset.sum_le_card_nsmul _ _ 9 fun task _ => left_le hrun task
    rwa [nsmul_eq_mul, Nat.cast_id, Nat.mul_comm] at hsum

end Drained

section Samples

/-- A command has been sent, a revocation holds the lifecycle lock with a second one behind it,
and a device is being registered. -/
def sampleBusy : List (Action sampleService) :=
  sampleDispatched ++ [.start 5 (.revokeDevice sampleDevice), .start 6 (.revokeDevice sampleDevice),
    .createPairing 7 {.system} ⟨2⟩ "pairing secret 02" ⟨3, some 0⟩,
    .pairDevice 8 ⟨2⟩ "pairing secret 02" "Lamp" ⟨4, some 0⟩ ⟨⟨20⟩, ⟨21⟩, "device secret 021"⟩]

def isBusy (s : State sampleService) : Bool :=
  s.lifecycle.waiters.length = 1 && s.pairing.lock.owner.isSome &&
    (s.manager.calls 4).isSome

theorem service_drains_busy :
    ∃ history s, Run (service sampleService) (.initial sampleService) history s ∧
      isBusy s = true ∧
      ∃ unfinished : Finset (Nat ⊕ Nat), (∀ task, task ∈ unfinished ↔ Unfinished s task) ∧
        (∃ later t, Run (service sampleService) s later t ∧ Only Resumes later ∧ Drained t) ∧
        ∀ later t, Run (service sampleService) s later t → Only Resumes later →
          later.length ≤ 9 * unfinished.card ∧
            (Stuck (service sampleService) Resumes t ↔ Drained t) := by
  obtain ⟨history, s, hrun, hbusy⟩ := exists_run_of_replay (S := service sampleService)
    (s := .initial sampleService) sampleBusy (fun _ s => isBusy s) (by decide)
  exact ⟨history, s, hrun, hbusy, service_drains hrun⟩

end Samples

end JarvisCore.Service.Progress
