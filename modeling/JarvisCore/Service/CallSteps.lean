import JarvisCore.Service.Invariant

namespace JarvisCore.Service.CallSteps

open JarvisCore.Domain.Values
open JarvisCore.Domain.Errors
open JarvisCore.Domain.Models
open JarvisCore.Foundation.Dictionary
open JarvisCore.Foundation.TransitionSystem
open JarvisCore.Manager.Connections (SameConnection FailsSend execute_connections)
open JarvisCore.Manager.Operations (TransportCall LiveConnection AdmittedCall connect
  disconnectDevice replacedCloseCode dropPending_connections activate_eq_ok)
open JarvisCore.Manager.Execution (admission_eq_ok)
open JarvisCore.Pairing.Backends
open JarvisCore.Security.DeviceTables
open JarvisCore.Security.DeviceRecords
open JarvisCore.Service.Operations
open JarvisCore.Service.Effects
open JarvisCore.Service.Invariant

variable {Digest : Type} {config : Config Digest}

/-- The work of the call is done: it has returned, or it waits until the transport of
a removed connection is closed. -/
def Concluding : Stage → Prop
  | .awaitingClose _ | .finished (.ok _) => True
  | _ => False

/-- The manager has done its work for the call. -/
def Settled : Stage → Prop
  | .awaitingClose _ | .finished _ => True
  | _ => False

/-- The call holds no answer of the database and has not returned. -/
def Unanswered : Stage → Prop
  | .awaitingGet _ none | .finished (.error _) | .waitingForLock _ | .awaitingAuthenticate _ none
  | .awaitingRevoke _ _ none | .awaitingSave _ _ none | .awaitingExecute _ => True
  | _ => False

def callOf : Action config → Option Nat
  | .start x _ | .resumeLock x | .cancelWaiting x | .perform x _ | .proceed x _ | .endClose x _ =>
      some x
  | _ => none

/-- What a call had found when it concluded. -/
inductive Found (s t : State config) (action : Action config) (x : Nat) : Request → Stage → Prop
  | views (request : Request) (d : UUID) (device seen : Device) : Views request →
      s.calls x = some ⟨request, .awaitingGet d (some (.ok (some device)))⟩ → seen.id = d →
      (∀ token, request = .authenticate token → device.status ≠ .revoked) →
      Found s t action x request (.finished (.ok (.device seen)))
  | revokes (d : UUID) (stage stage' : Stage) : s.calls x = some ⟨.revokeDevice d, stage⟩ →
      InSection stage → Revoked s.tables d → t.manager.connections.lookup d = none →
      Found s t action x (.revokeDevice d) stage'
  | connects (d : UUID) (transport : Nat) (device : Device) (inputs : Inputs) (stage : Stage) :
      action = .proceed x inputs →
      s.calls x = some ⟨.connectDevice d transport, .awaitingGet d (some (.ok (some device)))⟩ →
      device.status ≠ .revoked → Found s t action x (.connectDevice d transport) stage
  | activates (d sessionId : UUID) (advertised : Finset DeviceCapability) (k : LiveConnection)
      (value : Value) : s.manager.connections.lookup d = some k →
      Found s t action x (.activateDevice d sessionId advertised) (.finished (.ok value))

theorem setCall_calls {s : State config} {x y : Nat} {call call' : Call}
    (h : (s.setCall y call').calls x = some call) :
    (x = y ∧ call = call') ∨ s.calls x = some call := by
  by_cases hxy : x = y
  · subst hxy
    simp only [State.setCall, Function.update_self, Option.some.injEq] at h
    exact .inl ⟨rfl, h.symm⟩
  · rw [show (s.setCall y call').calls x = s.calls x from Function.update_of_ne hxy _ _] at h
    exact .inr h

theorem finish_update (s : State config) (x : Nat) (request : Request)
    (outcome : Except Raised Value) : (finish s x request outcome).calls =
      Function.update s.calls x (some ⟨request, .finished outcome⟩) := by
  unfold finish
  dsimp only
  split <;> rfl

theorem finish_calls {s : State config} {x y : Nat} {request : Request} {call : Call}
    {outcome : Except Raised Value} (h : (finish s y request outcome).calls x = some call) :
    (x = y ∧ call = ⟨request, .finished outcome⟩) ∨ s.calls x = some call := by
  rw [finish_update] at h
  exact setCall_calls h

theorem disconnected_lookup {manager manager' : Manager.Operations.State} {d : UUID} {code : Nat}
    {reason : String} {events : List TransportCall}
    (h : Manager.Execution.step manager (.disconnectDevice d code reason) = some (manager', events)) :
    manager'.connections.lookup d = none := by
  cases h
  show (disconnectDevice manager d).1.connections.lookup d = none
  rw [show (disconnectDevice manager d).1.connections = manager.connections.erase d from
    dropPending_connections _ _]
  exact AList.lookup_erase _ _

variable [DecidableEq Digest]

inductive CallStep (s t : State config) (action : Action config) (x : Nat) (request : Request)
    (stage : Stage) : Prop
  | stays : s.calls x = some ⟨request, stage⟩ → CallStep s t action x request stage
  | begins : s.calls x = none → action = .start x request → Unanswered stage →
      CallStep s t action x request stage
  | waits (stage₀ : Stage) : s.calls x = some ⟨request, stage₀⟩ → Unanswered stage →
      CallStep s t action x request stage
  | answers (stage₀ : Stage) (tables : Tables Digest) : s.calls x = some ⟨request, stage₀⟩ →
      Performs config s.tables stage₀ stage tables → CallStep s t action x request stage
  | closes (value : Value) (outcome : Except Raised Value) (failure : Option Raised) :
      action = .endClose x failure → s.calls x = some ⟨request, .awaitingClose value⟩ →
      stage = .finished outcome →
      outcome = .ok value ∨ (∃ error, failure = some error ∧ error.isException = false ∧
        outcome = .error error) →
      CallStep s t action x request stage
  | concludes (stage₀ : Stage) : s.calls x = some ⟨request, stage₀⟩ → Concluding stage →
      Found s t action x request stage → CallStep s t action x request stage

section Steps

variable {log : List (Pairing.Challenges.Event Digest)} {s t : State config}
  {action : Action config} {events : List (Event Digest)}

omit [DecidableEq Digest] in
/-- After the last operation on the manager the call is finished or waits for a close. -/
theorem concluded_calls {x y : Nat} {request : Request} {value : Value}
    {manager : Manager.Operations.State} {events : List TransportCall} {r : Result config}
    (h : Concludes s y request value manager events r) {call : Call}
    (hcall : r.1.calls x = some call) :
    (x = y ∧ call.request = request ∧ Concluding call.stage) ∨ s.calls x = some call := by
  rcases h with ⟨-, rfl⟩ | ⟨transport, code, reason, -, rfl⟩
  · rcases finish_calls hcall with ⟨rfl, rfl⟩ | hsame
    · exact .inl ⟨rfl, rfl, trivial⟩
    · exact .inr hsame
  · rcases setCall_calls hcall with ⟨rfl, rfl⟩ | hsame
    · exact .inl ⟨rfl, rfl, trivial⟩
    · exact .inr hsame

theorem proceeds_call (hinv : Inv log s) {x y : Nat} {request₀ request : Request}
    {stage₀ stage : Stage} {inputs : Inputs} {r : Result config}
    (hcall : s.calls y = some ⟨request₀, stage₀⟩) (h : Proceeds s y request₀ stage₀ r)
    (hx : r.1.calls x = some ⟨request, stage⟩) :
    CallStep s r.1 (.proceed y inputs) x request stage := by
  have hok := hinv.calls y _ hcall
  cases h with
  | refuses _ error hanswered =>
      rcases finish_calls hx with ⟨rfl, hcall'⟩ | hsame
      · cases hcall'
        exact .waits _ hcall trivial
      · exact .stays hsame
  | identifies token d =>
      rcases setCall_calls hx with ⟨rfl, hcall'⟩ | hsame
      · cases hcall'
        exact .waits _ hcall trivial
      · exact .stays hsame
  | reads d device seen hid hstatus hviews =>
      rcases finish_calls hx with ⟨rfl, hcall'⟩ | hsame
      · cases hcall'
        have hread := (hok.read d device rfl).1
        exact .concludes _ hcall trivial
          (.views _ d device seen hviews hcall (hid.trans hread) hstatus)
      · exact .stays hsame
  | strips d d' device =>
      rcases setCall_calls hx with ⟨rfl, hcall'⟩ | hsame
      · cases hcall'
        exact .waits _ hcall trivial
      · exact .stays hsame
  | saves d device device' clock =>
      rcases setCall_calls hx with ⟨rfl, hcall'⟩ | hsame
      · cases hcall'
        exact .waits _ hcall trivial
      · exact .stays hsame
  | disconnects _ d d' device manager events _ hstage hstep _ hconcludes =>
      rcases concluded_calls hconcludes hx with ⟨rfl, hrequest, hconcluding⟩ | hsame
      · obtain ⟨rfl, hanswered⟩ := hok.disconnecting hstage
        obtain rfl : request = _ := hrequest
        have hrevoked : Revoked s.tables d := by
          rcases hstage with ⟨-, rfl, hstatus⟩ | rfl
          · exact (hok.read d device rfl).2.2 hstatus
          · exact (hok.saving d device _ rfl).2.2.2.2.2 rfl
        refine .concludes _ hcall hconcluding
          (.revokes d stage₀ stage hcall (inSection_of_answered hanswered) hrevoked ?_)
        rw [(concludes_manager hconcludes).1]
        exact disconnected_lookup hstep
      · exact .stays hsame
  | connects d d' transport device sessionId now manager events _ hconnect hstatus _ _ hconcludes =>
      obtain rfl : request₀ = _ := hconnect
      rcases concluded_calls hconcludes hx with ⟨rfl, hrequest, hconcluding⟩ | hsame
      · obtain rfl : request = _ := hrequest
        obtain rfl := hok.target d _ rfl d' rfl
        exact .concludes _ hcall hconcluding
          (.connects d' transport device inputs stage rfl hcall hstatus)
      · exact .stays hsame
  | activates d d' sessionId advertised device now manager hrequest hactivate =>
      obtain rfl : request₀ = _ := hrequest
      dsimp only at hx
      rcases finish_calls hx with ⟨rfl, hcall'⟩ | hsame
      · cases hcall'
        obtain rfl := hok.target d _ rfl d' rfl
        obtain ⟨k, -, hk, -⟩ := activate_eq_ok hactivate
        exact .concludes _ hcall trivial (.activates d' sessionId advertised k _ hk)
      · exact .stays hsame
  | executes d d' capability action arguments device commandId clock now command =>
      rcases setCall_calls hx with ⟨rfl, hcall'⟩ | hsame
      · cases hcall'
        exact .waits _ hcall trivial
      · exact .stays hsame

theorem step_call (hinv : Inv log s) (h : step s action = some (t, events)) {x : Nat}
    {request : Request} {stage : Stage} (hx : t.calls x = some ⟨request, stage⟩) :
    CallStep s t action x request stage := by
  cases step_effect h with
  | pairs | passes => exact .stays hx
  | begins y request₀ stage₀ hfresh hbegins =>
      rcases setCall_calls hx with ⟨rfl, hcall⟩ | hsame
      · cases hcall
        refine .begins hfresh rfl ?_
        cases hbegins with
        | authenticate | get => trivial
      · exact .stays hsame
  | queues y request₀ lock hfresh =>
      rcases setCall_calls hx with ⟨rfl, hcall⟩ | hsame
      · cases hcall
        exact .begins hfresh rfl trivial
      · exact .stays hsame
  | enters _ y request₀ d lock hold =>
      rcases setCall_calls hx with ⟨rfl, hcall⟩ | hsame
      · cases hcall
        rcases hold with ⟨hfresh, hstart⟩ | ⟨cancelled, hwaiting⟩
        · exact .begins hfresh hstart trivial
        · exact .waits _ hwaiting trivial
      · exact .stays hsame
  | leaves _ y request₀ cancelled stage₀ lock hwaiting _ _ hstage =>
      rcases setCall_calls hx with ⟨rfl, hcall⟩ | hsame
      · cases hcall
        refine .waits _ hwaiting ?_
        rcases hstage with rfl | rfl
        · trivial
        · trivial
      · exact .stays hsame
  | performs y request₀ stage₀ stage₁ tables _ hcall₀ hperforms =>
      rcases setCall_calls hx with ⟨rfl, hcall⟩ | hsame
      · cases hcall
        exact .answers stage₀ tables hcall₀ hperforms
      · exact .stays hsame
  | proceeds y request₀ stage₀ r _ hcall₀ hproceeds => exact proceeds_call hinv hcall₀ hproceeds hx
  | closes y request₀ value outcome failure hcall₀ houtcome =>
      rcases finish_calls hx with ⟨rfl, hcall⟩ | hsame
      · cases hcall
        exact .closes value outcome failure rfl hcall₀ rfl houtcome
      · exact .stays hsame

omit [DecidableEq Digest] in
theorem not_concluding_of_unanswered {stage : Stage} (h : Unanswered stage) :
    ¬ Concluding stage := by
  intro hconcluding
  unfold Unanswered at h
  split at h
  all_goals first | exact hconcluding | exact h

theorem step_concluding (hinv : Inv log s) (h : step s action = some (t, events)) {x : Nat}
    {request : Request} {stage : Stage} (hx : t.calls x = some ⟨request, stage⟩)
    (hstage : Concluding stage) :
    s.calls x = some ⟨request, stage⟩ ∨
      (∃ value, s.calls x = some ⟨request, .awaitingClose value⟩ ∧ stage = .finished (.ok value)) ∨
      Found s t action x request stage := by
  cases step_call hinv h hx with
  | stays hsame => exact .inl hsame
  | begins _ _ hunanswered => exact absurd hstage (not_concluding_of_unanswered hunanswered)
  | waits _ _ hunanswered => exact absurd hstage (not_concluding_of_unanswered hunanswered)
  | answers stage₀ tables _ hperforms => cases hperforms <;> exact hstage.elim
  | closes value outcome _ _ hcall hfinished houtcome =>
      subst hfinished
      rcases houtcome with rfl | ⟨error, -, -, rfl⟩
      · exact .inr (.inl ⟨value, hcall, rfl⟩)
      · exact hstage.elim
  | concludes _ _ _ hfound => exact .inr (.inr hfound)

theorem step_reading (hinv : Inv log s) (h : step s action = some (t, events)) {x : Nat}
    {request : Request} {d : UUID} {device : Device}
    (hx : t.calls x = some ⟨request, .awaitingGet d (some (.ok (some device)))⟩) :
    s.calls x = some ⟨request, .awaitingGet d (some (.ok (some device)))⟩ ∨
      s.tables.get config.dialect d = .ok (some device) := by
  cases step_call hinv h hx with
  | stays hsame => exact .inl hsame
  | begins _ _ hunanswered => exact hunanswered.elim
  | waits _ _ hunanswered => exact hunanswered.elim
  | answers stage₀ tables _ hperforms =>
      cases hperforms with
      | gets _ _ hanswer => exact .inr (hanswer device rfl)
  | closes _ _ _ _ _ hstage => cases hstage
  | concludes _ _ hconcluding => exact hconcluding.elim

omit [DecidableEq Digest] in
theorem not_settled_of_answered {stage : Stage} (h : Answered stage) : ¬ Settled stage := by
  intro hsettled
  unfold Answered at h
  split at h
  all_goals first | exact hsettled | exact h

/-- What a step does to the table of the calls. -/
inductive Updates (s t : State config) (action : Action config) : Prop
  | stays : t.calls = s.calls → Updates s t action
  | begins (y : Nat) (request : Request) (stage : Stage) : s.calls y = none →
      action = .start y request →
      t.calls = Function.update s.calls y (some ⟨request, stage⟩) → Updates s t action
  | moves (y : Nat) (request : Request) (stage₀ stage₁ : Stage) :
      s.calls y = some ⟨request, stage₀⟩ → ¬ Settled stage₀ →
      t.calls = Function.update s.calls y (some ⟨request, stage₁⟩) → Updates s t action
  | closes (y : Nat) (request : Request) (value : Value) (outcome : Except Raised Value)
      (failure : Option Raised) : s.calls y = some ⟨request, .awaitingClose value⟩ →
      action = .endClose y failure →
      outcome = .ok value ∨ (∃ error, failure = some error ∧ error.isException = false ∧
        outcome = .error error) →
      t.calls = Function.update s.calls y (some ⟨request, .finished outcome⟩) →
      Updates s t action

omit [DecidableEq Digest] in
theorem concludes_updates {x : Nat} {request : Request} {value : Value}
    {manager : Manager.Operations.State} {events : List TransportCall} {r : Result config}
    (h : Concludes s x request value manager events r) :
    ∃ stage, r.1.calls = Function.update s.calls x (some ⟨request, stage⟩) := by
  rcases h with ⟨-, rfl⟩ | ⟨transport, code, reason, -, rfl⟩
  · exact ⟨_, finish_update _ _ _ _⟩
  · exact ⟨_, rfl⟩

theorem step_updates (hinv : Inv log s) (h : step s action = some (t, events)) :
    Updates s t action := by
  cases step_effect h with
  | pairs | passes => exact .stays rfl
  | begins y request stage hfresh => exact .begins y request stage hfresh rfl rfl
  | queues y request lock hfresh => exact .begins y request _ hfresh rfl rfl
  | enters _ y request d lock hold =>
      rcases hold with ⟨hfresh, hstart⟩ | ⟨cancelled, hwaiting⟩
      · exact .begins y request _ hfresh hstart rfl
      · exact .moves y request _ _ hwaiting id rfl
  | leaves _ y request cancelled stage lock hwaiting => exact .moves y request _ _ hwaiting id rfl
  | performs y request stage₀ stage₁ tables _ hcall hperforms =>
      refine .moves y request stage₀ stage₁ hcall ?_ rfl
      cases hperforms with
      | authenticates | gets | revokes | saves => exact id
  | proceeds y request stage₀ r _ hcall hproceeds =>
      have hok := hinv.calls y _ hcall
      cases hproceeds with
      | refuses _ error hanswered =>
          exact .moves y request _ _ hcall (not_settled_of_answered hanswered)
            (finish_update _ _ _ _)
      | reads | activates => exact .moves y request _ _ hcall id (finish_update _ _ _ _)
      | identifies | strips | saves | executes => exact .moves y request _ _ hcall id rfl
      | disconnects _ d d' device manager events _ hstage _ _ hconcludes =>
          obtain ⟨stage, hcalls⟩ := concludes_updates hconcludes
          exact .moves y request _ stage hcall
            (not_settled_of_answered (hok.disconnecting hstage).2) hcalls
      | connects _ _ _ _ _ _ _ _ _ _ _ _ _ hconcludes =>
          obtain ⟨stage, hcalls⟩ := concludes_updates hconcludes
          exact .moves y request _ stage hcall id hcalls
  | closes y request value outcome failure hcall houtcome =>
      exact .closes y request value outcome failure hcall rfl houtcome (finish_update _ _ _ _)

theorem step_request (hinv : Inv log s) (h : step s action = some (t, events)) {x : Nat}
    {request : Request} {stage : Stage} (hx : t.calls x = some ⟨request, stage⟩) :
    (∃ stage₀, s.calls x = some ⟨request, stage₀⟩) ∨ action = .start x request := by
  have either {y : Nat} {request' : Request} {stage' : Stage}
      (hcalls : t.calls = Function.update s.calls y (some ⟨request', stage'⟩)) :
      (x = y ∧ request = request') ∨ s.calls x = some ⟨request, stage⟩ := by
    rw [hcalls] at hx
    rcases setCall_calls hx with ⟨rfl, hcall⟩ | hsame
    · cases hcall
      exact .inl ⟨rfl, rfl⟩
    · exact .inr hsame
  cases step_updates hinv h with
  | stays hcalls => exact .inl ⟨stage, hcalls ▸ hx⟩
  | begins y request' stage' _ haction hcalls =>
      rcases either hcalls with ⟨rfl, rfl⟩ | hsame
      · exact .inr haction
      · exact .inl ⟨stage, hsame⟩
  | moves y request' stage₀ stage₁ hcall _ hcalls =>
      rcases either hcalls with ⟨rfl, rfl⟩ | hsame
      · exact .inl ⟨stage₀, hcall⟩
      · exact .inl ⟨stage, hsame⟩
  | closes y request' value outcome failure hcall _ _ hcalls =>
      rcases either hcalls with ⟨rfl, rfl⟩ | hsame
      · exact .inl ⟨_, hcall⟩
      · exact .inl ⟨stage, hsame⟩

theorem connections_step {managerAction : Manager.Execution.Action}
    (h : step s (.connections managerAction) = some (t, events)) :
    ∃ manager calls, Manager.Execution.step s.manager managerAction = some (manager, calls) ∧
      t = { s with manager } ∧ events = calls.map .transport := by
  simp only [step, pairingAction] at h
  split at h
  · split at h
    · rename_i manager calls hstep
      cases h
      exact ⟨manager, calls, hstep, rfl, rfl⟩
    · cases h
  · cases h

theorem step_keeps (hinv : Inv log s) (h : step s action = some (t, events)) {x : Nat}
    {request : Request} {stage : Stage} (hx : s.calls x = some ⟨request, stage⟩) :
    ∃ stage', t.calls x = some ⟨request, stage'⟩ := by
  have keeps {y : Nat} {stage₀ stage₁ : Stage} {request' : Request}
      (hy : s.calls y = some ⟨request', stage₀⟩)
      (hcalls : t.calls = Function.update s.calls y (some ⟨request', stage₁⟩)) :
      ∃ stage', t.calls x = some ⟨request, stage'⟩ := by
    rw [hcalls]
    by_cases hxy : x = y
    · subst hxy
      rw [hx] at hy
      cases hy
      exact ⟨stage₁, Function.update_self _ _ _⟩
    · exact ⟨stage, (Function.update_of_ne hxy _ _).trans hx⟩
  cases step_updates hinv h with
  | stays hcalls => exact ⟨stage, hcalls ▸ hx⟩
  | begins y request' stage' hfresh _ hcalls =>
      refine ⟨stage, ?_⟩
      rw [hcalls, Function.update_of_ne]
      · exact hx
      · rintro rfl
        rw [hfresh] at hx
        cases hx
  | moves y request' stage₀ stage₁ hcall _ hcalls => exact keeps hcall hcalls
  | closes y request' value outcome failure hcall _ _ hcalls => exact keeps hcall hcalls

omit [DecidableEq Digest] in
theorem begin_calls (s : State config) (x : Nat) (request : Request) :
    ∃ stage, (begin s x request).calls x = some ⟨request, stage⟩ := by
  unfold begin
  dsimp only
  split
  · exact ⟨_, Function.update_self _ _ _⟩
  all_goals
    first
      | exact ⟨_, Function.update_self _ _ _⟩
      | split <;> exact ⟨_, Function.update_self _ _ _⟩

theorem start_calls {x : Nat} {request : Request}
    (h : step s (.start x request) = some (t, events)) :
    s.calls x = none ∧ ∃ stage, t.calls x = some ⟨request, stage⟩ := by
  simp only [step, pairingAction] at h
  split at h
  · rename_i hfresh
    cases h
    exact ⟨hfresh, begin_calls s x request⟩
  · cases h

theorem step_settled (hinv : Inv log s) (h : step s action = some (t, events)) {x : Nat}
    {request : Request} {stage : Stage} (hx : s.calls x = some ⟨request, stage⟩)
    (hstage : Settled stage) :
    t.calls x = some ⟨request, stage⟩ ∨ ∃ value outcome failure, stage = .awaitingClose value ∧
      action = .endClose x failure ∧ t.calls x = some ⟨request, .finished outcome⟩ ∧
      (outcome = .ok value ∨ ∃ error, failure = some error ∧ error.isException = false ∧
        outcome = .error error) := by
  have other {y : Nat} {call : Call} (hxy : x ≠ y)
      (hcalls : t.calls = Function.update s.calls y (some call)) :
      t.calls x = some ⟨request, stage⟩ := by
    rw [hcalls, Function.update_of_ne hxy]
    exact hx
  cases step_updates hinv h with
  | stays hcalls => exact .inl (hcalls ▸ hx)
  | begins y request' stage' hfresh _ hcalls =>
      refine .inl (other ?_ hcalls)
      rintro rfl
      rw [hfresh] at hx
      cases hx
  | moves y request' stage₀ stage₁ hcall hrunning hcalls =>
      refine .inl (other ?_ hcalls)
      rintro rfl
      rw [hx] at hcall
      cases hcall
      exact hrunning hstage
  | closes y request' value outcome failure hcall haction houtcome hcalls =>
      by_cases hxy : x = y
      · subst hxy
        rw [hx] at hcall
        cases hcall
        refine .inr ⟨value, outcome, failure, rfl, haction, ?_, houtcome⟩
        rw [hcalls]
        exact Function.update_self _ _ _
      · exact .inl (other hxy hcalls)

section Sessions

variable {x transport : Nat} {d sessionId : UUID} {inputs : Inputs}

/-- The call has read the device that it is about to connect. -/
def Connecting (s : State config) (x : Nat) (d : UUID) (transport : Nat) : Prop :=
  ∃ device, s.calls x =
    some ⟨.connectDevice d transport, .awaitingGet d (some (.ok (some device)))⟩ ∧
      device.status ≠ .revoked

/-- `connect` has made the session for the call, which has returned it or does so once the
replaced transport is closed. -/
def HasSession (s : State config) (x : Nat) (d : UUID) (transport : Nat) (sessionId : UUID) :
    Prop :=
  s.calls x = some ⟨.connectDevice d transport, .awaitingClose (.session sessionId)⟩ ∨
    s.calls x = some ⟨.connectDevice d transport, .finished (.ok (.session sessionId))⟩

omit [DecidableEq Digest] in
theorem HasSession.call (h : HasSession s x d transport sessionId) :
    ∃ stage, s.calls x = some ⟨.connectDevice d transport, stage⟩ ∧ Settled stage := by
  rcases h with h | h
  · exact ⟨_, h, trivial⟩
  · exact ⟨_, h, trivial⟩

/-- The manager has the session for the transport. -/
def Current (s : State config) (d : UUID) (transport : Nat) (sessionId : UUID) : Prop :=
  ∃ k, s.manager.connections.lookup d = some k ∧ k.transport = transport ∧
    k.sessionId = sessionId

theorem step_connects (h : step s (.proceed x inputs) = some (t, events))
    (hconnecting : Connecting s x d transport) :
    Current t d transport inputs.sessionId ∧ HasSession t x d transport inputs.sessionId := by
  obtain ⟨device, hcall, hstatus⟩ := hconnecting
  have hstep : step s (.proceed x inputs) =
      some (connectTransport s x (.connectDevice d transport) d transport inputs) := by
    simp only [step, pairingAction, onCall, hcall, proceed, withDevice, if_neg hstatus]
  rw [hstep] at h
  obtain rfl : (connectTransport s x (.connectDevice d transport) d transport inputs).1 = t :=
    congrArg Prod.fst (Option.some.inj h)
  unfold connectTransport
  dsimp only
  cases (connect s.manager d transport inputs.sessionId inputs.now).2 with
  | none =>
      refine ⟨?_, .inr ?_⟩
      · unfold Current
        rw [finish_manager]
        exact ⟨_, AList.lookup_insert _, rfl, rfl⟩
      · rw [finish_update]
        exact Function.update_self _ _ _
  | some k =>
      exact ⟨⟨_, AList.lookup_insert _, rfl, rfl⟩, .inl (Function.update_self _ _ _)⟩

theorem step_session (hinv : Inv log s) (h : step s action = some (t, events))
    (hsession : HasSession t x d transport sessionId) :
    HasSession s x d transport sessionId ∨
      ∃ inputs, action = .proceed x inputs ∧ Connecting s x d transport ∧
        sessionId = inputs.sessionId := by
  have made (stage : Stage) (hx : t.calls x = some ⟨.connectDevice d transport, stage⟩)
      (hfound : Found s t action x (.connectDevice d transport) stage) :
      ∃ inputs, action = .proceed x inputs ∧ Connecting s x d transport ∧
        sessionId = inputs.sessionId := by
    cases hfound with
    | views _ _ _ _ hviews => exact hviews.elim
    | connects _ _ device inputs _ haction hcall hstatus =>
        subst haction
        refine ⟨inputs, rfl, ⟨device, hcall, hstatus⟩, ?_⟩
        obtain ⟨-, hmade⟩ := step_connects h ⟨device, hcall, hstatus⟩
        rcases hsession with hclosing | hfinished
        · rcases hmade with hmade | hmade
          · cases hclosing.symm.trans hmade
            rfl
          · cases hclosing.symm.trans hmade
        · rcases hmade with hmade | hmade
          · cases hfinished.symm.trans hmade
          · cases hfinished.symm.trans hmade
            rfl
  rcases hsession with hclosing | hfinished
  · rcases step_concluding hinv h hclosing trivial with hsame | ⟨value, -, hvalue⟩ | hfound
    · exact .inl (.inl hsame)
    · cases hvalue
    · exact .inr (made _ hclosing hfound)
  · rcases step_concluding hinv h hfinished trivial with hsame | ⟨value, hclosing, hvalue⟩ | hfound
    · exact .inl (.inr hsame)
    · cases hvalue
      exact .inl (.inl hclosing)
    · exact .inr (made _ hfinished hfound)

/-- A call keeps its session unless it is cancelled while the replaced transport is closed. -/
theorem HasSession.step (hinv : Inv log s) (h : step s action = some (t, events))
    (hsession : HasSession s x d transport sessionId) :
    HasSession t x d transport sessionId ∨
      ∃ error, action = .endClose x (some error) ∧ error.isException = false ∧
        s.calls x = some ⟨.connectDevice d transport, .awaitingClose (.session sessionId)⟩ ∧
        t.calls x = some ⟨.connectDevice d transport, .finished (.error error)⟩ := by
  rcases hsession with hclosing | hfinished
  · rcases step_settled hinv h hclosing trivial with
      hsame | ⟨value, outcome, failure, hvalue, haction, houtcome, rfl | ⟨error, rfl, hcancelled, rfl⟩⟩
    · exact .inl (.inl hsame)
    · cases hvalue
      exact .inl (.inr houtcome)
    · exact .inr ⟨error, haction, hcancelled, hclosing, houtcome⟩
  · rcases step_settled hinv h hfinished trivial with hsame | ⟨value, outcome, failure, hvalue, -⟩
    · exact .inl (.inr hsame)
    · cases hvalue

/-- A connection has been there before, or a `connect_device` call has just made it. -/
theorem step_gained (hinv : Inv log s) (h : step s action = some (t, events))
    {k' : LiveConnection} (hk' : t.manager.connections.lookup d = some k') :
    (∃ k, s.manager.connections.lookup d = some k ∧ SameConnection k k') ∨
      ∃ x inputs, action = .proceed x inputs ∧ Connecting s x d k'.transport ∧
        k'.sessionId = inputs.sessionId := by
  have same (hmanager : t.manager = s.manager) :
      ∃ k, s.manager.connections.lookup d = some k ∧ SameConnection k k' := by
    rw [hmanager] at hk'
    exact ⟨k', hk', .refl k'⟩
  have moved (managerAction : Manager.Execution.Action) (calls : List TransportCall)
      (hstep : Manager.Execution.step s.manager managerAction = some (t.manager, calls))
      (hother : ∀ d transport sessionId now,
        managerAction ≠ .connect d transport sessionId now) :
      ∃ k, s.manager.connections.lookup d = some k ∧ SameConnection k k' := by
    rcases Manager.Connections.step_gained hstep hk' with hold | ⟨transport, sessionId, now, h⟩
    · exact hold
    · exact absurd h (hother _ _ _ _)
  cases step_effect h with
  | pairs | begins | queues | enters | leaves | performs => exact .inl (same rfl)
  | closes => exact .inl (same (finish_manager _ _ _ _))
  | passes managerAction manager events hpassed hstep =>
      refine .inl (moved _ _ hstep ?_)
      rintro d transport sessionId now rfl
      cases hpassed
  | proceeds x request stage r inputs hcall hproceeds =>
      have hok := hinv.calls x _ hcall
      cases hproceeds with
      | refuses | reads => exact .inl (same (finish_manager _ _ _ _))
      | identifies | strips | saves => exact .inl (same rfl)
      | disconnects _ _ _ _ manager events _ _ hstep _ hconcludes =>
          rw [← (concludes_manager hconcludes).1] at hstep
          exact .inl (moved _ _ hstep (by simp))
      | activates d' _ sessionId' advertised device now manager _ hactivate =>
          refine .inl (moved (.activate d' sessionId' advertised
            (advertised ∩ device.grantedCapabilities) now) [] ?_ (by simp))
          rw [finish_manager]
          simp only [Manager.Execution.step, hactivate]
      | executes _ _ _ _ _ _ _ _ now command =>
          refine .inl ⟨k', ?_, .refl k'⟩
          exact (congrArg (AList.lookup d) (execute_connections s.manager x command _ now)).symm.trans
            hk'
      | connects d' d'' transport device sessionId now manager events _ hrequest hstatus hstep _
          hconcludes =>
          obtain rfl : request = _ := hrequest
          obtain rfl := hok.target d' _ rfl d'' rfl
          rw [← (concludes_manager hconcludes).1] at hstep
          rcases Manager.Connections.step_gained hstep hk' with hold | ⟨transport', session', now', heq⟩
          · exact .inl hold
          · cases heq
            have hconnecting : Connecting s x d transport := ⟨device, hcall, hstatus⟩
            obtain ⟨⟨k, hk, htransport, hsession⟩, -⟩ := step_connects h hconnecting
            obtain rfl := Option.some.inj (hk'.symm.trans hk)
            exact .inr ⟨x, inputs, rfl, htransport ▸ hconnecting, hsession⟩

/-- A connection stays what it is, or its transport is closed, or the manager is told to
disconnect it, or a send fails on it. -/
theorem step_lost (hinv : Inv log s) (h : step s action = some (t, events)) {k : LiveConnection}
    (hk : s.manager.connections.lookup d = some k) :
    (∃ k', t.manager.connections.lookup d = some k' ∧ SameConnection k k') ∨
      (∃ code reason, .close k.transport code reason ∈ transportCalls events) ∨
      t.manager.connections.lookup d = none ∧ ∃ managerAction,
        action = .connections managerAction ∧
          (managerAction = .disconnect d k.sessionId ∨ FailsSend s.manager d k managerAction) := by
  rcases step_manager hinv h with ⟨hsame, -⟩ | ⟨managerAction, -, hpassed, hstep⟩
  · rw [hsame]
    exact .inl ⟨k, hk, .refl k⟩
  · rcases Manager.Connections.step_lost hstep hk with hkept | hclosed | ⟨hnone, hdropped⟩
    · exact .inl hkept
    · exact .inr (.inl hclosed)
    · refine .inr (.inr ⟨hnone, managerAction, hpassed ?_, hdropped⟩)
      rcases hdropped with rfl | ⟨x, error, now, call, rfl, -⟩
      · rfl
      · rfl

/-- A connection that is online has been so before, or an `activate_device` call has just
made it so and has returned. -/
theorem step_online (hinv : Inv log s) (h : step s action = some (t, events)) {k' : LiveConnection}
    (hk' : t.manager.connections.lookup d = some k') (honline : k'.status = .online) :
    ∃ k, s.manager.connections.lookup d = some k ∧ SameConnection k k' ∧
      (k.status = .online ∨ ∃ x inputs advertised stage value, action = .proceed x inputs ∧
        s.calls x = some ⟨.activateDevice d k.sessionId advertised, stage⟩ ∧ ¬ Settled stage ∧
        t.calls x = some ⟨.activateDevice d k.sessionId advertised, .finished (.ok value)⟩) := by
  have moved (managerAction : Manager.Execution.Action) (calls : List TransportCall)
      (hstep : Manager.Execution.step s.manager managerAction = some (t.manager, calls))
      (hother : ∀ d sessionId advertised effective now,
        managerAction ≠ .activate d sessionId advertised effective now) :
      ∃ k, s.manager.connections.lookup d = some k ∧ SameConnection k k' ∧ k.status = .online := by
    obtain ⟨k, hk, hsame, hbefore | ⟨advertised, effective, now, heq⟩⟩ :=
      Manager.Connections.step_online hstep hk' honline
    · exact ⟨k, hk, hsame, hbefore⟩
    · exact absurd heq (hother _ _ _ _ _)
  have kept (hkept : ∃ k, s.manager.connections.lookup d = some k ∧ SameConnection k k' ∧
      k.status = .online) :
      ∃ k, s.manager.connections.lookup d = some k ∧ SameConnection k k' ∧
        (k.status = .online ∨ ∃ x inputs advertised stage value, action = .proceed x inputs ∧
          s.calls x = some ⟨.activateDevice d k.sessionId advertised, stage⟩ ∧ ¬ Settled stage ∧
          t.calls x =
            some ⟨.activateDevice d k.sessionId advertised, .finished (.ok value)⟩) := by
    obtain ⟨k, hk, hsame, hbefore⟩ := hkept
    exact ⟨k, hk, hsame, .inl hbefore⟩
  cases step_effect h with
  | pairs | begins | queues | enters | leaves | performs =>
      exact kept ⟨k', hk', .refl k', honline⟩
  | closes =>
      rw [finish_manager] at hk'
      exact kept ⟨k', hk', .refl k', honline⟩
  | passes passedAction manager calls hpassed hpass =>
      refine kept (moved passedAction calls hpass ?_)
      rintro d' sessionId advertised effective now rfl
      cases hpassed
  | proceeds x request stage r inputs hcall hproceeds =>
      have hok := hinv.calls x _ hcall
      cases hproceeds with
      | refuses | reads =>
          rw [finish_manager] at hk'
          exact kept ⟨k', hk', .refl k', honline⟩
      | identifies | strips | saves => exact kept ⟨k', hk', .refl k', honline⟩
      | disconnects _ _ _ _ manager calls _ _ hdisconnect _ hconcludes =>
          rw [← (concludes_manager hconcludes).1] at hdisconnect
          exact kept (moved _ _ hdisconnect (by simp))
      | connects d' _ transport _ sessionId now manager calls _ _ _ hconnect _ hconcludes =>
          rw [← (concludes_manager hconcludes).1] at hconnect
          exact kept (moved _ _ hconnect (by simp))
      | executes _ _ _ _ _ _ _ _ now command =>
          refine kept ⟨k', ?_, .refl k', honline⟩
          exact (congrArg (AList.lookup d)
            (execute_connections s.manager x command _ now)).symm.trans hk'
      | activates d' d'' sessionId advertised device now manager hrequest hactivate =>
          obtain rfl : request = _ := hrequest
          obtain rfl := hok.target d' _ rfl d'' rfl
          rw [finish_manager] at hk'
          have hactivates : Manager.Execution.step s.manager (.activate d'' sessionId advertised
              (advertised ∩ device.grantedCapabilities) now) = some (manager, []) := by
            simp only [Manager.Execution.step, hactivate]
          obtain ⟨k, hk, hsame, hbefore | ⟨_, _, _, heq⟩⟩ :=
            Manager.Connections.step_online hactivates hk' honline
          · exact ⟨k, hk, hsame, .inl hbefore⟩
          · cases heq
            refine ⟨k, hk, hsame, .inr ⟨x, inputs, advertised, _,
              .capabilities (advertised ∩ device.grantedCapabilities), rfl, hcall, id, ?_⟩⟩
            rw [finish_update]
            exact Function.update_self _ _ _

/-- The transport of a connection is closed when the connection leaves the manager, or when
a later one takes its place. -/
theorem step_closes (hinv : Inv log s) (h : step s action = some (t, events)) {code : Nat}
    {reason : String} (hclose : .close transport code reason ∈ transportCalls events) :
    ∃ d k, s.manager.connections.lookup d = some k ∧ k.transport = transport ∧
      ∀ k', t.manager.connections.lookup d = some k' →
        ∃ x, Connecting s x d k'.transport := by
  rcases step_manager hinv h with ⟨-, hnone⟩ | ⟨managerAction, hmanager, -, hstep⟩
  · rw [hnone] at hclose
    cases hclose
  · cases Manager.Connections.step_closes hstep hclose with
    | removes d k _ _ hk htransport hnone =>
        refine ⟨d, k, hk, htransport, ?_⟩
        intro k' hk'
        rw [hnone] at hk'
        cases hk'
    | shutsDown d k hk htransport hnone =>
        refine ⟨d, k, hk, htransport, ?_⟩
        intro k' hk'
        rw [hnone] at hk'
        cases hk'
    | replaces d k transport' sessionId now hk htransport =>
        refine ⟨d, k, hk, htransport, ?_⟩
        intro k' hk'
        cases hmanager with
        | passes hpassed => cases hpassed
        | connects x _ d' _ device _ _ hcall hstatus =>
            obtain rfl := (hinv.calls x _ hcall).target d _ rfl d' rfl
            have hafter : (connect s.manager d' transport' sessionId now).1 = t.manager :=
              congrArg Prod.fst (Option.some.inj hstep)
            have hinserted : (connect s.manager d' transport' sessionId now).1.connections.lookup d' =
                some _ := AList.lookup_insert _
            rw [hafter] at hinserted
            obtain rfl := Option.some.inj (hk'.symm.trans hinserted)
            exact ⟨x, device, hcall, hstatus⟩

theorem action_of_close (h : step s action = some (t, events)) {code : Nat} {reason : String}
    (hclose : .close transport code reason ∈ transportCalls events) :
    (∃ x inputs, action = .proceed x inputs) ∨ action = .connections .closeAll := by
  cases step_effect h with
  | pairs =>
      rw [transportCalls_pairing] at hclose
      cases hclose
  | begins | queues | enters | leaves | performs | closes => cases hclose
  | proceeds x request stage r inputs => exact .inl ⟨x, inputs, rfl⟩
  | passes managerAction manager calls hpassed hpass =>
      rw [transportCalls_transport] at hclose
      cases Manager.Connections.step_closes hpass hclose with
      | replaces | removes => cases hpassed
      | shutsDown => exact .inr rfl

theorem step_closeCode (h : step s action = some (t, events)) {code : Nat} {reason : String}
    (hclose : .transport (.close transport code reason) ∈ events) :
    code = replacedCloseCode ∨ code = 4403 ∨ code = 1001 := by
  have own {managerAction : Manager.Execution.Action} {manager : Manager.Operations.State}
      {calls : List TransportCall}
      (hstep : Manager.Execution.step s.manager managerAction = some (manager, calls))
      (hcode : ∀ d reason, managerAction = .disconnectDevice d code reason → code = 4403)
      (hmem : .close transport code reason ∈ calls) :
      code = replacedCloseCode ∨ code = 4403 ∨ code = 1001 := by
    cases Manager.Connections.step_closes hstep hmem with
    | replaces => exact .inl rfl
    | removes d => exact .inr (.inl (hcode d _ rfl))
    | shutsDown => exact .inr (.inr rfl)
  have concludes {x : Nat} {request : Request} {value : Value} {manager : Manager.Operations.State}
      {calls : List TransportCall} {r : Result config}
      (hconcludes : Concludes s x request value manager calls r)
      (hmem : .transport (.close transport code reason) ∈ r.2) :
      .close transport code reason ∈ calls := by
    rcases hconcludes with ⟨-, rfl⟩ | ⟨transport', code', reason', rfl, rfl⟩
    · cases hmem
    · simpa using hmem
  cases step_effect h with
  | pairs => simp at hclose
  | passes managerAction manager calls hpassed hstep =>
      refine own hstep ?_ (by simpa using hclose)
      rintro d reason' rfl
      cases hpassed
  | begins | queues | enters | leaves | performs | closes => cases hclose
  | proceeds x request stage r inputs hcall hproceeds =>
      cases hproceeds with
      | refuses | identifies | reads | strips | saves | activates => cases hclose
      | disconnects _ d _ _ manager calls r _ hstep _ hconcludes =>
          refine own hstep ?_ (concludes hconcludes hclose)
          rintro d' reason' heq
          cases heq
          rfl
      | connects d _ transport' _ sessionId now manager calls r _ _ hstep _ hconcludes =>
          refine own hstep ?_ (concludes hconcludes hclose)
          rintro d' reason' heq
          cases heq
      | executes _ _ _ _ _ _ _ _ now command =>
          have hmem : .close transport code reason ∈ (Manager.Execution.execute s.manager x command
              config.commandTimeoutSeconds now).2 := by
            simpa using hclose
          exact absurd hmem (Manager.Connections.execute_closes _ _ _ _ _)

theorem step_admitted (hinv : Inv log s) (h : step s action = some (t, events))
    {call : AdmittedCall} (hcall : t.manager.calls x = some (.admitted call)) :
    (∃ call₀, s.manager.calls x = some (.admitted call₀) ∧ call.admission = call₀.admission) ∨
      ∃ d k, s.manager.connections.lookup d = some k ∧ k.status = .online ∧
        call.admission.transport = k.transport ∧ call.admission.sessionId = k.sessionId := by
  rcases step_manager hinv h with ⟨hsame, -⟩ | ⟨managerAction, -, -, hstep⟩
  · rw [hsame] at hcall
    exact .inl ⟨call, hcall, rfl⟩
  · rcases Manager.Evolution.step_admitted hstep hcall with
      ⟨call₀, hcall₀, ⟨-, rfl⟩ | ⟨-, hcontinuation⟩⟩ | hstarts
    · exact .inl ⟨call, hcall₀, rfl⟩
    · exact .inl ⟨call₀, hcall₀, hcontinuation.continues.admission⟩
    · obtain ⟨k, now, -, hallowed, ha⟩ := hstarts.registers
      obtain ⟨hk, honline, -⟩ := admission_eq_ok hallowed
      exact .inr ⟨_, k, hk, honline, by rw [ha]; rfl, by rw [ha]; rfl⟩

theorem step_sends (hinv : Inv log s) (h : step s action = some (t, events))
    {command : DeviceCommand}
    (hsend : .sendCommand x transport command sessionId ∈ transportCalls events) :
    ∃ call, t.manager.calls x = some (.admitted call) ∧ call.admission.transport = transport ∧
      call.admission.sessionId = sessionId := by
  rcases step_manager hinv h with ⟨-, hnone⟩ | ⟨managerAction, -, -, hstep⟩
  · rw [hnone] at hsend
    cases hsend
  · obtain ⟨-, call, hdispatches⟩ := Manager.Connections.step_dispatches hstep hsend
    exact ⟨call, hdispatches.admitted, hdispatches.transport, hdispatches.sessionId⟩

end Sessions

end Steps

end JarvisCore.Service.CallSteps
