import JarvisCore.Gateway.Invariant
import JarvisCore.Service.GrantContainment

namespace JarvisCore.Gateway.Cleanup

open JarvisCore.Domain.Values
open JarvisCore.Domain.Errors
open JarvisCore.Domain.Models
open JarvisCore.Foundation.TransitionSystem
open JarvisCore.Manager.Connections (disconnect_lookup disconnect_current)
open JarvisCore.Manager.Operations (LiveConnection disconnect)
open JarvisCore.Service.Operations (Config Request Value Event)
open JarvisCore.Service.CallSteps
open JarvisCore.Gateway.Handlers
open JarvisCore.Gateway.Operations
open JarvisCore.Gateway.Effects
open JarvisCore.Gateway.Invariant

variable {Digest : Type} {config : Config Digest}

def Finished (s : State config) (h : Nat) : Prop :=
  ∃ handler, s.handlers h = some handler ∧ handler.stage = .finished

/-- The manager has a connection that `connect_device` of the handler has registered. -/
def Registered (s : State config) (h : Nat) : Prop :=
  ∃ d k, s.service.manager.connections.lookup d = some k ∧ k.transport = h

def CleanedUp (s : State config) : Prop := ∀ h, Finished s h → ¬ Registered s h

/-- The heartbeat task has ended with an exception that the `finally` clause does not
suppress. -/
def DeadHeartbeat (handler : Handler) : Prop :=
  ∃ error, handler.heartbeat = some (.done (.error error)) ∧ error.isException = true

variable [DecidableEq Digest]

/-- The steps that lose a connection: the handler is cancelled while `connect` closes the
replaced transport, or it comes to its `finally` clause with a dead heartbeat task. -/
inductive Leaks (s : State config) : Action config → Prop
  | cancelled (x : Nat) (d : UUID) (h : Nat) (sessionId : UUID) (error : Raised) :
      s.service.calls x = some ⟨.connectDevice d h, .awaitingClose (.session sessionId)⟩ →
      error.isException = false → Registered s h → Leaks s (.service (.endClose x (some error)))
  | raised (s₁ : State config) (h : Nat) (handler : Handler) (action : Action config) :
      s.handlers h = some handler → Leaves s h handler action s₁ → DeadHeartbeat handler →
      Registered s₁ h → Leaks s action

section Steps

variable {s s₁ t : State config} {h : Nat} {handler handler' : Handler}

/-- The call that has registered a connection still has its session. -/
def Held (s : State config) : Prop :=
  ∀ d k, s.service.manager.connections.lookup d = some k →
    ∃ x, HasSession s.service x d k.transport k.sessionId

omit [DecidableEq Digest] in
theorem CleanedUp.setHandler (hs : CleanedUp s) (hkept : handler'.stage = .finished →
    Finished s h ∨ ¬ Registered s h) : CleanedUp (s.setHandler h handler') := by
  rintro h' ⟨handler₁, hhandler₁, hstage⟩
  rcases State.setHandler_cases hhandler₁ with ⟨rfl, rfl⟩ | ⟨-, hold⟩
  · rcases hkept hstage with hfinished | hfree
    · exact hs h' hfinished
    · exact hfree
  · exact hs h' ⟨handler₁, hold, hstage⟩

theorem registered_inner (hinv : Inv s) {inner : Service.Operations.Action config}
    {service : Service.Operations.State config} {events : List (Event Digest)}
    (hstep : Service.Operations.step s.service inner = some (service, events))
    {owners : Nat → Option Nat} {issued : List UUID}
    (hregistered : Registered { s with service, owners, issued } h) :
    Registered s h ∨ ∃ handler x, s.handlers h = some handler ∧ handler.stage = .connecting x := by
  obtain ⟨log, hservice⟩ := hinv.sessions.reached
  obtain ⟨d, k, hk, rfl⟩ := hregistered
  rcases step_gained hservice hstep hk with
    ⟨k₀, hk₀, hsame⟩ | ⟨x, inputs, -, ⟨device, hcall, -⟩, -⟩
  · exact .inl ⟨d, k₀, hk₀, hsame.transport.symm⟩
  · obtain ⟨handler, hhandler, -, hstage | ⟨outcome, houtcome, -⟩⟩ := hinv.calls x d _ _ hcall
    · exact .inr ⟨handler, x, hhandler, hstage⟩
    · cases houtcome

theorem registered_serves (hinv : Inv s) {action : Action config} {events : List (Event Digest)}
    (hserves : Serves s action s₁ events) (hregistered : Registered s₁ h) :
    Registered s h ∨ ∃ handler x, s.handlers h = some handler ∧ handler.stage = .connecting x := by
  cases hserves with
  | idle => exact .inl hregistered
  | own inner service _ _ _ hstep => exact registered_inner hinv hstep hregistered
  | inner inner service owners _ _ hstep => exact registered_inner hinv hstep hregistered

theorem CleanedUp.serves (hs : CleanedUp s) (hinv : Inv s) {action : Action config}
    {events : List (Event Digest)} (hserves : Serves s action s₁ events) : CleanedUp s₁ := by
  rintro h ⟨handler, hhandler, hstage⟩ hregistered
  rw [hserves.handlers] at hhandler
  rcases registered_serves hinv hserves hregistered with hold | ⟨handler', x, hhandler', hconnecting⟩
  · exact hs h ⟨handler, hhandler, hstage⟩ hold
  · obtain rfl := Option.some.inj (hhandler.symm.trans hhandler')
    cases hstage.symm.trans hconnecting

/-- A handler that has learnt its session has no other connection, and disconnects that one. -/
theorem CleanedUp.disconnectSession (hs : CleanedUp s) (hinv : Inv s)
    (hhandler : s.handlers h = some handler)
    (hsession : handler.sessionId = none → ¬ Registered s h) :
    CleanedUp (Operations.disconnectSession s h handler) := by
  unfold Operations.disconnectSession
  dsimp only
  split
  · rename_i hnone
    exact hs.setHandler fun _ => .inr (hsession hnone)
  · rename_i sessionId hsome
    rintro h' ⟨handler', hhandler', hstage⟩ ⟨d, k, hk, rfl⟩
    rcases disconnect_lookup s.service.manager handler.deviceId sessionId d with
      hsame | ⟨-, hnone, -⟩
    · have hold : s.service.manager.connections.lookup d = some k := hsame.symm.trans hk
      rcases State.setHandler_cases hhandler' with ⟨rfl, rfl⟩ | ⟨-, hhandler'⟩
      · obtain ⟨y, hy⟩ := hinv.known _ handler sessionId hhandler hsome
        obtain ⟨x, hx | ⟨error, hx⟩⟩ := hinv.sessions.connections d k hold
        · obtain ⟨stage, hcall, -⟩ := hx.call
          obtain rfl := hinv.once x y _ _ _ _ _ hcall hy
          obtain ⟨rfl, -, rfl⟩ := same_session hx (.inr hy)
          cases (disconnect_current hold).symm.trans hk
        · obtain rfl := hinv.once x y _ _ _ _ _ hx hy
          cases hx.symm.trans hy
      · exact hs k.transport ⟨handler', hhandler', hstage⟩ ⟨d, k, hold, rfl⟩
    · cases hnone.symm.trans hk

theorem Held.inner (hs : Held s) (hinv : Inv s) {inner : Service.Operations.Action config}
    {service : Service.Operations.State config} {events : List (Event Digest)}
    (hstep : Service.Operations.step s.service inner = some (service, events))
    (hkept : ∀ x d h sessionId error, inner = .endClose x (some error) →
      s.service.calls x = some ⟨.connectDevice d h, .awaitingClose (.session sessionId)⟩ →
      error.isException = false → ¬ Registered s h)
    (owners : Nat → Option Nat) (issued : List UUID) :
    Held { s with service, owners, issued } := by
  obtain ⟨log, hservice⟩ := hinv.sessions.reached
  intro d k hk
  rcases step_gained hservice hstep hk with
    ⟨k₀, hk₀, hsame⟩ | ⟨x, inputs, rfl, hconnecting, hsession⟩
  · rw [hsame.transport, hsame.sessionId]
    obtain ⟨x, hsession⟩ := hs d k₀ hk₀
    rcases hsession.step hservice hstep with hkept' | ⟨error, rfl, hcancelled, hcall, -⟩
    · exact ⟨x, hkept'⟩
    · exact absurd ⟨d, k₀, hk₀, rfl⟩ (hkept x d _ _ error rfl hcall hcancelled)
  · rw [hsession]
    exact ⟨x, (step_connects hstep hconnecting).2⟩

theorem Held.serves (hs : Held s) (hinv : Inv s) {action : Action config}
    {events : List (Event Digest)} (hserves : Serves s action s₁ events)
    (hkept : ¬ Leaks s action) : Held s₁ := by
  cases hserves with
  | idle => exact hs
  | own inner service _ haction _ hstep =>
      refine hs.inner hinv hstep ?_ s.owners _
      rintro x d h sessionId error rfl hcall hcancelled hregistered
      subst haction
      exact hkept (.cancelled x d h sessionId error hcall hcancelled hregistered)
  | inner inner service owners _ hinner hstep =>
      refine hs.inner hinv hstep ?_ owners s.issued
      rintro x d h sessionId error rfl
      exact hinner.elim

omit [DecidableEq Digest] in
theorem Held.disconnectSession (hs : Held s) :
    Held (Operations.disconnectSession s h handler) := by
  unfold Operations.disconnectSession
  dsimp only
  split
  · exact hs
  · rename_i sessionId _
    intro d k hk
    rcases disconnect_lookup s.service.manager handler.deviceId sessionId d with
      hsame | ⟨-, hnone, -⟩
    · exact hs d k (hsame.symm.trans hk)
    · cases hnone.symm.trans hk

omit [DecidableEq Digest] in
theorem Held.finallyClause (hs : Held s) : Held (Operations.finallyClause s h handler) := by
  unfold Operations.finallyClause joinHeartbeat
  split
  · exact hs.disconnectSession
  · split
    · exact hs.disconnectSession
    · split
      · exact hs
      · exact hs.disconnectSession
  · exact hs

theorem Held.step (hs : Held s) (hinv : Inv s) {action : Action config}
    {events : List (Event Digest)} (hstep : Operations.step s action = some (t, events))
    (hkept : ¬ Leaks s action) : Held t := by
  cases step_effect hstep with
  | serves _ _ hserves => exact hs.serves hinv hserves hkept
  | accepts h x deviceId service owners _ _ _ hstart =>
      have hserved : Held { s with service, owners } :=
        hs.inner hinv hstart (by simp) owners s.issued
      exact hserved
  | goes s₁ _ _ h handler handler' hserves =>
      have hserved : Held s₁ := hs.serves hinv hserves hkept
      exact hserved
  | beats => exact hs
  | leaves s₁ _ h handler hserves => exact (hs.serves hinv hserves hkept).finallyClause

theorem not_registered_of_leaves (hs : Held s₁) (hinv : Inv s₁) {action : Action config}
    (hhandler : s₁.handlers h = some handler) (hleaves : Leaves s h handler action s₁)
    (hnone : handler.sessionId = none) : ¬ Registered s₁ h := by
  rintro ⟨d, k, hk, rfl⟩
  obtain ⟨x, hsession⟩ := hs d k hk
  obtain ⟨stage, hcall, -⟩ := hsession.call
  obtain ⟨handler', hhandler', -, hstage⟩ := hinv.calls x d _ stage hcall
  obtain rfl := Option.some.inj (hhandler.symm.trans hhandler')
  have hconnecting : handler.stage = .connecting x := by
    rcases hstage with hconnecting | ⟨outcome, rfl, hlearnt⟩
    · exact hconnecting
    · rcases hsession with hclosing | hfinished
      · cases hcall.symm.trans hclosing
      · cases hcall.symm.trans hfinished
        rw [hnone] at hlearnt
        cases hlearnt _ rfl
  have hlearns := Leaves.learns hleaves
  rw [hnone] at hlearns
  generalize hlearnt : (none : Option UUID) = learnt at hlearns
  cases hlearns with
  | keeps hne => exact hne x hconnecting
  | connected => cases hlearnt
  | refused y request error hy hfinished =>
      cases hconnecting.symm.trans hy
      rcases hsession with hclosing | hreturned
      · cases hclosing.symm.trans hfinished
      · cases hreturned.symm.trans hfinished

theorem CleanedUp.finallyClause (hs : CleanedUp s) (hinv : Inv s)
    (hhandler : s.handlers h = some handler)
    (hsession : handler.sessionId = none → ¬ Registered s h)
    (halive : DeadHeartbeat handler → ¬ Registered s h) :
    CleanedUp (Operations.finallyClause s h handler) := by
  unfold Operations.finallyClause joinHeartbeat
  split
  · exact hs.disconnectSession hinv hhandler hsession
  · rename_i outcome hheartbeat
    split
    · exact hs.disconnectSession hinv hhandler hsession
    · rename_i error
      split
      · rename_i hexception
        exact hs.setHandler fun _ => .inr (halive ⟨error, hheartbeat, hexception⟩)
      · exact hs.disconnectSession hinv hhandler hsession
  · exact hs.setHandler fun hfinished => by cases hfinished

theorem CleanedUp.step (hs : CleanedUp s) (hheld : Held s) (hinv : Inv s) {action : Action config}
    {events : List (Event Digest)} (hstep : Operations.step s action = some (t, events))
    (hkept : ¬ Leaks s action) : CleanedUp t := by
  cases step_effect hstep with
  | serves _ _ hserves => exact hs.serves hinv hserves
  | accepts h x deviceId service owners _ hfree _ hstart =>
      rintro h' ⟨handler, hhandler, hstage⟩ hregistered
      rcases State.setHandler_cases hhandler with ⟨rfl, rfl⟩ | ⟨-, hhandler⟩
      · cases hstage
      · have hserved : Registered { s with service, owners } h' := hregistered
        rcases registered_inner hinv hstart hserved with hold | ⟨handler', y, hhandler', hconnecting⟩
        · exact hs h' ⟨handler, hhandler, hstage⟩ hold
        · obtain rfl := Option.some.inj (hhandler.symm.trans hhandler')
          cases hstage.symm.trans hconnecting
  | goes s₁ _ _ h handler handler' hserves hhandler hgoes =>
      refine (hs.serves hinv hserves).setHandler fun hfinished => .inl ⟨handler, ?_, ?_⟩
      · rw [hserves.handlers]
        exact hhandler
      · exact hgoes.finished.mp hfinished
  | beats _ h handler handler' hhandler _ _ hstage =>
      refine hs.setHandler fun hfinished => .inl ⟨handler, hhandler, ?_⟩
      rw [← hstage]
      exact hfinished
  | leaves s₁ _ h handler hserves hhandler hleaves =>
      have hinv₁ : Inv s₁ := hinv.serves hserves
      have hhandler₁ : s₁.handlers h = some handler := by
        rw [hserves.handlers]
        exact hhandler
      refine (hs.serves hinv hserves).finallyClause hinv₁ hhandler₁ ?_ ?_
      · exact not_registered_of_leaves (hheld.serves hinv hserves hkept) hinv₁ hhandler₁ hleaves
      · intro hdead hregistered
        exact hkept (.raised s₁ h handler action hhandler hleaves hdead hregistered)

theorem leaves_step {action : Action config} (hhandler : s.handlers h = some handler)
    (hleaves : Leaves s h handler action s₁) :
    ∃ events, Operations.step s action = some (Operations.finallyClause s₁ h handler, events) := by
  cases hleaves with
  | sent failure hsend =>
      refine ⟨[], ?_⟩
      simp only [Operations.step, onHandler, hhandler, hsend, Option.map_some, react]
  | closed failure hclose =>
      refine ⟨[], ?_⟩
      simp only [Operations.step, onHandler, hhandler, hclose, Option.map_some, react]
  | frame x clock now hstage =>
      refine ⟨[], ?_⟩
      rcases hstage with hstage | hstage
      · simp only [Operations.step, onHandler, hhandler, receive, hstage, react]
      · simp only [Operations.step, onHandler, hhandler, receive, hstage, react]
  | raised x error clock now hstage hexcept =>
      refine ⟨[], ?_⟩
      rcases hstage with hstage | hstage
      · simp only [Operations.step, onHandler, hhandler, receive, hstage, hexcept, react]
      · simp only [Operations.step, onHandler, hhandler, receive, hstage, hexcept, react]
  | refused inner x request error _ events hserve hx howner hawaits hcall hexcept =>
      refine ⟨events ++ [], ?_⟩
      have hhandler₁ : s₁.handlers h = some handler := by
        rw [(serve_serves hserve).handlers]
        exact hhandler
      have hresumed : resumed handler (.error error) = some (.leave handler) := by
        rw [← hexcept]
        unfold awaitedCall at hawaits
        split at hawaits
        · rename_i hstage
          simp only [resumed, hstage, Handler.afterConnect]
        · rename_i hstage
          simp only [resumed, hstage, Handler.afterActivate]
        · cases hawaits
      have hresumption : resumption s₁ inner = some (h, .leave handler) := by
        simp only [resumption, hx, howner, hcall, hhandler₁, hawaits, if_true, hresumed,
          Option.map_some]
      simp only [Operations.step, hserve, hresumption, react]
  | joined outcome hstage hheartbeat =>
      refine ⟨[], ?_⟩
      simp only [Operations.step, onHandler, hhandler, joined, hstage, hheartbeat,
        Operations.finallyClause]

theorem cancelled_leaves (hinv : Inv s) {x : Nat} {d sessionId : UUID} {error : Raised}
    (hcall : s.service.calls x = some ⟨.connectDevice d h, .awaitingClose (.session sessionId)⟩)
    (hcancelled : error.isException = false) :
    ∃ handler s₁, s.handlers h = some handler ∧ handler.heartbeat = none ∧
      handler.sessionId = none ∧ Leaves s h handler (.service (.endClose x (some error))) s₁ ∧
      s₁.service.manager = s.service.manager := by
  obtain ⟨handler, hhandler, -, hstage | ⟨outcome, houtcome, -⟩⟩ := hinv.calls x d h _ hcall
  · obtain ⟨hsession, hheartbeat, howner, -⟩ := hinv.connecting h handler x hhandler hstage
    have hserve : serve s (.endClose x (some error)) =
        some ({ s with service :=
          Service.Operations.finish s.service x (.connectDevice d h) (.error error) }, []) := by
      simp [serve, permitted, Service.Operations.step, Service.Operations.pairingAction,
        Service.Operations.onCall, hcall, Service.Operations.endClose, hcancelled, issuedBy]
    refine ⟨handler, _, hhandler, hheartbeat, hsession,
      .refused _ x (.connectDevice d h) error _ [] hserve rfl howner ?_ ?_ ?_, ?_⟩
    · simp only [awaitedCall, hstage]
    · have hfinished : (Service.Operations.finish s.service x (.connectDevice d h)
          (.error error)).calls x = some ⟨.connectDevice d h, .finished (.error error)⟩ := by
        rw [finish_update]
        exact Function.update_self _ _ _
      exact hfinished
    · cases error with
      | cancelled => rfl
      | device | valueError | typeError | runtimeError | disconnected | foreign => cases hcancelled
    · exact Service.Invariant.finish_manager _ _ _ _
  · cases houtcome

theorem Leaks.not_cleanedUp (hinv : Inv s) {action : Action config} {events : List (Event Digest)}
    (hstep : Operations.step s action = some (t, events)) (hleaks : Leaks s action) :
    ¬ CleanedUp t := by
  cases hleaks with
  | cancelled x d h sessionId error hcall hcancelled hregistered =>
      obtain ⟨handler, s₁, hhandler, hheartbeat, hsession, hleaves, hmanager⟩ :=
        cancelled_leaves hinv hcall hcancelled
      obtain ⟨events', hfinally⟩ := leaves_step hhandler hleaves
      cases hstep.symm.trans hfinally
      have hclause : Operations.finallyClause s₁ h handler =
          s₁.setHandler h { handler with stage := .finished } := by
        simp only [Operations.finallyClause, hheartbeat, Operations.disconnectSession, hsession]
      rw [hclause]
      intro hclean
      refine hclean h ⟨_, State.setHandler_self _ _ _, rfl⟩ ?_
      obtain ⟨d', k, hk, htransport⟩ := hregistered
      refine ⟨d', k, ?_, htransport⟩
      show s₁.service.manager.connections.lookup d' = some k
      rw [hmanager]
      exact hk
  | raised s₁ h handler _ hhandler hleaves hdead hregistered =>
      obtain ⟨events', hfinally⟩ := leaves_step hhandler hleaves
      cases hstep.symm.trans hfinally
      obtain ⟨error, hheartbeat, hexception⟩ := hdead
      have hclause : Operations.finallyClause s₁ h handler =
          s₁.setHandler h { handler with stage := .finished } := by
        simp only [Operations.finallyClause, hheartbeat, joinHeartbeat, hexception, if_true]
      rw [hclause]
      exact fun hclean => hclean h ⟨_, State.setHandler_self _ _ _, rfl⟩ hregistered

end Steps

section Runs

variable {history : List (Step config)} {s : State config}

omit [DecidableEq Digest] in
theorem cleanedUp_initial : CleanedUp (State.initial config) := by
  rintro h ⟨handler, hhandler, -⟩
  cases hhandler

omit [DecidableEq Digest] in
theorem held_initial : Held (State.initial config) := by
  intro d k hk
  cases hk

/-- Every handler of a run cleans up exactly when no step leaks. -/
theorem gateway_cleanup_iff (hrun : Run (gateway config) (.initial config) history s) :
    Throughout (fun _ s => CleanedUp s) (.initial config) history ↔
      Never (fun _ u => Leaks u.source u.action) history := by
  constructor
  · refine hrun.never_of_throughout _ _ ?_
    intro history s action events t hrun _ hstep hleaks
    exact hleaks.not_cleanedUp (inv_of_run hrun) hstep
  · intro hnever
    have hpoints := hrun.throughout_of_never (fun _ s => CleanedUp s ∧ Held s)
      (fun _ u => Leaks u.source u.action) ⟨cleanedUp_initial, held_initial⟩ ?_ hnever
    · exact hpoints.mono fun _ _ h => h.1
    · rintro history s action events t hrun ⟨hclean, hheld⟩ hstep hkept
      have hinv := inv_of_run hrun
      exact ⟨hclean.step hheld hinv hstep hkept, hheld.step hinv hstep hkept⟩

end Runs

section Samples

open JarvisCore.Service.GrantContainment (sampleService sampleDevice sampleInputs samplePaired
  sampleToken)

def sampleUuid (n : Nat) : UUID := ⟨Fin.ofNat _ n⟩

/-- A step of the service, for which `uuid4` yields `n`. -/
def sampleProceed (x n : Nat) : Action sampleService :=
  .service (.proceed x { sampleInputs with sessionId := sampleUuid n })

def samplePerform (x : Nat) : Action sampleService := .service (.perform x .completed)

/-- The paired device opens socket `0` with the calls `0`, `1` and `2`, and becomes ready. -/
def sampleReady : List (Action sampleService) :=
  samplePaired.map .service ++
    [.service (.start 0 (.authenticate sampleToken)),
      samplePerform 0, sampleProceed 0 100,
      samplePerform 0, sampleProceed 0 101,
      .accept 0 1, samplePerform 1, sampleProceed 1 102, .sent 0 none,
      .received 0 2 (.message ⟨sampleUuid 50, sampleUuid 102,
        .hello {.system}⟩) ⟨2, some 0⟩ ⟨2, 0⟩,
      samplePerform 2, sampleProceed 2 103, .sent 0 none]

/-- Call `3` sends a command to the device, and `send_command` ends with `failure`. -/
def sampleSend (failure : Option Raised) : List (Action sampleService) :=
  [.service (.start 3 (.executeCommand sampleDevice .system "get_info" [])),
    samplePerform 3, sampleProceed 3 104,
    .service (.connections (.completeSend 3 failure ⟨2, 0⟩))]

def sampleDisconnected : List (Action sampleService) :=
  sampleReady ++ sampleSend none ++
    [.received 0 4 (.raised .disconnected) ⟨2, some 0⟩ ⟨2, 0⟩,
      .heartbeat 0 .cancelled, .joined 0]

def alive (s : State sampleService) (h : Nat) : Bool :=
  match s.handlers h with
  | some ⟨_, _, _, _, _, some (.done (.error error)), _⟩ => !error.isException
  | _ => true

def calm (s : State sampleService) : Action sampleService → Bool
  | .sent h _ | .closed h _ | .received h _ _ _ _ | .joined h => alive s h
  | .service inner =>
      (match inner with
        | .endClose _ (some _) => false
        | _ => true) &&
      match (callOf inner).bind s.owners with
      | some h => alive s h
      | none => true
  | _ => true

theorem not_leaks_of_calm {s : State sampleService} {action : Action sampleService}
    (h : calm s action = true) : ¬ Leaks s action := by
  have dies {h : Nat} {handler : Handler} (hhandler : s.handlers h = some handler)
      (hdead : DeadHeartbeat handler) (halive : alive s h = true) : False := by
    obtain ⟨error, hheartbeat, hexception⟩ := hdead
    obtain ⟨_, _, _, _, _, heartbeat, _⟩ := handler
    obtain rfl : heartbeat = _ := hheartbeat
    simp only [alive, hhandler, hexception] at halive
    cases halive
  intro hleaks
  cases hleaks with
  | cancelled => cases h
  | raised s₁ h' handler _ hhandler hleaves hdead =>
      cases hleaves with
      | sent | closed | frame | raised | joined => exact dies hhandler hdead h
      | refused inner x request error _ events hserve hx howner =>
          have howners : s.owners x = some h' := by
            unfold serve at hserve
            split at hserve
            · split at hserve
              · cases hserve
                exact howner
              · cases hserve
            · cases hserve
          simp only [calm, hx, Option.bind_some, howners, Bool.and_eq_true] at h
          exact dies hhandler hdead h.2

theorem gateway_cleanup_disconnected :
    ∃ history s, Run (gateway sampleService) (.initial sampleService) history s ∧ Finished s 0 ∧
      Throughout (fun _ s => CleanedUp s) (.initial sampleService) history := by
  obtain ⟨history, s, hrun, htest⟩ := exists_run_of_replay (S := gateway sampleService)
    (s := .initial sampleService) sampleDisconnected
    (fun history s => (history.all fun u => calm u.source u.action) &&
      (s.handlers 0).any fun handler => handler.stage = .finished) (by decide)
  simp only [Bool.and_eq_true, List.all_eq_true, Option.any_eq_true] at htest
  obtain ⟨hcalm, handler, hhandler, hfinished⟩ := htest
  refine ⟨history, s, hrun, ⟨handler, hhandler, of_decide_eq_true hfinished⟩, ?_⟩
  apply (gateway_cleanup_iff hrun).mpr
  refine Never.of_forall fun u hu _ => ?_
  exact not_leaks_of_calm (hcalm u hu)

/-- The peer is gone when the heartbeat task sends its ping, and only then does the main loop
learn of it. -/
def sampleHeartbeat : List (Action sampleService) :=
  sampleReady ++
    [.heartbeat 0 (.wakes ⟨60⟩), .heartbeat 0 (.sent (some .disconnected)),
      .received 0 4 (.raised .disconnected) ⟨2, some 0⟩ ⟨2, 0⟩]

/-- The device opens socket `4`, whose handler is cancelled while `connect` closes the transport
of socket `0`. -/
def sampleReplaced : List (Action sampleService) :=
  sampleReady ++
    [.service (.start 4 (.authenticate sampleToken)),
      samplePerform 4, sampleProceed 4 105,
      samplePerform 4, sampleProceed 4 106,
      .accept 4 5, samplePerform 5, sampleProceed 5 107,
      .service (.endClose 5 (some .cancelled))]

def leaked (h : Nat) (s : State sampleService) : Bool :=
  ((s.handlers h).any fun handler => handler.stage = .finished) &&
    (s.service.manager.connections.lookup sampleDevice).any fun k => k.transport = h

theorem not_cleanedUp_of_leaked {s : State sampleService} {h : Nat} (hleaked : leaked h s = true) :
    ¬ CleanedUp s := by
  simp only [leaked, Bool.and_eq_true, Option.any_eq_true] at hleaked
  obtain ⟨⟨handler, hhandler, hstage⟩, k, hk, htransport⟩ := hleaked
  intro hclean
  exact hclean h ⟨handler, hhandler, of_decide_eq_true hstage⟩
    ⟨sampleDevice, k, hk, of_decide_eq_true htransport⟩

def cancelsClose (u : Step sampleService) : Bool :=
  match u.action with
  | .service (.endClose 5 (some .cancelled)) => true
  | _ => false

theorem action_of_cancelsClose {u : Step sampleService} (hcancels : cancelsClose u = true) :
    u.action = .service (.endClose 5 (some .cancelled)) := by
  unfold cancelsClose at hcancels
  split at hcancels
  · assumption
  · cases hcancels

theorem gateway_cleanup_leaked :
    (∃ history s, Run (gateway sampleService) (.initial sampleService) history s ∧
        ¬ CleanedUp s) ∧
      ∃ history s, Run (gateway sampleService) (.initial sampleService) history s ∧
        (∃ u ∈ history, u.action = .service (.endClose 5 (some .cancelled))) ∧ ¬ CleanedUp s := by
  constructor
  · obtain ⟨history, s, hrun, htest⟩ := exists_run_of_replay (S := gateway sampleService)
      (s := .initial sampleService) sampleHeartbeat (fun _ s => leaked 0 s) (by decide)
    exact ⟨history, s, hrun, not_cleanedUp_of_leaked htest⟩
  · obtain ⟨history, s, hrun, htest⟩ := exists_run_of_replay (S := gateway sampleService)
      (s := .initial sampleService) sampleReplaced
      (fun history s => leaked 4 s && history.any cancelsClose) (by decide)
    simp only [Bool.and_eq_true, List.any_eq_true] at htest
    obtain ⟨hleaked, u, hu, hcancelled⟩ := htest
    exact ⟨history, s, hrun, ⟨u, hu, action_of_cancelsClose hcancelled⟩,
      not_cleanedUp_of_leaked hleaked⟩

end Samples

end JarvisCore.Gateway.Cleanup
