import JarvisCore.Gateway.Effects

namespace JarvisCore.Gateway.Invariant

open JarvisCore.Domain.Values
open JarvisCore.Domain.Errors
open JarvisCore.Domain.Models
open JarvisCore.Foundation.TransitionSystem
open JarvisCore.Manager.Connections (SameConnection)
open JarvisCore.Manager.Operations (disconnect)
open JarvisCore.Service.Operations (Config Request Value Event)
open JarvisCore.Service.CallSteps
open JarvisCore.Gateway.Handlers
open JarvisCore.Gateway.Operations
open JarvisCore.Gateway.Effects

variable {Digest : Type} {config : Config Digest} [DecidableEq Digest]

/-- The sessions that the service knows. -/
structure SessionsOk (service : Service.Operations.State config) (issued : List UUID) : Prop where
  reached : ∃ log, Service.Invariant.Inv log service
  issued : ∀ x d h sessionId, HasSession service x d h sessionId → sessionId ∈ issued
  unique : ∀ x y d d' h h' sessionId, HasSession service x d h sessionId →
    HasSession service y d' h' sessionId → x = y
  /-- A call that was cancelled has left its connection behind. -/
  connections : ∀ d k, service.manager.connections.lookup d = some k →
    ∃ x, HasSession service x d k.transport k.sessionId ∨ ∃ error,
      service.calls x = some ⟨.connectDevice d k.transport, .finished (.error error)⟩

structure Inv (s : State config) : Prop where
  sessions : SessionsOk s.service s.issued
  /-- A handler connects once. -/
  once : ∀ x y d d' h stage stage', s.service.calls x = some ⟨.connectDevice d h, stage⟩ →
    s.service.calls y = some ⟨.connectDevice d' h, stage'⟩ → x = y
  calls : ∀ x d h stage, s.service.calls x = some ⟨.connectDevice d h, stage⟩ →
    ∃ handler, s.handlers h = some handler ∧ handler.deviceId = d ∧
      (handler.stage = .connecting x ∨ ∃ outcome, stage = .finished outcome ∧
        ∀ sessionId, outcome = .ok (.session sessionId) → handler.sessionId = some sessionId)
  connecting : ∀ h handler x, s.handlers h = some handler → handler.stage = .connecting x →
    handler.sessionId = none ∧ handler.heartbeat = none ∧ s.owners x = some h ∧
      ∃ stage, s.service.calls x = some ⟨.connectDevice handler.deviceId h, stage⟩
  known : ∀ h handler sessionId, s.handlers h = some handler →
    handler.sessionId = some sessionId → ∃ x, s.service.calls x =
      some ⟨.connectDevice handler.deviceId h, .finished (.ok (.session sessionId))⟩

section Service

variable {service service' : Service.Operations.State config} {issued issued' : List UUID}
  {inner : Service.Operations.Action config} {events : List (Event Digest)}

omit [DecidableEq Digest] in
theorem same_session {x : Nat} {d d' : UUID} {h h' : Nat} {sessionId sessionId' : UUID}
    (hsession : HasSession service x d h sessionId)
    (hsession' : HasSession service x d' h' sessionId') :
    d = d' ∧ h = h' ∧ sessionId = sessionId' := by
  rcases hsession with hcall | hcall
  · rcases hsession' with hcall' | hcall'
    · cases hcall.symm.trans hcall'
      exact ⟨rfl, rfl, rfl⟩
    · cases hcall.symm.trans hcall'
  · rcases hsession' with hcall' | hcall'
    · cases hcall.symm.trans hcall'
    · cases hcall.symm.trans hcall'
      exact ⟨rfl, rfl, rfl⟩

theorem SessionsOk.step (hok : SessionsOk service issued)
    (hstep : Service.Operations.step service inner = some (service', events))
    (hfresh : ∀ x inputs, inner = .proceed x inputs → inputs.sessionId ∉ issued)
    (hissued : ∀ sessionId ∈ issuedBy inner ++ issued, sessionId ∈ issued') :
    SessionsOk service' issued' := by
  obtain ⟨log, hinv⟩ := hok.reached
  refine ⟨⟨_, hinv.step hstep⟩, ?_, ?_, ?_⟩
  · intro x d h sessionId hsession
    apply hissued
    rcases step_session hinv hstep hsession with hold | ⟨inputs, rfl, -, rfl⟩
    · exact List.mem_append_right _ (hok.issued x d h sessionId hold)
    · exact List.mem_append_left _ (List.mem_singleton_self _)
  · intro x y d d' h h' sessionId hx hy
    rcases step_session hinv hstep hx with holdx | ⟨inputs, rfl, -, rfl⟩
    · rcases step_session hinv hstep hy with holdy | ⟨inputs, rfl, -, rfl⟩
      · exact hok.unique x y d d' h h' sessionId holdx holdy
      · exact absurd (hok.issued x d h _ holdx) (hfresh y inputs rfl)
    · rcases step_session hinv hstep hy with holdy | ⟨inputs', heq, -, -⟩
      · exact absurd (hok.issued y d' h' _ holdy) (hfresh x inputs rfl)
      · cases heq
        rfl
  · intro d k hk
    rcases step_gained hinv hstep hk with ⟨k₀, hk₀, hsame⟩ | ⟨x, inputs, rfl, hconnecting, hsession⟩
    · rw [hsame.transport, hsame.sessionId]
      obtain ⟨x, hsession | ⟨error, hcall⟩⟩ := hok.connections d k₀ hk₀
      · rcases hsession.step hinv hstep with hkept | ⟨error, -, -, -, hcall⟩
        · exact ⟨x, .inl hkept⟩
        · exact ⟨x, .inr ⟨error, hcall⟩⟩
      · rcases step_settled hinv hstep hcall trivial with hkept | ⟨value, _, _, hvalue, -⟩
        · exact ⟨x, .inr ⟨error, hkept⟩⟩
        · cases hvalue
    · rw [hsession]
      exact ⟨x, .inl (step_connects hstep hconnecting).2⟩

end Service

section Steps

variable {s s₁ t : State config} {h : Nat} {handler handler' : Handler}

theorem Inv.inner (hinv : Inv s) {inner : Service.Operations.Action config}
    {service : Service.Operations.State config} {events : List (Event Digest)}
    (hstep : Service.Operations.step s.service inner = some (service, events))
    (hfresh : ∀ x inputs, inner = .proceed x inputs → inputs.sessionId ∉ s.issued)
    (hconnects : ∀ x d h, inner ≠ .start x (.connectDevice d h)) {owners : Nat → Option Nat}
    (howners : ∀ x, s.service.calls x ≠ none → owners x = s.owners x)
    {issued : List UUID} (hissued : ∀ sessionId ∈ issuedBy inner ++ s.issued, sessionId ∈ issued) :
    Inv { s with service, owners, issued } := by
  obtain ⟨log, hservice⟩ := hinv.sessions.reached
  have old {x : Nat} {d : UUID} {h : Nat} {stage : Service.Operations.Stage}
      (hx : service.calls x = some ⟨.connectDevice d h, stage⟩) :
      ∃ stage₀, s.service.calls x = some ⟨.connectDevice d h, stage₀⟩ := by
    rcases step_request hservice hstep hx with hold | heq
    · exact hold
    · exact absurd heq (hconnects x d h)
  have done {x : Nat} {request : Request} {outcome : Except Raised Value}
      (hx : s.service.calls x = some ⟨request, .finished outcome⟩) :
      service.calls x = some ⟨request, .finished outcome⟩ := by
    rcases step_settled hservice hstep hx trivial with hsame | ⟨value, _, _, hvalue, -⟩
    · exact hsame
    · cases hvalue
  refine ⟨hinv.sessions.step hstep hfresh hissued, ?_, ?_, ?_, ?_⟩
  · intro x y d d' h stage stage' hx hy
    obtain ⟨stage₀, hx₀⟩ := old hx
    obtain ⟨stage₀', hy₀⟩ := old hy
    exact hinv.once x y d d' h stage₀ stage₀' hx₀ hy₀
  · intro x d h stage hx
    obtain ⟨stage₀, hx₀⟩ := old hx
    obtain ⟨handler, hhandler, hid, hconnecting | ⟨outcome, rfl, hsession⟩⟩ :=
      hinv.calls x d h stage₀ hx₀
    · exact ⟨handler, hhandler, hid, .inl hconnecting⟩
    · cases hx.symm.trans (done hx₀)
      exact ⟨handler, hhandler, hid, .inr ⟨outcome, rfl, hsession⟩⟩
  · intro h handler x hhandler hstage
    obtain ⟨hsession, hheartbeat, howner, stage, hx⟩ := hinv.connecting h handler x hhandler hstage
    refine ⟨hsession, hheartbeat, ?_, step_keeps hservice hstep hx⟩
    exact (howners x (by simp [hx])).trans howner
  · intro h handler sessionId hhandler hsession
    obtain ⟨x, hx⟩ := hinv.known h handler sessionId hhandler hsession
    exact ⟨x, done hx⟩

theorem Inv.accepts (hinv : Inv s) (hfree : s.handlers h = none) {x : Nat} {deviceId : UUID}
    {service : Service.Operations.State config} {events : List (Event Digest)}
    (hstep : Service.Operations.step s.service (.start x (.connectDevice deviceId h)) =
      some (service, events)) {owners : Nat → Option Nat} (hown : owners x = some h)
    (howners : ∀ y, s.service.calls y ≠ none → owners y = s.owners y) :
    Inv (State.setHandler { s with service, owners } h (.accepted deviceId x)) := by
  obtain ⟨log, hservice⟩ := hinv.sessions.reached
  obtain ⟨hfresh, stage₁, hstarted⟩ := start_calls hstep
  have old {y : Nat} {d : UUID} {h' : Nat} {stage : Service.Operations.Stage}
      (hy : service.calls y = some ⟨.connectDevice d h', stage⟩) :
      (y = x ∧ d = deviceId ∧ h' = h) ∨
        h' ≠ h ∧ ∃ stage₀, s.service.calls y = some ⟨.connectDevice d h', stage₀⟩ := by
    rcases step_request hservice hstep hy with ⟨stage₀, hy₀⟩ | heq
    · refine .inr ⟨?_, stage₀, hy₀⟩
      rintro rfl
      obtain ⟨handler, hhandler, -⟩ := hinv.calls y d h' stage₀ hy₀
      rw [hfree] at hhandler
      cases hhandler
    · cases heq
      exact .inl ⟨rfl, rfl, rfl⟩
  have done {y : Nat} {request : Request} {outcome : Except Raised Value}
      (hy : s.service.calls y = some ⟨request, .finished outcome⟩) :
      service.calls y = some ⟨request, .finished outcome⟩ := by
    rcases step_settled hservice hstep hy trivial with hsame | ⟨value, _, _, hvalue, -⟩
    · exact hsame
    · cases hvalue
  refine ⟨hinv.sessions.step hstep (by simp) (fun _ hsession => hsession), ?_, ?_, ?_, ?_⟩
  · intro y z d d' h' stage stage' hy hz
    rcases old hy with ⟨rfl, rfl, rfl⟩ | ⟨hne, stage₀, hy₀⟩
    · rcases old hz with ⟨rfl, -⟩ | ⟨hne, -⟩
      · rfl
      · exact absurd rfl hne
    · rcases old hz with ⟨-, -, rfl⟩ | ⟨-, stage₀', hz₀⟩
      · exact absurd rfl hne
      · exact hinv.once y z d d' h' stage₀ stage₀' hy₀ hz₀
  · intro y d h' stage hy
    rcases old hy with ⟨rfl, rfl, rfl⟩ | ⟨hne, stage₀, hy₀⟩
    · exact ⟨_, State.setHandler_self _ _ _, rfl, .inl rfl⟩
    · obtain ⟨handler, hhandler, hid, hstage⟩ := hinv.calls y d h' stage₀ hy₀
      refine ⟨handler, (State.setHandler_of_ne _ hne).trans hhandler, hid, ?_⟩
      rcases hstage with hconnecting | ⟨outcome, rfl, hsession⟩
      · exact .inl hconnecting
      · cases hy.symm.trans (done hy₀)
        exact .inr ⟨outcome, rfl, hsession⟩
  · intro h' handler y hhandler hstage
    rcases State.setHandler_cases hhandler with ⟨rfl, rfl⟩ | ⟨-, hold⟩
    · cases hstage
      exact ⟨rfl, rfl, hown, stage₁, hstarted⟩
    · obtain ⟨hsession, hheartbeat, howner, stage, hy⟩ := hinv.connecting h' handler y hold hstage
      refine ⟨hsession, hheartbeat, ?_, step_keeps hservice hstep hy⟩
      exact (howners y (by simp [hy])).trans howner
  · intro h' handler sessionId hhandler hsession
    rcases State.setHandler_cases hhandler with ⟨rfl, rfl⟩ | ⟨-, hold⟩
    · cases hsession
    · obtain ⟨y, hy⟩ := hinv.known h' handler sessionId hold hsession
      exact ⟨y, done hy⟩

theorem Inv.setHandler (hinv : Inv s) (hhandler : s.handlers h = some handler)
    (hid : handler'.deviceId = handler.deviceId) (hconnecting : ∀ x, handler'.stage ≠ .connecting x)
    (hlearns : Learns s handler handler'.sessionId) : Inv (s.setHandler h handler') := by
  refine ⟨hinv.sessions, hinv.once, ?_, ?_, ?_⟩
  · intro x d h' stage hx
    obtain ⟨handler₀, hhandler₀, hid₀, hstage⟩ := hinv.calls x d h' stage hx
    by_cases hh : h' = h
    · subst hh
      obtain rfl := Option.some.inj (hhandler.symm.trans hhandler₀)
      refine ⟨handler', State.setHandler_self _ _ _, hid.trans hid₀, .inr ?_⟩
      have only {y : Nat} {request : Request} {outcome : Except Raised Value}
          (hy : handler.stage = .connecting y)
          (hcall : s.service.calls y = some ⟨request, .finished outcome⟩) :
          stage = .finished outcome := by
        obtain ⟨-, -, -, stage', hy'⟩ := hinv.connecting h' handler y hhandler hy
        obtain rfl := hinv.once x y _ _ h' _ _ hx hy'
        cases hx.symm.trans hcall
        rfl
      generalize handler'.sessionId = learned at hlearns ⊢
      cases hlearns with
      | keeps hne =>
          rcases hstage with hstage | houtcome
          · exact absurd hstage (hne x)
          · exact houtcome
      | connected y request sessionId hy hcall =>
          refine ⟨_, only hy hcall, ?_⟩
          intro sessionId' heq
          cases heq
          rfl
      | refused y request error hy hcall =>
          refine ⟨_, only hy hcall, ?_⟩
          intro sessionId' heq
          cases heq
    · exact ⟨handler₀, (State.setHandler_of_ne _ hh).trans hhandler₀, hid₀, hstage⟩
  · intro h' handler₁ x hhandler₁ hstage
    rcases State.setHandler_cases hhandler₁ with ⟨rfl, rfl⟩ | ⟨-, hold⟩
    · exact absurd hstage (hconnecting x)
    · exact hinv.connecting h' handler₁ x hold hstage
  · intro h' handler₁ sessionId hhandler₁ hsession
    rcases State.setHandler_cases hhandler₁ with ⟨rfl, rfl⟩ | ⟨-, hold⟩
    · rw [hid]
      generalize handler₁.sessionId = learned at hlearns hsession
      cases hlearns with
      | keeps | refused => exact hinv.known h' handler sessionId hhandler hsession
      | connected y request sessionId' hy hcall =>
          cases hsession
          obtain ⟨-, -, -, stage, hy'⟩ := hinv.connecting h' handler y hhandler hy
          cases hy'.symm.trans hcall
          exact ⟨y, hcall⟩
    · exact hinv.known h' handler₁ sessionId hold hsession

theorem Inv.beats (hinv : Inv s) (hhandler : s.handlers h = some handler)
    (hid : handler'.deviceId = handler.deviceId) (hsession : handler'.sessionId = handler.sessionId)
    (hstage : handler'.stage = handler.stage) (hstarted : handler.heartbeat ≠ none) :
    Inv (s.setHandler h handler') := by
  have hconnecting (x : Nat) : handler.stage ≠ .connecting x := by
    intro hx
    obtain ⟨-, hnone, -⟩ := hinv.connecting h handler x hhandler hx
    exact hstarted hnone
  refine hinv.setHandler hhandler hid ?_ ?_
  · rw [hstage]
    exact hconnecting
  · rw [hsession]
    exact .keeps hconnecting

theorem Inv.disconnects (hinv : Inv s) (deviceId sessionId : UUID) :
    Inv (s.withManager (disconnect s.service.manager deviceId sessionId).1) := by
  have hstep : Service.Operations.step s.service (.connections (.disconnect deviceId sessionId)) =
      some ((s.withManager (disconnect s.service.manager deviceId sessionId).1).service, []) := rfl
  exact hinv.inner hstep (by simp) (by simp) (fun _ _ => rfl) fun _ hsession => hsession

theorem Inv.disconnectSession (hinv : Inv s) (hhandler : s.handlers h = some handler)
    (hlearns : Learns s handler handler.sessionId) :
    Inv (Operations.disconnectSession s h handler) := by
  have hfinished : Inv (s.setHandler h { handler with stage := .finished }) :=
    hinv.setHandler hhandler rfl (by simp) hlearns
  unfold Operations.disconnectSession
  dsimp only
  split
  · exact hfinished
  · exact hfinished.disconnects handler.deviceId _

theorem Inv.finallyClause (hinv : Inv s) (hhandler : s.handlers h = some handler)
    (hlearns : Learns s handler handler.sessionId) : Inv (Operations.finallyClause s h handler) := by
  unfold Operations.finallyClause joinHeartbeat
  split
  · exact hinv.disconnectSession hhandler hlearns
  · split
    · exact hinv.disconnectSession hhandler hlearns
    · split
      · exact hinv.setHandler hhandler rfl (by simp) hlearns
      · exact hinv.disconnectSession hhandler hlearns
  · exact hinv.setHandler hhandler rfl (by simp) hlearns

theorem Inv.serves (hinv : Inv s) {action : Action config} {events : List (Event Digest)}
    (hserves : Serves s action s₁ events) : Inv s₁ := by
  cases hserves with
  | idle => exact hinv
  | own inner service _ haction hpermitted hstep =>
      refine hinv.inner hstep ?_ ?_ (fun _ _ => rfl) fun _ hsession => hsession
      · rintro x inputs rfl
        exact of_decide_eq_true hpermitted
      · rintro x d h rfl
        cases hpermitted
  | inner inner service owners _ hinner hstep howners =>
      have hissued : issuedBy inner = [] := by
        unfold Effects.Inner at hinner
        split at hinner
        · rfl
        · rfl
        · rfl
        · exact hinner.elim
      refine hinv.inner hstep ?_ ?_ howners ?_
      · rintro x inputs rfl
        exact hinner.elim
      · rintro x d h rfl
        exact hinner.elim
      · rw [hissued]
        exact fun _ hsession => hsession

theorem Leaves.learns {action : Action config} (hleaves : Leaves s h handler action s₁) :
    Learns s₁ handler handler.sessionId := by
  cases hleaves with
  | sent failure hsend =>
      refine .keeps fun x hx => ?_
      simp [Handler.afterSend, hx] at hsend
  | closed failure hclose =>
      refine .keeps fun x hx => ?_
      simp [Handler.afterClose, hx] at hclose
  | frame _ _ _ hstage =>
      refine .keeps fun x hx => ?_
      simp [hx] at hstage
  | raised _ _ _ _ hstage =>
      refine .keeps fun x hx => ?_
      simp [hx] at hstage
  | joined outcome hstage => exact .keeps (by simp [hstage])
  | refused inner x request error _ events _ _ _ hawaits hcall =>
      unfold awaitedCall at hawaits
      split at hawaits
      · rename_i y hstage
        cases hawaits
        exact .refused _ request error hstage hcall
      · rename_i y first hstage
        exact .keeps (by simp [hstage])
      · cases hawaits

theorem Inv.step (hinv : Inv s) {action : Action config} {events : List (Event Digest)}
    (hstep : Operations.step s action = some (t, events)) : Inv t := by
  cases step_effect hstep with
  | serves _ _ hserves => exact hinv.serves hserves
  | accepts h x deviceId service owners _ hfree _ hstart hown howners =>
      exact hinv.accepts hfree hstart hown howners
  | goes s₁ _ _ h handler handler' hserves hhandler hgoes =>
      rw [← hserves.handlers] at hhandler
      exact (hinv.serves hserves).setHandler hhandler hgoes.deviceId hgoes.connecting hgoes.session
  | beats _ h handler handler' hhandler hid hsession hstage hstarted =>
      exact hinv.beats hhandler hid hsession hstage hstarted
  | leaves s₁ _ h handler hserves hhandler hleaves =>
      rw [← hserves.handlers] at hhandler
      exact (hinv.serves hserves).finallyClause hhandler (Leaves.learns hleaves)

end Steps

section Runs

abbrev Step (config : Config Digest) :=
  Transition (State config) (Action config) (Event Digest)

theorem inv_initial : Inv (State.initial config) where
  sessions :=
    { reached := ⟨_, Service.Invariant.inv_initial⟩
      issued := by
        rintro x d h sessionId (hx | hx)
        · cases hx
        · cases hx
      unique := by
        rintro x y d d' h h' sessionId (hx | hx)
        · cases hx
        · cases hx
      connections := by
        intro d k hk
        cases hk }
  once x y d d' h stage stage' hx := by cases hx
  calls x d h stage hx := by cases hx
  connecting h handler x hhandler := by cases hhandler
  known h handler sessionId hhandler := by cases hhandler

theorem inv_of_run {history : List (Step config)} {s : State config}
    (hrun : Run (gateway config) (.initial config) history s) : Inv s :=
  hrun.invariant Inv inv_initial fun _ _ _ _ hinv hstep => hinv.step hstep

end Runs

end JarvisCore.Gateway.Invariant
