import JarvisCore.Gateway.Cleanup
import JarvisCore.Gateway.Sessions

namespace JarvisCore.Gateway.Heartbeats

open JarvisCore.Domain.Values
open JarvisCore.Domain.Errors
open JarvisCore.Domain.Models
open JarvisCore.Foundation.TransitionSystem
open JarvisCore.Manager.Operations (touch)
open JarvisCore.Service.Operations (Config Event)
open JarvisCore.Gateway.Handlers
open JarvisCore.Gateway.Operations
open JarvisCore.Gateway.Effects
open JarvisCore.Gateway.Invariant (Step)
open JarvisCore.Gateway.Turns
open JarvisCore.Gateway.Sessions

section Signals

/-- What passes between the two ends of a heartbeat, the latest signal first in a list. -/
inductive Signal
  | ping (nonce : UUID)
  | accepted (nonce : UUID)
  | rejected (nonce : UUID)
  deriving DecidableEq

namespace Signal

def ping? : Signal → Option UUID
  | ping nonce => some nonce
  | _ => none

end Signal

/-- The pings that no accepted pong has answered. -/
def unanswered : List Signal → List UUID
  | [] => []
  | .ping nonce :: earlier => nonce :: unanswered earlier
  | .accepted nonce :: earlier => (unanswered earlier).erase nonce
  | .rejected _ :: earlier => unanswered earlier

def latestPing : List Signal → Option UUID
  | [] => none
  | .ping nonce :: _ => some nonce
  | .accepted _ :: earlier | .rejected _ :: earlier => latestPing earlier

/-- A ping is sent when none is unanswered, and a pong is accepted only for an unanswered
ping. -/
def Alternating : List Signal → Prop
  | [] => True
  | .ping _ :: earlier => unanswered earlier = [] ∧ Alternating earlier
  | .accepted nonce :: earlier => nonce ∈ unanswered earlier ∧ Alternating earlier
  | .rejected _ :: earlier => Alternating earlier

theorem Alternating.ping_of_append {later earlier : List Signal} {nonce : UUID}
    (h : Alternating (later ++ .ping nonce :: earlier)) : unanswered earlier = [] := by
  induction later with
  | nil => exact h.1
  | cons signal later ih =>
      cases signal with
      | ping => exact ih h.2
      | accepted => exact ih h.2
      | rejected => exact ih h

theorem Alternating.count {signals : List Signal} (h : Alternating signals) (nonce : UUID) :
    signals.count (.accepted nonce) + (unanswered signals).count nonce =
      (signals.filterMap Signal.ping?).count nonce := by
  induction signals with
  | nil => rfl
  | cons signal earlier ih =>
      cases signal with
      | ping other =>
          have hearlier := ih h.2
          simp only [unanswered, List.filterMap_cons, Signal.ping?, List.count_cons, beq_iff_eq,
            reduceCtorEq, if_false]
          omega
      | accepted other =>
          have hearlier := ih h.2
          simp only [unanswered, List.filterMap_cons, Signal.ping?, List.count_cons]
          by_cases hother : other = nonce
          · subst hother
            have hpos : 0 < (unanswered earlier).count other := List.count_pos_iff.mpr h.1
            rw [List.count_erase_self]
            simp only [beq_self_eq_true, if_true]
            omega
          · rw [List.count_erase_of_ne (Ne.symm hother)]
            simp [hother]
            omega
      | rejected other =>
          have hearlier := ih h
          simp only [unanswered, List.filterMap_cons, Signal.ping?, List.count_cons, beq_iff_eq,
            reduceCtorEq, if_false]
          omega

theorem Alternating.once {signals : List Signal} (h : Alternating signals)
    (hfresh : (signals.filterMap Signal.ping?).Nodup) (nonce : UUID) :
    signals.count (.accepted nonce) ≤ 1 := by
  have hcount := h.count nonce
  have hpings := List.nodup_iff_count_le_one.mp hfresh nonce
  omega

end Signals

variable {Digest : Type} [DecidableEq Digest] {config : Config Digest}

def receivingAt (s : State config) (h : Nat) : Bool :=
  (s.handlers h).any fun handler => handler.stage = .receiving

/-- What a step means to the heartbeat of handler `h`. A pong is accepted when the loop
goes on to receive. -/
def signal (h : Nat) (u : Step config) : Option Signal :=
  match u.action with
  | .heartbeat h' (.wakes nonce) => if h' = h then some (.ping nonce) else none
  | .received h' _ (.message ⟨_, _, .pong nonce⟩) _ _ =>
      if h' = h then
        some (if receivingAt u.target h then .accepted nonce else .rejected nonce)
      else none
  | _ => none

def signals (h : Nat) (history : List (Step config)) : List Signal :=
  history.filterMap (signal h)

/-- The pong carries the session of the connection and an identifier that is not in the
replay window. -/
def Checked (h : Nat) (u : Step config) : Prop :=
  ∃ handler sessionId x message clock now seenIds,
    u.action = .received h x (.message message) clock now ∧
      u.source.handlers h = some handler ∧ handler.stage = .receiving ∧
      handler.sessionId = some sessionId ∧ handler.checkMessage sessionId message = .ok seenIds

inductive PongStep (s : State config) (h : Nat) (handler : Handler) (sessionId : UUID)
    (message : Message) (nonce : UUID) (now : AwareDatetime) : State config → Prop
  | early : handler.stage = .receivingHello →
      PongStep s h handler sessionId message nonce now
        (s.setHandler h { handler with stage := .reporting true })
  | unchecked (error : Raised) : handler.stage = .receiving →
      handler.checkMessage sessionId message = .error error →
      PongStep s h handler sessionId message nonce now
        (s.setHandler h { handler with stage := .reporting false })
  | unexpected (seenIds : SeenIds) : handler.stage = .receiving →
      handler.checkMessage sessionId message = .ok seenIds →
      handler.heartbeatNonce ≠ some nonce →
      PongStep s h handler sessionId message nonce now
        (s.setHandler h { handler with seenIds, stage := .reporting false })
  | accepted (seenIds : SeenIds) : handler.stage = .receiving →
      handler.checkMessage sessionId message = .ok seenIds →
      handler.heartbeatNonce = some nonce →
      PongStep s h handler sessionId message nonce now
        ((s.withManager (touch s.service.manager handler.deviceId sessionId now).1).setHandler h
          { handler with seenIds, heartbeatNonce := none, heartbeatReceived := true })

variable {s t : State config} {events : List (Event Digest)} {h : Nat} {handler : Handler}

theorem pong_step {x : Nat} {message : Message} {nonce : UUID} {clock : Datetime}
    {now : AwareDatetime} (hpayload : message.payload = .pong nonce)
    (hstep : step s (.received h x (.message message) clock now) = some (t, events)) :
    ∃ handler sessionId, s.handlers h = some handler ∧ handler.sessionId = some sessionId ∧
      PongStep s h handler sessionId message nonce now t := by
  obtain ⟨handler, hhandler, hreceive⟩ := onHandler_eq_some hstep
  unfold receive at hreceive
  split at hreceive
  · rename_i sessionId found hstage hsession hfound
    cases hfound
    refine ⟨handler, sessionId, hhandler, hsession, ?_⟩
    unfold greeted at hreceive
    rw [hpayload] at hreceive
    cases hreceive
    exact .early hstage
  · rename_i sessionId found hstage hsession hfound
    cases hfound
    refine ⟨handler, sessionId, hhandler, hsession, ?_⟩
    unfold served at hreceive
    split at hreceive
    · rename_i error hcheck
      obtain ⟨text, rfl⟩ := checkMessage_error hcheck
      rw [except_valueError hsession] at hreceive
      cases hreceive
      exact .unchecked _ hstage hcheck
    · rename_i seenIds hcheck
      rw [hpayload] at hreceive
      dsimp only at hreceive
      split at hreceive
      · rename_i hnonce
        cases hreceive
        exact .accepted seenIds hstage hcheck hnonce
      · rename_i hnonce
        have hraises : ({ handler with seenIds } : Handler).except
            (.valueError "unexpected heartbeat nonce") =
              ({ handler with seenIds } : Handler).awaitAt (.reporting false) := by
          simp only [Handler.except, hsession]
        rw [hraises] at hreceive
        cases hreceive
        exact .unexpected seenIds hstage hcheck hnonce
  case h_8 => cases hreceive
  all_goals
    rename_i hfound
    cases hfound

def Unready : Handlers.Stage → Prop
  | .connecting _ | .sendingHello | .receivingHello | .activating _ true | .sendingReady => True
  | _ => False

/-- What the variables of a handler say about the signals so far. -/
structure Beats (sent : List Signal) (handler : Handler) : Prop where
  alternating : Alternating sent
  unanswered : unanswered sent = handler.heartbeatNonce.toList
  latest : ∀ nonce ∈ handler.heartbeatNonce, latestPing sent = some nonce
  resting : handler.heartbeat = none ∨ handler.heartbeat = some .sleeping →
    handler.heartbeatNonce = none
  /-- The event is never left over from an earlier ping. -/
  waiting : handler.heartbeat = some .pinging ∨ handler.heartbeat = some .awaitingPong →
    handler.heartbeatReceived = true → handler.heartbeatNonce = none
  unready : Unready handler.stage → handler.heartbeat = none

theorem Leaving.not_unready {stage : Handlers.Stage} (h : Leaving stage) : ¬ Unready stage := by
  intro hunready
  unfold Leaving at h
  split at h
  all_goals first | exact hunready | exact h

section Beats

variable {sent : List Signal} {handler handler' : Handler}

theorem Beats.same (hbeats : Beats sent handler) (seenIds : SeenIds) (sessionId : Option UUID)
    {stage : Handlers.Stage} (hstage : Unready stage → Unready handler.stage) :
    Beats sent { handler with seenIds, sessionId, stage } where
  alternating := hbeats.alternating
  unanswered := hbeats.unanswered
  latest := hbeats.latest
  resting := hbeats.resting
  waiting := hbeats.waiting
  unready hunready := hbeats.unready (hstage hunready)

theorem Beats.leaves (hbeats : Beats sent handler) : Beats sent (settle (.leave handler)) := by
  obtain ⟨stage, hsettle, hleaving⟩ := settle_leave handler
  rw [hsettle]
  exact hbeats.same handler.seenIds handler.sessionId fun h => absurd h (Leaving.not_unready hleaving)

theorem Beats.turn {stimulus : Stimulus} {reaction : Reaction} (hbeats : Beats sent handler)
    (hturn : Turn handler stimulus reaction)
    (hother : ∀ x message clock resolved nonce,
      stimulus = .received x (.message message) clock resolved → message.payload ≠ .pong nonce) :
    Beats sent (settle reaction) := by
  have goes (seenIds : SeenIds) (sessionId : Option UUID) {stage : Handlers.Stage}
      (hstage : Unready stage → Unready handler.stage) :
      Beats sent { handler with seenIds, sessionId, stage } := hbeats.same seenIds sessionId hstage
  cases hturn with
  | connected x sessionId hstage =>
      exact goes handler.seenIds (some sessionId) fun _ => hstage ▸ trivial
  | activated x first value hstage =>
      refine goes handler.seenIds handler.sessionId fun hunready => ?_
      cases first with
      | true => exact hstage ▸ trivial
      | false => exact hunready.elim
  | greeted hstage => exact goes handler.seenIds handler.sessionId fun _ => hstage ▸ trivial
  | readied hstage =>
      have hnone : handler.heartbeat = none := hbeats.unready (hstage ▸ trivial)
      exact
        { alternating := hbeats.alternating
          unanswered := hbeats.unanswered
          latest := hbeats.latest
          resting := fun _ => hbeats.resting (.inl hnone)
          waiting := fun hwaits => by simp [settle] at hwaits
          unready := fun hunready => hunready.elim }
  | replied hstage => exact goes handler.seenIds handler.sessionId fun h => h.elim
  | reported inBody failure hstage => exact goes handler.seenIds handler.sessionId fun h => h.elim
  | timedOut x clock resolved hstage =>
      exact goes handler.seenIds handler.sessionId fun h => h.elim
  | greets x message clock resolved sessionId seenIds capabilities hstage =>
      exact goes seenIds handler.sessionId fun _ => hstage ▸ trivial
  | demandsHello => exact goes handler.seenIds handler.sessionId fun h => h.elim
  | pongs x message clock resolved sessionId seenIds nonce _ _ _ hpayload =>
      exact absurd hpayload (hother x message clock resolved nonce rfl)
  | updates x message clock resolved sessionId seenIds =>
      exact goes seenIds handler.sessionId fun h => h.elim
  | passesOn x message clock resolved sessionId seenIds =>
      refine goes seenIds handler.sessionId fun hunready => ?_
      cases resolved with
      | true => exact hunready.elim
      | false => exact hunready.elim
  | raises _ seenIds error =>
      obtain ⟨stage, hsettle, hleaving⟩ := settle_except { handler with seenIds } error
      rw [hsettle]
      exact goes seenIds handler.sessionId fun h => absurd h (Leaving.not_unready hleaving)
  | departs => exact hbeats.leaves

inductive BeatStep (handler : Handler) : HeartbeatInput → Handler → Prop
  | wakes (nonce : UUID) : handler.heartbeat = some .sleeping →
      BeatStep handler (.wakes nonce)
        { handler with
          heartbeat := some .pinging
          heartbeatReceived := false
          heartbeatNonce := some nonce }
  | sent : handler.heartbeat = some .pinging →
      BeatStep handler (.sent none) { handler with heartbeat := some .awaitingPong }
  | answered : handler.heartbeat = some .awaitingPong → handler.heartbeatReceived = true →
      BeatStep handler .answered { handler with heartbeat := some .sleeping }
  | stops (input : HeartbeatInput) (heartbeat : Heartbeat) :
      heartbeat = .closing ∨ (∃ outcome, heartbeat = .done outcome) →
      handler.heartbeat ≠ none → (∀ nonce, input ≠ .wakes nonce) →
      BeatStep handler input { handler with heartbeat := some heartbeat }

theorem beat_cases {input : HeartbeatInput} (h : handler.beat input = some handler') :
    BeatStep handler input handler' := by
  have hstarted : handler.heartbeat ≠ none := (beat_goes h).2.2.2
  unfold Handler.beat at h
  dsimp only at h
  split at h
  case h_1 hheartbeat _ =>
    cases h
    exact .wakes _ hheartbeat
  case h_2 hheartbeat _ =>
    cases h
    exact .sent hheartbeat
  case h_4 hheartbeat _ =>
    split at h
    · rename_i hreceived
      cases h
      exact .answered hheartbeat hreceived
    · cases h
  case h_5 =>
    cases h
    exact .stops _ _ (.inl rfl) hstarted fun _ => HeartbeatInput.noConfusion
  case h_12 => cases h
  all_goals
    cases h
    exact .stops _ _ (.inr ⟨_, rfl⟩) hstarted fun _ => HeartbeatInput.noConfusion

theorem Beats.ping {nonce : UUID} (hbeats : Beats sent handler)
    (hbeat : handler.beat (.wakes nonce) = some handler') :
    Beats (.ping nonce :: sent) handler' := by
  cases beat_cases hbeat with
  | wakes _ hheartbeat =>
      have hnone : handler.heartbeatNonce = none := hbeats.resting (.inr hheartbeat)
      have hanswered : Heartbeats.unanswered sent = [] := by
        rw [hbeats.unanswered, hnone]
        rfl
      refine ⟨⟨hanswered, hbeats.alternating⟩, congrArg (nonce :: ·) hanswered, fun _ h => h, ?_, ?_,
        ?_⟩
      · intro hrests
        simp at hrests
      · intro _ hreceived
        cases hreceived
      · intro hunready
        have hmissing := hbeats.unready hunready
        rw [hheartbeat] at hmissing
        cases hmissing
  | stops _ _ _ _ hother => exact absurd rfl (hother nonce)

theorem Beats.beat {input : HeartbeatInput} (hbeats : Beats sent handler)
    (hbeat : handler.beat input = some handler') (hinput : ∀ nonce, input ≠ .wakes nonce) :
    Beats sent handler' := by
  have hready : ¬ Unready handler.stage := fun hunready =>
    (beat_goes hbeat).2.2.2 (hbeats.unready hunready)
  cases beat_cases hbeat with
  | wakes nonce => exact absurd rfl (hinput nonce)
  | sent hheartbeat =>
      exact
        { hbeats with
          resting := fun h => by simp at h
          waiting := fun _ => hbeats.waiting (.inl hheartbeat)
          unready := fun h => absurd h hready }
  | answered hheartbeat hreceived =>
      exact
        { hbeats with
          resting := fun _ => hbeats.waiting (.inr hheartbeat) hreceived
          waiting := fun h => by simp at h
          unready := fun h => absurd h hready }
  | stops _ heartbeat hstopped =>
      rcases hstopped with rfl | ⟨outcome, rfl⟩
      all_goals
        exact
          { hbeats with
            resting := fun h => by simp at h
            waiting := fun h => by simp at h
            unready := fun h => absurd h hready }

/-- The ping is answered: its nonce and its answer become visible in one step. -/
theorem Beats.accepts {nonce : UUID} (hbeats : Beats sent handler) (seenIds : SeenIds)
    (hnonce : handler.heartbeatNonce = some nonce) :
    Beats (.accepted nonce :: sent)
      { handler with seenIds, heartbeatNonce := none, heartbeatReceived := true } where
  alternating := by
    refine ⟨?_, hbeats.alternating⟩
    rw [hbeats.unanswered, hnonce]
    exact List.mem_singleton_self nonce
  unanswered := by
    show (Heartbeats.unanswered sent).erase nonce = []
    rw [hbeats.unanswered, hnonce]
    simp
  latest _ h := nomatch h
  resting _ := rfl
  waiting _ _ := rfl
  unready := hbeats.unready

theorem Beats.rejects (hbeats : Beats sent handler) (nonce : UUID) :
    Beats (.rejected nonce :: sent) handler where
  alternating := hbeats.alternating
  unanswered := hbeats.unanswered
  latest := hbeats.latest
  resting := hbeats.resting
  waiting := hbeats.waiting
  unready := hbeats.unready

end Beats

omit [DecidableEq Digest] in
theorem signals_cons (h : Nat) (u : Step config) (history : List (Step config)) :
    signals h (u :: history) = (signal h u).toList ++ signals h history := by
  unfold signals
  rw [List.filterMap_cons]
  cases signal h u with
  | none => rfl
  | some _ => rfl

def Inv (h : Nat) (history : List (Step config)) (s : State config) : Prop :=
  (s.handlers h = none → signals h history = []) ∧
    ∀ handler, s.handlers h = some handler → Beats (signals h history) handler

omit [DecidableEq Digest] in
theorem inv_of_handler {sent : List Signal} (hafter : t.handlers h = some handler)
    (hbeats : Beats sent handler) : (t.handlers h = none → sent = []) ∧
      ∀ handler, t.handlers h = some handler → Beats sent handler := by
  constructor
  · intro hnone
    cases hafter.symm.trans hnone
  · intro found hfound
    cases hafter.symm.trans hfound
    exact hbeats

theorem beats_accepted (deviceId : UUID) (x : Nat) :
    Beats [] (Handler.accepted deviceId x) where
  alternating := trivial
  unanswered := rfl
  latest _ h := nomatch h
  resting _ := rfl
  waiting _ _ := rfl
  unready _ := rfl

theorem Inv.silent {history : List (Step config)} {action : Action config}
    (hinv : Inv h history s) (hstep : step s action = some (t, events))
    (hsilent : signal h ⟨s, action, events, t⟩ = none) :
    Inv h (⟨s, action, events, t⟩ :: history) t := by
  unfold Inv
  rw [signals_cons, hsilent]
  show (t.handlers h = none → signals h history = []) ∧
    ∀ handler, t.handlers h = some handler → Beats (signals h history) handler
  cases step_local hstep h with
  | rests hsame =>
      rw [hsame]
      exact hinv
  | accepted x deviceId _ hnone hnew =>
      refine inv_of_handler hnew ?_
      rw [hinv.1 hnone]
      exact beats_accepted deviceId x
  | turns handler stimulus reaction _ hhandler hturn hcause hafter _ =>
      refine inv_of_handler hafter ?_
      refine (hinv.2 handler hhandler).turn hturn ?_
      rintro x message clock resolved nonce rfl hpayload
      cases hcause with
      | received _ _ _ now _ =>
          obtain ⟨messageId, sessionId, payload⟩ := message
          cases hpayload
          simp [signal] at hsilent
  | beats handler handler' input haction hhandler hbeat hafter _ =>
      subst haction
      refine inv_of_handler hafter ?_
      refine (hinv.2 handler hhandler).beat hbeat ?_
      rintro nonce rfl
      simp [signal] at hsilent

omit [DecidableEq Digest] in
theorem receivingAt_setHandler (s : State config) (h : Nat) (handler : Handler) :
    receivingAt (s.setHandler h handler) h = decide (handler.stage = .receiving) := by
  simp [receivingAt]

omit [DecidableEq Digest] in
theorem signal_pong {x : Nat} {message : Message} {nonce : UUID} {clock : Datetime}
    {now : AwareDatetime} (hpayload : message.payload = .pong nonce) :
    signal h ⟨s, .received h x (.message message) clock now, events, t⟩ =
      some (if receivingAt t h then .accepted nonce else .rejected nonce) := by
  obtain ⟨messageId, sessionId, payload⟩ := message
  cases hpayload
  simp [signal]

theorem Inv.pong {history : List (Step config)} {x : Nat} {message : Message} {nonce : UUID}
    {clock : Datetime} {now : AwareDatetime} (hinv : Inv h history s)
    (hpayload : message.payload = .pong nonce)
    (hstep : step s (.received h x (.message message) clock now) = some (t, events)) :
    Inv h (⟨s, .received h x (.message message) clock now, events, t⟩ :: history) t := by
  obtain ⟨handler, sessionId, hhandler, hsession, hpong⟩ := pong_step hpayload hstep
  have hbeats := hinv.2 handler hhandler
  unfold Inv
  rw [signals_cons, signal_pong hpayload]
  cases hpong with
  | early hstage =>
      rw [receivingAt_setHandler]
      refine inv_of_handler (State.setHandler_self _ _ _) ?_
      exact ((hbeats.rejects nonce).same handler.seenIds handler.sessionId fun h => h.elim)
  | unchecked error hstage hcheck =>
      rw [receivingAt_setHandler]
      refine inv_of_handler (State.setHandler_self _ _ _) ?_
      exact ((hbeats.rejects nonce).same handler.seenIds handler.sessionId fun h => h.elim)
  | unexpected seenIds hstage hcheck hnonce =>
      rw [receivingAt_setHandler]
      refine inv_of_handler (State.setHandler_self _ _ _) ?_
      exact ((hbeats.rejects nonce).same seenIds handler.sessionId fun h => h.elim)
  | accepted seenIds hstage hcheck hnonce =>
      rw [receivingAt_setHandler, decide_eq_true hstage]
      refine inv_of_handler (State.setHandler_self _ _ _) ?_
      exact hbeats.accepts seenIds hnonce

theorem Inv.step {history : List (Step config)} {action : Action config}
    (hinv : Inv h history s) (hstep : step s action = some (t, events)) :
    Inv h (⟨s, action, events, t⟩ :: history) t := by
  cases hsignal : signal h ⟨s, action, events, t⟩ with
  | none => exact hinv.silent hstep hsignal
  | some found =>
      unfold signal at hsignal
      dsimp only at hsignal
      split at hsignal
      · rename_i h' nonce
        split at hsignal
        · rename_i hsame
          subst hsame
          obtain ⟨handler, hhandler, hruns⟩ := onHandler_eq_some hstep
          unfold beat at hruns
          split at hruns
          · cases ‹HeartbeatInput.wakes nonce = .timedOut›
          · rename_i handler' hbeat _
            cases hruns
            unfold Inv
            rw [signals_cons]
            have hsent : signal h' ⟨s, .heartbeat h' (.wakes nonce), [], s.setHandler h' handler'⟩ =
                some (.ping nonce) := by
              simp [signal]
            rw [hsent]
            refine inv_of_handler (State.setHandler_self _ _ _) ?_
            exact (hinv.2 handler hhandler).ping hbeat
          · cases hruns
        · cases hsignal
      · rename_i h' x messageId sessionId nonce clock now
        split at hsignal
        · rename_i hsame
          subst hsame
          exact hinv.pong rfl hstep
        · cases hsignal
      · cases hsignal

theorem inv_of_run {history : List (Step config)}
    (hrun : Run (gateway config) (.initial config) history s) : Inv h history s := by
  have hfirst : Inv h [] (State.initial config) := by
    refine ⟨fun _ => rfl, fun handler hnone => ?_⟩
    cases hnone
  refine hrun.historyInvariant (Inv h) hfirst ?_
  intro history s action t events _ hinv hstep
  exact hinv.step hstep

theorem leaving_of_run {history : List (Step config)} (hhandler : s.handlers h = some handler)
    (hleaving : Leaving handler.stage) (hrun : Run (gateway config) s history t) :
    (∃ after, t.handlers h = some after ∧ Leaving after.stage) ∧
      ∀ v ∈ history, ∃ after, v.target.handlers h = some after ∧ Leaving after.stage := by
  induction hrun with
  | nil => exact ⟨⟨handler, hhandler, hleaving⟩, fun _ hv => nomatch hv⟩
  | step action events t _ hfire ih =>
      obtain ⟨⟨before, hbefore, hstage⟩, hall⟩ := ih
      have hlast := leaving_step hbefore hstage hfire
      refine ⟨hlast, fun v hv => ?_⟩
      rcases List.mem_cons.mp hv with rfl | hv
      · exact hlast
      · exact hall v hv

def Receives (h : Nat) (nonce : UUID) (u : Step config) : Prop :=
  ∃ x message clock now, u.action = .received h x (.message message) clock now ∧
    message.payload = .pong nonce

omit [DecidableEq Digest] in
theorem receives_of_signal {u : Step config} {nonce : UUID} {found : Signal}
    (hsignal : signal h u = some found) (hfound : found = .accepted nonce ∨ found = .rejected nonce) :
    Receives h nonce u := by
  unfold signal at hsignal
  split at hsignal
  · split at hsignal
    · cases hsignal
      rcases hfound with hping | hping
      · cases hping
      · cases hping
    · cases hsignal
  · rename_i h' x messageId sessionId echoed clock now haction
    split at hsignal
    · rename_i hsame
      subst hsame
      have hnonce : echoed = nonce := by
        cases hsignal
        split at hfound
        · simpa using hfound
        · simpa using hfound
      exact ⟨x, _, clock, now, haction, congrArg Payload.pong hnonce⟩
    · cases hsignal
  · cases hsignal

/-- `touch` is called once, with the session of the handler. -/
def TouchedOnce (h : Nat) (u : Step config) : Prop :=
  ∃ handler sessionId now, u.source.handlers h = some handler ∧
    handler.sessionId = some sessionId ∧
    u.target.service = { u.source.service with
      manager := (touch u.source.service.manager handler.deviceId sessionId now).1 }

/-- The handler reports a protocol error, and never receives again in the rest of the run. -/
def EndsSession (h : Nat) (u : Step config) (later : List (Step config)) : Prop :=
  (∃ handler inBody, u.target.handlers h = some handler ∧ handler.stage = .reporting inBody) ∧
    ∀ v ∈ later, ∃ handler, v.target.handlers h = some handler ∧ Leaving handler.stage

structure HeartbeatCorrect (h : Nat) (history : List (Step config)) : Prop where
  outstanding : (unanswered (signals h history)).length ≤ 1
  next : ∀ later nonce earlier, signals h history = later ++ .ping nonce :: earlier →
    unanswered earlier = []
  accepted : ∀ later u earlier nonce, history = later ++ u :: earlier → Receives h nonce u →
    (signal h u = some (.accepted nonce) ↔
      Checked h u ∧ latestPing (signals h earlier) = some nonce ∧
        nonce ∈ unanswered (signals h earlier))
  once : ∀ nonce, (signals h history).count (.accepted nonce) ≤ 1
  touched : ∀ u ∈ history, ∀ nonce, signal h u = some (.accepted nonce) → TouchedOnce h u
  refused : ∀ later u earlier nonce, history = later ++ u :: earlier → Receives h nonce u →
    signal h u ≠ some (.accepted nonce) →
      u.target.service = u.source.service ∧ EndsSession h u later

omit [DecidableEq Digest] in
theorem alternating_of_inv {history : List (Step config)} (hinv : Inv h history s) :
    Alternating (signals h history) ∧ (unanswered (signals h history)).length ≤ 1 := by
  cases hhandler : s.handlers h with
  | none =>
      rw [hinv.1 hhandler]
      exact ⟨trivial, by decide⟩
  | some handler =>
      have hbeats := hinv.2 handler hhandler
      refine ⟨hbeats.alternating, ?_⟩
      rw [hbeats.unanswered]
      cases handler.heartbeatNonce with
      | none => exact Nat.zero_le 1
      | some nonce => exact Nat.le_refl 1

/-- How a step treats a pong: it accepts the pong of an unanswered ping, or the handler
reports a protocol error. -/
inductive Treats (h : Nat) (earlier : List (Step config)) (nonce : UUID) (u : Step config) : Prop
  | accepts : signal h u = some (.accepted nonce) → Checked h u →
      latestPing (signals h earlier) = some nonce → nonce ∈ unanswered (signals h earlier) →
      TouchedOnce h u → Treats h earlier nonce u
  | refuses (handler : Handler) (inBody : Bool) : signal h u ≠ some (.accepted nonce) →
      ¬ (Checked h u ∧ nonce ∈ unanswered (signals h earlier)) →
      u.target.service = u.source.service → u.target.handlers h = some handler →
      handler.stage = .reporting inBody → Treats h earlier nonce u

theorem pong_treated {earlier : List (Step config)} {x : Nat} {message : Message} {nonce : UUID}
    {clock : Datetime} {now : AwareDatetime} (hinv : Inv h earlier s)
    (hpayload : message.payload = .pong nonce)
    (hstep : step s (.received h x (.message message) clock now) = some (t, events)) :
    Treats h earlier nonce ⟨s, .received h x (.message message) clock now, events, t⟩ := by
  obtain ⟨handler, sessionId, hhandler, hsession, hpong⟩ := pong_step hpayload hstep
  have hbeats := hinv.2 handler hhandler
  have hchecks : Checked h (⟨s, .received h x (.message message) clock now, events, t⟩ :
      Step config) ↔ handler.stage = .receiving ∧
        ∃ seenIds, handler.checkMessage sessionId message = .ok seenIds := by
    constructor
    · rintro ⟨found, foundId, _, _, _, _, seenIds, hfound, hfoundHandler, hstage, hfoundId, hcheck⟩
      cases hfound
      obtain rfl : found = handler := Option.some.inj (hfoundHandler.symm.trans hhandler)
      obtain rfl : foundId = sessionId := Option.some.inj (hfoundId.symm.trans hsession)
      exact ⟨hstage, seenIds, hcheck⟩
    · rintro ⟨hstage, seenIds, hcheck⟩
      exact ⟨handler, sessionId, x, message, clock, now, seenIds, rfl, hhandler, hstage, hsession,
        hcheck⟩
  have hmem : nonce ∈ unanswered (signals h earlier) ↔ handler.heartbeatNonce = some nonce := by
    rw [hbeats.unanswered]
    exact Option.mem_toList
  have refused (hnot : receivingAt t h = false) :
      signal h (⟨s, .received h x (.message message) clock now, events, t⟩ : Step config) ≠
        some (.accepted nonce) := by
    rw [signal_pong hpayload, hnot]
    simp
  cases hpong with
  | early hstage =>
      refine .refuses _ true (refused (receivingAt_setHandler _ _ _)) ?_ rfl
        (State.setHandler_self _ _ _) rfl
      rw [hchecks]
      rintro ⟨⟨hreceiving, -⟩, -⟩
      cases hstage.symm.trans hreceiving
  | unchecked error hstage hcheck =>
      refine .refuses _ false (refused (receivingAt_setHandler _ _ _)) ?_ rfl
        (State.setHandler_self _ _ _) rfl
      rw [hchecks]
      rintro ⟨⟨-, seenIds, hok⟩, -⟩
      cases hcheck.symm.trans hok
  | unexpected seenIds hstage hcheck hnonce =>
      refine .refuses _ false (refused (receivingAt_setHandler _ _ _)) ?_ rfl
        (State.setHandler_self _ _ _) rfl
      rw [hmem]
      exact fun h => hnonce h.2
  | accepted seenIds hstage hcheck hnonce =>
      refine .accepts ?_ (hchecks.mpr ⟨hstage, seenIds, hcheck⟩) (hbeats.latest nonce hnonce)
        (hmem.mpr hnonce) ⟨handler, sessionId, now, hhandler, hsession, rfl⟩
      rw [signal_pong hpayload, receivingAt_setHandler, decide_eq_true hstage]
      rfl

theorem received_pong {u : Step config} {nonce : UUID} {earlier : List (Step config)}
    (hinv : Inv h earlier u.source) (hreceives : Receives h nonce u)
    (hstep : step u.source u.action = some (u.target, u.events)) : Treats h earlier nonce u := by
  obtain ⟨x, message, clock, now, haction, hpayload⟩ := hreceives
  obtain ⟨source, action, events, target⟩ := u
  obtain rfl : action = _ := haction
  exact pong_treated hinv hpayload hstep

/-- The heartbeat of every connection, when the nonces of its pings are fresh. -/
theorem heartbeat_correct {history : List (Step config)} {s : State config}
    (hrun : Run (gateway config) (.initial config) history s) (h : Nat)
    (hfresh : ((signals h history).filterMap Signal.ping?).Nodup) :
    HeartbeatCorrect h history where
  outstanding := (alternating_of_inv (inv_of_run hrun)).2
  next later nonce earlier hsplit := by
    have halternating := (alternating_of_inv (inv_of_run hrun (h := h))).1
    rw [hsplit] at halternating
    exact halternating.ping_of_append
  accepted later u earlier nonce hsplit hreceives := by
    rw [hsplit] at hrun
    obtain ⟨hearlier, hstep, -⟩ := hrun.split
    cases received_pong (inv_of_run hearlier) hreceives hstep with
    | accepts haccepted hchecked hlatest hmem _ =>
        exact iff_of_true haccepted ⟨hchecked, hlatest, hmem⟩
    | refuses _ _ hnot hwrong _ _ _ => exact iff_of_false hnot fun h => hwrong ⟨h.1, h.2.2⟩
  once := (alternating_of_inv (inv_of_run hrun)).1.once hfresh
  touched u hu nonce haccepted := by
    obtain ⟨later, earlier, rfl, hearlier, hstep, -⟩ := hrun.exists_of_mem hu
    have hreceives : Receives h nonce u := receives_of_signal haccepted (.inl rfl)
    cases received_pong (inv_of_run hearlier) hreceives hstep with
    | accepts _ _ _ _ htouched => exact htouched
    | refuses _ _ hnot _ _ _ _ => exact absurd haccepted hnot
  refused later u earlier nonce hsplit hreceives hnot := by
    rw [hsplit] at hrun
    obtain ⟨hearlier, hstep, hlater⟩ := hrun.split
    cases received_pong (inv_of_run hearlier) hreceives hstep with
    | accepts haccepted _ _ _ _ => exact absurd haccepted hnot
    | refuses handler inBody _ _ hservice hhandler hstage =>
        have hleaving : Leaving handler.stage := by
          rw [hstage]
          trivial
        exact ⟨hservice, ⟨handler, inBody, hhandler, hstage⟩,
          (leaving_of_run hhandler hleaving hlater).2⟩

section Samples

open JarvisCore.Service.GrantContainment (sampleService)
open JarvisCore.Gateway.Cleanup (sampleReady sampleUuid)

/-- A pong with the nonce `60`, in the session with the given number. -/
def samplePong (sessionId : UUID) : Action sampleService :=
  .received 0 4 (.message ⟨sampleUuid 51, sessionId,
    .pong (sampleUuid 60)⟩) ⟨2, some 0⟩ ⟨2, 0⟩

/-- The ping `60` is sent to the connection with session `102`. -/
def samplePinged : List (Action sampleService) :=
  sampleReady ++ [.heartbeat 0 (.wakes (sampleUuid 60)), .heartbeat 0 (.sent none)]

def sampleBeats : List (Action sampleService) :=
  samplePinged ++ [samplePong (sampleUuid 102), .heartbeat 0 .answered,
    .heartbeat 0 (.wakes (sampleUuid 61))]

theorem heartbeat_correct_twice :
    ∃ history s, Run (gateway sampleService) (.initial sampleService) history s ∧
      signals 0 history = [.ping (sampleUuid 61), .accepted (sampleUuid 60),
        .ping (sampleUuid 60)] ∧
      HeartbeatCorrect 0 history := by
  obtain ⟨history, s, hrun, htest⟩ := exists_run_of_replay (S := gateway sampleService)
    (s := State.initial sampleService) sampleBeats
    (fun history _ => signals 0 history = [.ping (sampleUuid 61),
      .accepted (sampleUuid 60), .ping (sampleUuid 60)]) (by decide)
  have hsignals := of_decide_eq_true htest
  refine ⟨history, s, hrun, hsignals, heartbeat_correct hrun 0 ?_⟩
  rw [hsignals]
  decide

/-- A pong for the unanswered ping, which names a session that is not the connection's. -/
def strays : List (Step sampleService) → Bool
  | u :: earlier =>
      signal 0 u = some (.rejected (sampleUuid 60)) &&
        latestPing (signals 0 earlier) = some (sampleUuid 60) &&
        sampleUuid 60 ∈ unanswered (signals 0 earlier)
  | [] => false

theorem stray_pong_refused :
    ∃ u earlier s nonce, Run (gateway sampleService) (.initial sampleService) (u :: earlier) s ∧
      Receives 0 nonce u ∧ latestPing (signals 0 earlier) = some nonce ∧
      nonce ∈ unanswered (signals 0 earlier) ∧ signal 0 u ≠ some (.accepted nonce) := by
  obtain ⟨history, s, hrun, htest⟩ := exists_run_of_replay (S := gateway sampleService)
    (s := State.initial sampleService)
    (samplePinged ++ [samplePong (sampleUuid 9)]) (fun history _ => strays history)
    (by decide)
  cases history with
  | nil => cases htest
  | cons u earlier =>
      simp only [strays, Bool.and_eq_true, decide_eq_true_eq] at htest
      obtain ⟨⟨hrejected, hlatest⟩, hmem⟩ := htest
      refine ⟨u, earlier, s, _, hrun, receives_of_signal hrejected (.inr rfl), hlatest, hmem, ?_⟩
      rw [hrejected]
      simp

end Samples

end JarvisCore.Gateway.Heartbeats
