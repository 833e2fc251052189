import JarvisCore.Foundation.Restarts
import JarvisCore.Service.FailedRevocation
import JarvisCore.Service.Revocation

/-!
Core dies and is started again over the same database. The tables survive; the connections,
the pairing challenges and every call that was under way are gone. An operation of the
database that was awaited has taken effect or has not, which is decided before the process
dies.
-/

namespace JarvisCore.Service.Restarts

open JarvisCore.Domain.Values
open JarvisCore.Domain.Errors
open JarvisCore.Domain.Models
open JarvisCore.Foundation.AsyncIO
open JarvisCore.Foundation.Dictionary
open JarvisCore.Foundation.Restarts
open JarvisCore.Foundation.TransitionSystem
open JarvisCore.Manager.Operations (TransportCall)
open JarvisCore.Manager.Connections (step_dispatches)
open JarvisCore.Pairing.Challenges (Registration)
open JarvisCore.Pairing.Backends
open JarvisCore.Pairing.DurableClaim (Commits Issued)
open JarvisCore.Security.Credentials
open JarvisCore.Security.DeviceTables
open JarvisCore.Security.DeviceRecords
open JarvisCore.Service.Operations
open JarvisCore.Service.Effects
open JarvisCore.Service.Invariant
open JarvisCore.Service.CallSteps
open JarvisCore.Service.GrantContainment
open JarvisCore.Service.FailedRevocation (Strips Writes step_writes)
open JarvisCore.Service.Revocation

variable {Digest : Type} {config : Config Digest}

/-- A new process over the tables that the last one has left. -/
def restart (s : State config) : State config :=
  { State.initial config with pairing := .initial (sql config.codec) s.tables }

@[simp] theorem restart_tables (s : State config) : (restart s).tables = s.tables := rfl
@[simp] theorem restart_calls (s : State config) (x : Nat) : (restart s).calls x = none := rfl
@[simp] theorem restart_connections (s : State config) (d : UUID) :
    (restart s).manager.connections.lookup d = none := rfl

variable [DecidableEq Digest]

def restartable (config : Config Digest) :
    System (State config) (Option (Action config)) (Event Digest) :=
  restarting (service config) restart

abbrev Lifetime (config : Config Digest) :=
  List (Transition (State config) (Option (Action config)) (Event Digest))

variable {history earlier later : Lifetime config} {s₀ s : State config}

theorem inv_restart {log : List (Pairing.Challenges.Event Digest)} (hinv : Inv log s) :
    Inv [] (restart s) where
  pairing :=
    (Pairing.Contract.inv_of_run .nil : Pairing.Contract.Inv config.pairing
      (Pairing.Contract.log []) (Pairing.Challenges.State.initial (sql config.codec) s.tables))
  staged _ _ _ h := by cases h
  lifecycle := .free
  durable := hinv.durable
  stripped := hinv.stripped
  calls _ _ h := by cases h
  manager :=
    { connections := fun _ _ h => by cases h
      commands := fun _ _ h => by cases h }
  executing _ h := absurd rfl h

/-- Between two restarts the service is the one that was started over these tables. -/
theorem inv_of_lifetime (hrun : Run (restartable config) (.initial config) history s) :
    Inv (pairingLog (sinceStart history)) s := by
  induction hrun with
  | nil => exact inv_initial
  | step action events t _ h ih =>
      cases action with
      | some action => exact ih.step h
      | none =>
          cases h
          exact inv_restart ih

section Revocations

theorem final_lifetime_step {d : UUID} (hfinal : Final d s)
    {log : List (Pairing.Challenges.Event Digest)} (hinv : Inv log s)
    {action : Option (Action config)} {events : List (Event Digest)} {t : State config}
    (h : (restartable config).step s action = some (t, events)) : Final d t := by
  cases action with
  | some action => exact hfinal.step hinv h
  | none =>
      cases h
      exact ⟨hfinal.revoked, rfl, fun _ _ _ h => by cases h⟩

/-- The last process that ran before has recorded the device as revoked, and has not
necessarily come to the disconnection of the device. -/
def RevokedBeforeStart (d : UUID) (history : Lifetime config) : Prop :=
  ∃ events s t older, history = ⟨s, none, events, t⟩ :: older ∧ Revoked s.tables d

/-- A revocation that has returned, or that was cut short after its record was written. -/
def RevocationSettled (d : UUID) (history : Lifetime config) (s : State config) : Prop :=
  (∃ x value, s.calls x = some ⟨.revokeDevice d, .finished (.ok value)⟩) ∨
    RevokedBeforeStart d history

theorem final_of_lifetime (hrun : Run (restartable config) (.initial config) history s) {x : Nat}
    {d : UUID} {stage : Stage} (hcall : s.calls x = some ⟨.revokeDevice d, stage⟩)
    (hstage : Concluding stage) : Final d s := by
  induction hrun generalizing stage with
  | nil => cases hcall
  | @step history s action events t hprev h ih =>
      have hinv := inv_of_lifetime hprev
      cases action with
      | none =>
          cases h
          cases hcall
      | some action =>
          rcases step_concluding hinv h hcall hstage with hsame | ⟨value, hclosing, -⟩ | hfound
          · exact (ih hsame hstage).step hinv h
          · exact (ih hclosing trivial).step hinv h
          · exact final_of_found hinv h hfound

theorem final_of_settled (hrun : Run (restartable config) (.initial config) history s) {d : UUID}
    (hsettled : RevocationSettled d history s) : Final d s := by
  rcases hsettled with ⟨x, value, hcall⟩ | ⟨events, s', t, older, rfl, hrevoked⟩
  · exact final_of_lifetime hrun hcall trivial
  · cases hrun with
    | step _ _ _ _ h =>
        cases h
        exact ⟨hrevoked, rfl, fun _ _ _ h => by cases h⟩

/-- The step is the end of a call that serves the device: it connects, activates, or gets a
command through to the socket. -/
def Serves (d : UUID) (u : Transition (State config) (Option (Action config)) (Event Digest)) :
    Prop :=
  (∃ x transport value, u.source.calls x ≠ u.target.calls x ∧
    u.target.calls x = some ⟨.connectDevice d transport, .finished (.ok value)⟩) ∨
  (∃ x sessionId advertised value, u.source.calls x ≠ u.target.calls x ∧
    u.target.calls x = some ⟨.activateDevice d sessionId advertised, .finished (.ok value)⟩) ∨
  ∃ x transport command sessionId, .transport (.sendCommand x transport command sessionId) ∈ u.events ∧
    command.deviceId = d

theorem underLock_of_lifetime (hrun : Run (restartable config) (.initial config) history s)
    {x : Nat} {request : Request} {value : Value}
    (hcall : s.calls x = some ⟨request, .awaitingClose value⟩) : request.underLock = true := by
  induction hrun generalizing value with
  | nil => cases hcall
  | @step history s action events t hprev h ih =>
      cases action with
      | none =>
          cases h
          cases hcall
      | some action =>
          rcases step_concluding (inv_of_lifetime hprev) h hcall trivial with
            hsame | ⟨value', hsame, -⟩ | hfound
          · exact ih hsame
          · exact ih hsame
          · cases hfound <;> rfl

theorem not_serves_of_final {d : UUID} (hfinal : Final d s)
    (hrun : Run (restartable config) (.initial config) history s) {action : Option (Action config)}
    {events : List (Event Digest)} {t : State config}
    (h : (restartable config).step s action = some (t, events)) :
    ¬ Serves d ⟨s, action, events, t⟩ := by
  have hinv := inv_of_lifetime hrun
  cases action with
  | none =>
      cases h
      rintro (⟨x, transport, value, -, hx⟩ | ⟨x, sessionId, advertised, value, -, hx⟩ |
        ⟨x, transport, command, sessionId, hsend, -⟩)
      · cases hx
      · cases hx
      · cases hsend
  | some action =>
      rintro (⟨x, transport, value, hnew, hx⟩ | ⟨x, sessionId, advertised, value, hnew, hx⟩ |
        ⟨x, transport, command, sessionId, hsend, hd⟩)
      · rcases step_concluding hinv h hx trivial with hsame | ⟨value', hclosing, -⟩ | hfound
        · exact hnew (hsame.trans hx.symm)
        · exact hfinal.unconnected x transport value' hclosing
        · cases hfound with
          | views _ _ _ _ hviews => exact hviews.elim
          | connects _ _ device _ _ _ hcall hstatus =>
              exact hstatus (revoked_of_connecting (hinv.calls x _ hcall) hfinal.revoked)
      · rcases step_concluding hinv h hx trivial with hsame | ⟨value', hclosing, -⟩ | hfound
        · exact hnew (hsame.trans hx.symm)
        · have hlock := underLock_of_lifetime hrun hclosing
          cases hlock
        · cases hfound with
          | views _ _ _ _ hviews => exact hviews.elim
          | activates _ _ _ k _ hk =>
              rw [hfinal.offline] at hk
              cases hk
      · have hcall : .sendCommand x transport command sessionId ∈ transportCalls events :=
          List.mem_filterMap.mpr ⟨_, hsend, rfl⟩
        rcases step_manager hinv h with ⟨-, hquiet⟩ | ⟨managerAction, -, -, hstep⟩
        · rw [hquiet] at hcall
          cases hcall
        · obtain ⟨-, call, hdispatches⟩ := step_dispatches hstep hcall
          obtain ⟨k, hk, -⟩ := hdispatches.current
          have hd : command.deviceId = d := hd
          rw [hdispatches.command, hd, hfinal.offline] at hk
          cases hk

/-- What a revoked device is like in every later state, in whatever process. -/
structure ShutOut (d : UUID) (s : State config) (later : Lifetime config) : Prop where
  registry : ∃ device, s.tables.get config.dialect d = .ok (some device) ∧ device.status = .revoked
  tokens : ∀ token, s.tables.authenticate config.codec token ≠ some d
  offline : s.manager.connections.lookup d = none
  unserved : ∀ u ∈ later, ¬ Serves d u

/-- A revocation is final across restarts. One that was cut short by the death of the process
is final as well, once its record was written: the restart does the rest. -/
theorem revocation_outlives_restarts
    (hearlier : Run (restartable config) (.initial config) earlier s₀) {d : UUID}
    (hsettled : RevocationSettled d earlier s₀)
    (hlater : Run (restartable config) s₀ later s) : ShutOut d s later := by
  suffices h : Final d s ∧ ∀ u ∈ later, ¬ Serves d u by
    have hinv := inv_of_lifetime (hearlier.append hlater)
    exact
      { registry := get_of_revoked config.dialect hinv.durable h.1.revoked
        tokens := authenticate_ne config.codec (hinv.stripped d h.1.revoked)
        offline := h.1.offline
        unserved := h.2 }
  induction hlater with
  | nil => exact ⟨final_of_settled hearlier hsettled, by simp⟩
  | step action events t hlater h ih =>
      have hrun := hearlier.append hlater
      refine ⟨final_lifetime_step ih.1 (inv_of_lifetime hrun) h, ?_⟩
      intro u hu
      rcases List.mem_cons.mp hu with rfl | hu
      · exact not_serves_of_final ih.1 hrun h
      · exact ih.2 u hu

end Revocations

section Tokens

/-- The step commits a registration of the device, with a credential that the token matches. -/
def RegistersToken (token : String) (d : UUID) (u : Step config) : Prop :=
  ∃ registration rows, CommitsClaim registration rows u ∧ rows.device.id = d ∧
    config.codec.parseTokenId token = some rows.issued.id ∧
    rows.issued.digest = config.codec.digest token

omit [DecidableEq Digest] in
theorem commitsClaim_register {registration : Registration Digest} {rows : Sql.Rows Digest}
    {u : Step config} (h : CommitsClaim registration rows u) :
    u.source.tables.register rows.device rows.issued rows.createdAt = some u.target.tables := by
  obtain ⟨action, -, hcommits⟩ := h
  exact hcommits.committed

omit [DecidableEq Digest] in
theorem not_commitsClaim_of_same {registration : Registration Digest} {rows : Sql.Rows Digest}
    {u : Step config} (hsame : u.target.tables = u.source.tables) :
    ¬ CommitsClaim registration rows u := by
  intro h
  have hregister := commitsClaim_register h
  rw [hsame] at hregister
  exact Pairing.DurableClaim.commit_ne hregister

theorem exists_commitsClaim {log : List (Pairing.Challenges.Event Digest)} {t : State config}
    (hinv : Inv log s) {action : Action config} {events : List (Event Digest)}
    (h : step s action = some (t, events)) (hpairing : (pairingAction action).isSome)
    (hne : t.tables ≠ s.tables) :
    ∃ registration rows, CommitsClaim registration rows (⟨s, action, events, t⟩ : Step config) := by
  cases step_effect h with
  | pairs _ action' pairing events haction hstep =>
      rcases hinv.pairs_store hstep with hsame | ⟨registration, rows, hcommits, -⟩
      · exact absurd hsame hne
      · refine ⟨registration, rows, action', haction, ?_⟩
        rwa [pairingEvents_pairing]
  | passes | begins | queues | enters | leaves => exact absurd rfl hne
  | performs | proceeds | closes => cases hpairing

section Tables

variable {tables tables' : Tables Digest} {codec : DeviceCredentialCodec Digest} {token : String}
  {d : UUID}

theorem authenticate_register {device : Device} {issued : IssuedDeviceCredential Digest}
    {createdAt : AwareDatetime} (h : tables.register device issued createdAt = some tables') :
    tables'.authenticate codec token = some d ↔
      (device.id = d ∧ codec.parseTokenId token = some issued.id ∧
        issued.digest = codec.digest token) ∨ tables.authenticate codec token = some d := by
  obtain ⟨-, hfree, -, -, hcredentials⟩ := Tables.register_eq_some h
  simp only [Tables.authenticate_eq_some, hcredentials, Dict.lookup_insert_eq]
  cases hparse : codec.parseTokenId token with
  | none => simp
  | some c =>
      by_cases hc : c = issued.id
      · subst hc
        simp [hfree]
      · simp [hc]

theorem authenticate_revoke {d' : UUID} :
    (tables.revoke d').authenticate codec token = some d ↔
      d ≠ d' ∧ tables.authenticate codec token = some d := by
  simp only [Tables.authenticate_eq_some]
  constructor
  · rintro ⟨c, hparse, hrow⟩
    obtain ⟨r, hr, hsome⟩ := Option.map_eq_some_iff.mp hrow
    rw [Tables.revoke_lookup, Option.filter_eq_some_iff] at hr
    obtain ⟨hr, hkept⟩ := hr
    have hd : r.deviceId = d := congrArg Prod.fst hsome
    refine ⟨hd ▸ of_decide_eq_true hkept, c, hparse, ?_⟩
    rw [hr]
    exact congrArg some hsome
  · rintro ⟨hne, c, hparse, hrow⟩
    obtain ⟨r, hr, hsome⟩ := Option.map_eq_some_iff.mp hrow
    have hd : r.deviceId = d := congrArg Prod.fst hsome
    have hkept : (tables.revoke d').credentials.lookup c = some r := by
      rw [Tables.revoke_lookup, Option.filter_eq_some_iff]
      exact ⟨hr, decide_eq_true (hd ▸ hne)⟩
    refine ⟨c, hparse, ?_⟩
    rw [hkept]
    exact congrArg some hsome

theorem authenticate_save {device : Device} (h : tables.save device = .ok tables') :
    tables'.authenticate codec token = tables.authenticate codec token := by
  rw [save_eq h]
  rfl

end Tables

theorem authenticate_step {log : List (Pairing.Challenges.Event Digest)} {t : State config}
    (hinv : Inv log s) {action : Action config} {events : List (Event Digest)}
    (h : step s action = some (t, events)) (token : String) (d : UUID) :
    t.tables.authenticate config.codec token = some d ↔
      RegistersToken token d (⟨s, action, events, t⟩ : Step config) ∨
        (¬ Strips d (⟨s, action, events, t⟩ : Step config) ∧
          s.tables.authenticate config.codec token = some d) := by
  have uncommitted (haction : pairingAction action = none) :
      ¬ RegistersToken token d (⟨s, action, events, t⟩ : Step config) := by
    rintro ⟨registration, rows, ⟨action', haction', -⟩, -⟩
    rw [haction] at haction'
    cases haction'
  have performed {x : Nat} {outcome : AwaitOutcome} (h : action = .perform x outcome) :
      pairingAction action = none := by
    rw [h]
    rfl
  cases step_writes hinv h with
  | nothing hsame hstrips _ =>
      have hnone : ¬ RegistersToken token d (⟨s, action, events, t⟩ : Step config) := by
        rintro ⟨registration, rows, hcommits, -⟩
        exact not_commitsClaim_of_same hsame hcommits
      rw [show t.tables = s.tables from hsame]
      simp [hnone, hstrips d]
  | registers call rows hregistering _ hregister hstrips _ =>
      obtain ⟨action', haction, -⟩ := hregistering
      have hne : t.tables ≠ s.tables := by
        intro hsame
        rw [show (⟨s, action, events, t⟩ : Step config).target.tables = s.tables from hsame]
          at hregister
        exact Pairing.DurableClaim.commit_ne hregister
      obtain ⟨registration, rows', hcommits⟩ :=
        exists_commitsClaim hinv h (by rw [show pairingAction action = _ from haction]; rfl) hne
      constructor
      · intro hauthenticate
        rcases (authenticate_register (commitsClaim_register hcommits)).mp hauthenticate with
          ⟨hid, hparse, hdigest⟩ | hold
        · exact .inl ⟨registration, rows', hcommits, hid, hparse, hdigest⟩
        · exact .inr ⟨hstrips d, hold⟩
      · rintro (⟨registration'', rows'', hcommits'', hid, hparse, hdigest⟩ | ⟨-, hold⟩)
        · exact (authenticate_register (commitsClaim_register hcommits'')).mpr
            (.inl ⟨hid, hparse, hdigest⟩)
        · exact (authenticate_register (commitsClaim_register hcommits)).mpr (.inr hold)
  | strips d' hstrips honly _ htables _ =>
      have hnone := uncommitted (by
        obtain ⟨x, outcome, request, device, haction, -⟩ := hstrips
        exact performed haction)
      rw [show t.tables = s.tables.revoke d' from htables, authenticate_revoke]
      have hiff : d ≠ d' ↔ ¬ Strips d (⟨s, action, events, t⟩ : Step config) := by
        constructor
        · exact fun hne hd => hne (honly d hd)
        · rintro hnot rfl
          exact hnot hstrips
      rw [hiff]
      simp [hnone]
  | records device hrecords _ hstrips hsave _ _ =>
      have hnone := uncommitted (by
        obtain ⟨x, outcome, request, device, haction, -⟩ := hrecords
        exact performed haction)
      rw [authenticate_save hsave]
      simp [hnone, hstrips d]

theorem issued_step {log : List (Pairing.Challenges.Event Digest)} {t : State config}
    (hinv : Inv log s) (hissued : Issued s.pairing) {action : Action config}
    {events : List (Event Digest)} (h : step s action = some (t, events)) : Issued t.pairing := by
  cases step_effect h with
  | pairs _ action' pairing events _ hstep => exact hissued.step hinv.pairing hstep
  | passes | begins | queues | enters | leaves | performs => exact hissued
  | proceeds x request stage r inputs hcall hproceeds =>
      rw [proceeds_pairing hproceeds]
      exact hissued
  | closes x request value outcome =>
      rw [finish_pairing]
      exact hissued

omit [DecidableEq Digest] in
/-- A token that a claim has issued is matched by the credential that it commits. -/
theorem registersToken_of_issued {registration : Registration Digest} {rows : Sql.Rows Digest}
    {u : Step config} (hissued : Issued u.source.pairing) (h : CommitsClaim registration rows u)
    (hfits : rows.issued.token.length ≤ 256) :
    RegistersToken rows.issued.token rows.device.id u := by
  refine ⟨registration, rows, h, rfl, ?_⟩
  obtain ⟨action, -, hcommits⟩ := h
  obtain ⟨call, hcall, -, hstage⟩ := hcommits.call
  have hrows : Pairing.DurableClaim.stagedRows (.claim call) = some rows := by
    obtain ⟨pairingId, secret, name, registration, stage⟩ := call
    obtain rfl := hstage
    rfl
  obtain ⟨credentialId, tokenSecret, hcodec⟩ := hissued _ call rows hcall hrows
  obtain ⟨-, -, -, -, hdigest⟩ := DeviceCredentialCodec.issue_eq_ok hcodec
  exact ⟨DeviceCredentialCodec.parseTokenId_of_issue hcodec hfits, hdigest⟩

/-- What is known of the tokens after the steps of all processes. -/
structure TokenHistory (steps : List (Step config)) (s : State config) : Prop where
  inv : ∃ log, Inv log s
  issued : Issued s.pairing
  authenticates : ∀ token d, s.tables.authenticate config.codec token = some d ↔
    Since (RegistersToken token d) (Strips d) steps
  registered : ∀ u ∈ steps, ∀ registration rows, CommitsClaim registration rows u →
    rows.issued.token.length ≤ 256 → RegistersToken rows.issued.token rows.device.id u

theorem tokenHistory_of_lifetime
    (hrun : Run (restartable config) (.initial config) history s) :
    TokenHistory (stepsTaken history) s := by
  refine Run.restartInvariant TokenHistory ?_ ?_ ?_ hrun
  · refine ⟨⟨[], inv_initial⟩, (fun _ _ _ h => by cases h), ?_, by simp⟩
    intro token d
    have hnone : ((State.initial config).tables.authenticate config.codec token) = none := by
      cases hauthenticate : (State.initial config).tables.authenticate config.codec token with
      | none => rfl
      | some d' =>
          obtain ⟨c, -, hrow⟩ := (Tables.authenticate_eq_some _).mp hauthenticate
          cases hrow
    rw [hnone]
    simp [Since]
  · intro steps s action t events hhistory h
    obtain ⟨log, hinv⟩ := hhistory.inv
    refine ⟨⟨_, hinv.step h⟩, issued_step hinv hhistory.issued h, ?_, ?_⟩
    · intro token d
      rw [authenticate_step hinv h token d, hhistory.authenticates token d]
      exact Iff.rfl
    · intro u hu registration rows hcommits hfits
      rcases List.mem_cons.mp hu with rfl | hu
      · exact registersToken_of_issued hhistory.issued hcommits hfits
      · exact hhistory.registered u hu registration rows hcommits hfits
  · intro steps s hhistory
    obtain ⟨log, hinv⟩ := hhistory.inv
    exact ⟨⟨[], inv_restart hinv⟩, (fun _ _ _ h => by cases h), hhistory.authenticates,
      hhistory.registered⟩

/-- Whatever number of times Core has died and been started again, a token stands for a device
exactly when a claim has committed a registration of that device whose credential the token
matches, in any of the processes, and no revocation has taken that credential since; and the
token that a claim issued matches the credential that it committed. -/
theorem tokens_survive_restarts (hrun : Run (restartable config) (.initial config) history s) :
    (∀ token d, s.tables.authenticate config.codec token = some d ↔
      Since (RegistersToken token d) (Strips d) (stepsTaken history)) ∧
    ∀ u ∈ stepsTaken history, ∀ registration rows, CommitsClaim registration rows u →
      rows.issued.token.length ≤ 256 → RegistersToken rows.issued.token rows.device.id u :=
  ⟨(tokenHistory_of_lifetime hrun).authenticates, (tokenHistory_of_lifetime hrun).registered⟩

end Tokens

section Grants

theorem commits_record {log : List (Pairing.Challenges.Event Digest)} {u : Step config}
    (hinv : Inv log u.source) {registration : Registration Digest} {rows : Sql.Rows Digest}
    (h : CommitsClaim registration rows u) :
    HasGrants u.target.tables rows.device.id registration.record.grantedCapabilities := by
  have hgranted : rows.device.grantedCapabilities = registration.record.grantedCapabilities := by
    obtain ⟨action, -, ⟨-, ⟨call, hcall, hregistration, hstage⟩, -⟩⟩ := h
    obtain ⟨-, registration', hregistration', -, hadmitted⟩ :=
      hinv.pairing.registering _ call _ hcall hstage
    obtain rfl : registration = registration' :=
      Option.some.inj (hregistration.symm.trans hregistration')
    obtain ⟨pairingId, secret, name, staging, stage⟩ := call
    obtain rfl : stage = _ := hstage
    obtain ⟨registration', hstaging, hdevice, -⟩ := hinv.staged _ _ rows hcall rfl
    obtain rfl : registration = registration' :=
      Option.some.inj (hregistration.symm.trans hstaging)
    rw [hdevice, hadmitted.granted]
  rw [← hgranted]
  exact register_hasGrants (commitsClaim_register h)

/-- What the steps of all processes tell about the grants in the tables. -/
structure GrantHistory (steps : List (Step config)) (s : State config) : Prop where
  inv : ∃ log, Inv log s
  committed : ∀ u ∈ steps, ∀ registration rows, CommitsClaim registration rows u →
    HasGrants s.tables rows.device.id registration.record.grantedCapabilities
  registered : ∀ d, (s.tables.devices.lookup d).isSome → ∃ u ∈ steps, ∃ registration rows,
    CommitsClaim registration rows u ∧ rows.device.id = d
  dispatched : ∀ u ∈ steps, ∀ x transport command sessionId,
    .sendCommand x transport command sessionId ∈ transportCalls u.events →
    Allowed config s.tables command

theorem grantHistory_of_lifetime
    (hrun : Run (restartable config) (.initial config) history s) :
    GrantHistory (stepsTaken history) s := by
  refine Run.restartInvariant GrantHistory ?_ ?_ ?_ hrun
  · refine ⟨⟨[], inv_initial⟩, by simp, ?_, by simp⟩
    intro d hd
    cases hd
  · intro steps s action t events hhistory h
    obtain ⟨log, hinv⟩ := hhistory.inv
    obtain ⟨hgrows, hregistered⟩ := step_tables hinv h
    refine ⟨⟨_, hinv.step h⟩, ?_, ?_, ?_⟩
    · intro u hu registration rows hcommits
      rcases List.mem_cons.mp hu with rfl | hu
      · exact commits_record hinv hcommits
      · exact hgrows.grants _ _ (hhistory.committed u hu registration rows hcommits)
    · intro d hd
      rcases hregistered d hd with hold | ⟨action', registration, rows, haction, hcommits, hid⟩
      · obtain ⟨u, hu, known⟩ := hhistory.registered d hold
        exact ⟨u, List.mem_cons_of_mem _ hu, known⟩
      · exact ⟨_, List.mem_cons_self, registration, rows, ⟨action', haction, hcommits⟩, hid⟩
    · intro u hu x transport command sessionId hsend
      rcases List.mem_cons.mp hu with rfl | hu
      · exact dispatches_allowed hinv (hinv.step h) h hsend
      · exact (hhistory.dispatched u hu x transport command sessionId hsend).grows hgrows
  · intro steps s hhistory
    obtain ⟨log, hinv⟩ := hhistory.inv
    exact ⟨⟨[], inv_restart hinv⟩, hhistory.committed, hhistory.registered, hhistory.dispatched⟩

/-- The device was registered, in some process, and every registration of it has the
property. -/
def RegisteredWith (steps : List (Step config)) (d : UUID)
    (P : Finset DeviceCapability → Prop) : Prop :=
  (∃ u ∈ steps, ∃ registration rows, CommitsClaim registration rows u ∧ rows.device.id = d) ∧
    ∀ u ∈ steps, ∀ registration rows, CommitsClaim registration rows u → rows.device.id = d →
      P registration.record.grantedCapabilities

theorem GrantHistory.registeredWith {steps : List (Step config)} (h : GrantHistory steps s)
    {d : UUID} {granted : Finset DeviceCapability} (hgrants : HasGrants s.tables d granted)
    {P : Finset DeviceCapability → Prop} (hP : P granted) : RegisteredWith steps d P := by
  refine ⟨?_, ?_⟩
  · obtain ⟨device, -, -, hrow⟩ := hgrants
    exact h.registered d (by rw [hrow]; rfl)
  · rintro u hu registration rows hcommits rfl
    rw [hgrants.unique (h.committed u hu registration rows hcommits)]
    exact hP

omit [DecidableEq Digest] in
theorem mem_stepsTaken {u : Transition (State config) (Option (Action config)) (Event Digest)}
    (hu : u ∈ history) {action : Action config} (haction : u.action = some action) :
    (⟨u.source, action, u.events, u.target⟩ : Step config) ∈ stepsTaken history :=
  List.mem_filterMap.mpr ⟨u, hu, by rw [haction]; rfl⟩

/-- What a device was granted when it was paired bounds it in every later process: each
command that reaches its socket has a granted capability and a defined action, and the
effective set of its live connection is what it advertises of the granted set. -/
theorem grants_survive_restarts (hrun : Run (restartable config) (.initial config) history s) :
    (∀ u ∈ history, ∀ x transport command sessionId,
      .transport (.sendCommand x transport command sessionId) ∈ u.events →
        RegisteredWith (stepsTaken history) command.deviceId (fun granted =>
          command.capability ∈ granted) ∧
        CapabilityRegistry.allows config.definitions command.capability command.action = true) ∧
    ∀ d k, s.manager.connections.lookup d = some k →
      RegisteredWith (stepsTaken history) d fun granted =>
        k.effectiveCapabilities = k.advertisedCapabilities ∩ granted := by
  have hhistory := grantHistory_of_lifetime hrun
  refine ⟨?_, ?_⟩
  · intro u hu x transport command sessionId hsend
    have hstep : ∃ action, u.action = some action := by
      obtain ⟨later, earlier, -, -, hfire, -⟩ := hrun.exists_of_mem hu
      cases haction : u.action with
      | some action => exact ⟨action, rfl⟩
      | none =>
          rw [haction] at hfire
          have hevents : [] = u.events := congrArg Prod.snd (Option.some.inj hfire)
          rw [← hevents] at hsend
          cases hsend
    obtain ⟨action, haction⟩ := hstep
    obtain ⟨⟨granted, hgrants, hmem⟩, hallows⟩ :=
      hhistory.dispatched _ (mem_stepsTaken hu haction) x transport command sessionId
        (List.mem_filterMap.mpr ⟨_, hsend, rfl⟩)
    exact ⟨hhistory.registeredWith hgrants hmem, hallows⟩
  · intro d k hk
    obtain ⟨log, hinv⟩ := hhistory.inv
    obtain ⟨-, granted, hgrants, heffective⟩ := hinv.manager.connections d k hk
    exact hhistory.registeredWith hgrants heffective

/-- A challenge ends with the process that made it: a claim returns a credential only for a
challenge that was created since the last start, with its wrong attempts counted since then. -/
theorem claims_stay_in_process (hrun : Run (restartable config) (.initial config) history s)
    {x : Nat} {call : Pairing.Challenges.ClaimCall Digest (sql config.codec)}
    {credential : Pairing.Challenges.DeviceCredential}
    (hcall : s.pairing.calls x = some (.claim call))
    (hreturned : call.stage = .finished (.ok (some credential))) :
    ∃ c challenge record newer older,
      pairingLog (sinceStart history) = newer ++ .claimed x c credential :: older ∧
      .created c challenge record ∈ pairingLog (sinceStart history) ∧
      challenge.id = call.pairingId ∧
      Pairing.Contract.ClaimOk config.pairing older x c credential := by
  have hinv := (inv_of_lifetime hrun).pairing
  obtain ⟨c, hclaimed, challenge, record, hcreated, hid⟩ :=
    hinv.returned x call credential hcall hreturned
  obtain ⟨newer, older, hlog⟩ := List.append_of_mem hclaimed
  exact ⟨c, challenge, record, newer, older, hlog, hcreated, hid,
    hinv.claims newer older x c credential hlog⟩

end Grants

section Samples

/-- The process dies after the last of the actions, and the new one goes on. -/
def sampleRestarted (before after : List (Action sampleService)) :
    List (Option (Action sampleService)) :=
  before.map some ++ none :: after.map some

/-- A revocation writes its record and is cut short. -/
def sampleCutShort : List (Action sampleService) :=
  sampleDispatched ++ sampleCall 5 (.revokeDevice sampleDevice) ++
    [.perform 5 .completed, .proceed 5 sampleInputs, .perform 5 .completed]

def recordsRevocation (s : State sampleService) : Bool :=
  (s.tables.devices.lookup sampleDevice).any fun row => row.revokedAt.isSome

def revokedAtStart (history : Lifetime sampleService) : Bool :=
  match history with
  | ⟨s, none, _, _⟩ :: _ => recordsRevocation s
  | _ => false

theorem revokedBeforeStart_of_test {history : Lifetime sampleService}
    (h : revokedAtStart history = true) : RevokedBeforeStart sampleDevice history := by
  unfold revokedAtStart at h
  split at h
  · rename_i s events t older
    obtain ⟨row, hrow, hrevoked⟩ := (Option.any_eq_true _ _).mp h
    exact ⟨events, s, t, older, rfl, row, hrow, hrevoked⟩
  · cases h

theorem revocation_outlives_restarts_cut_short :
    ∃ earlier s₀ later s, Run (restartable sampleService) (.initial sampleService) earlier s₀ ∧
      Run (restartable sampleService) s₀ later s ∧ later ≠ [] ∧ ShutOut sampleDevice s later := by
  obtain ⟨earlier, s₀, hearlier, htest⟩ := exists_run_of_replay
    (S := restartable sampleService) (s := .initial sampleService) (sampleRestarted sampleCutShort [])
    (fun history s => revokedAtStart history && (replay (restartable sampleService) s
      ((sampleCall 0 (.connectDevice sampleDevice 1)).map some)).any fun r => !r.1.isEmpty)
    (by decide)
  simp only [Bool.and_eq_true] at htest
  obtain ⟨hrevoked, hreplay⟩ := htest
  obtain ⟨later, s, hlater, hsome⟩ := exists_run_of_replay _ (fun history _ => !history.isEmpty)
    hreplay
  refine ⟨earlier, s₀, later, s, hearlier, hlater, ?_, revocation_outlives_restarts hearlier
    (.inr (revokedBeforeStart_of_test hrevoked)) hlater⟩
  rintro rfl
  cases hsome

theorem tokens_survive_restarts_paired :
    ∃ history s, Run (restartable sampleService) (.initial sampleService) history s ∧
      (history.any fun u => u.action.isNone) = true ∧
      s.tables.authenticate sampleService.codec sampleToken = some sampleDevice ∧
      Since (RegistersToken sampleToken sampleDevice) (Strips sampleDevice)
        (stepsTaken history) := by
  obtain ⟨history, s, hrun, htest⟩ := exists_run_of_replay
    (S := restartable sampleService) (s := .initial sampleService) (sampleRestarted samplePaired [])
    (fun history s => (history.any fun u => u.action.isNone) &&
      s.tables.authenticate sampleService.codec sampleToken == some sampleDevice) (by decide)
  simp only [Bool.and_eq_true, beq_iff_eq] at htest
  exact ⟨history, s, hrun, htest.1, htest.2,
    ((tokens_survive_restarts hrun).1 sampleToken sampleDevice).mp htest.2⟩

def sampleServed : List (Action sampleService) :=
  sampleCall 2 (.connectDevice sampleDevice 0) ++
    sampleCall 3 (.activateDevice sampleDevice sampleSession {.system, .files}) ++
    sampleCall 4 (.executeCommand sampleDevice .system "get_info" [])

def dispatchesAfterRestart (history : Lifetime sampleService) : Bool :=
  match history with
  | ⟨_, some _, [.transport (.sendCommand _ _ command _)], _⟩ :: _ =>
      command.deviceId = sampleDevice
  | _ => false

theorem grants_survive_restarts_served :
    ∃ history s, Run (restartable sampleService) (.initial sampleService) history s ∧
      dispatchesAfterRestart history = true ∧
      (∀ u ∈ history, ∀ x transport command sessionId,
        .transport (.sendCommand x transport command sessionId) ∈ u.events →
          RegisteredWith (stepsTaken history) command.deviceId (fun granted =>
            command.capability ∈ granted) ∧
          CapabilityRegistry.allows sampleService.definitions command.capability command.action =
            true) ∧
      ∀ d k, s.manager.connections.lookup d = some k →
        RegisteredWith (stepsTaken history) d fun granted =>
          k.effectiveCapabilities = k.advertisedCapabilities ∩ granted := by
  obtain ⟨history, s, hrun, htest⟩ := exists_run_of_replay
    (S := restartable sampleService) (s := .initial sampleService)
    (sampleRestarted samplePaired sampleServed)
    (fun history _ => dispatchesAfterRestart history) (by decide)
  exact ⟨history, s, hrun, htest, grants_survive_restarts hrun⟩

def claimReturned (s : State sampleService) : Bool :=
  match s.pairing.calls 1 with
  | some (.claim ⟨_, _, _, _, .finished (.ok (some _))⟩) => true
  | _ => false

theorem exists_of_claimReturned {s : State sampleService} (h : claimReturned s = true) :
    ∃ call credential, s.pairing.calls 1 = some (.claim call) ∧
      call.stage = .finished (.ok (some credential)) := by
  unfold claimReturned at h
  split at h
  · rename_i pairingId secret name registration credential hcall
    exact ⟨_, credential, hcall, rfl⟩
  · cases h

/-- The challenge of the old process is void, and a new one is claimed. -/
theorem claims_stay_in_process_renewed :
    ∃ history s, Run (restartable sampleService) (.initial sampleService) history s ∧
      ∃ c challenge record call credential newer older,
        pairingLog (sinceStart history) = newer ++ .claimed 1 c credential :: older ∧
        .created c challenge record ∈ pairingLog (sinceStart history) ∧
        challenge.id = call.pairingId ∧
        s.pairing.calls 1 = some (.claim call) ∧
        Pairing.Contract.ClaimOk sampleService.pairing older 1 c credential := by
  obtain ⟨history, s, hrun, htest⟩ := exists_run_of_replay
    (S := restartable sampleService) (s := .initial sampleService)
    (sampleRestarted [.createPairing 0 {.files} ⟨1⟩ "pairing secret 01" ⟨0, some 0⟩] samplePaired)
    (fun _ s => claimReturned s) (by decide)
  obtain ⟨call, credential, hcall, hreturned⟩ := exists_of_claimReturned htest
  obtain ⟨c, challenge, record, newer, older, hlog, hcreated, hid, hok⟩ :=
    claims_stay_in_process hrun hcall hreturned
  exact ⟨history, s, hrun, c, challenge, record, call, credential, newer, older, hlog, hcreated,
    hid, hcall, hok⟩

end Samples

end JarvisCore.Service.Restarts
