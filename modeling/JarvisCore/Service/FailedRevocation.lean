import JarvisCore.Manager.Deadlines
import JarvisCore.Service.CallSteps
import JarvisCore.Service.GrantContainment

namespace JarvisCore.Service.FailedRevocation

open JarvisCore.Domain.Values
open JarvisCore.Domain.Errors
open JarvisCore.Domain.Models
open JarvisCore.Foundation.Dictionary
open JarvisCore.Foundation.TransitionSystem
open JarvisCore.Manager.Deadlines (reachesSend_of_sends)
open JarvisCore.Manager.Execution (admission_eq_ok resumeLock_cases)
open JarvisCore.Manager.Operations (AdmittedCall ExecuteCall LiveConnection)
open JarvisCore.Pairing.Backends
open JarvisCore.Pairing.DurableClaim (Issued Commits stagedRows)
open JarvisCore.Security.Credentials
open JarvisCore.Security.DeviceTables
open JarvisCore.Security.DeviceRecords
open JarvisCore.Service.Operations
open JarvisCore.Service.Effects
open JarvisCore.Service.Invariant
open JarvisCore.Service.CallSteps

variable {Digest : Type} {config : Config Digest}

/-- The awaited operation has taken effect, whatever the task gets to know of it. -/
def TakesEffect : AwaitOutcome → Prop
  | .completed => True
  | .interrupted _ applied => applied = true

/-- `identity.revoke(d)` takes effect. -/
def Strips (d : UUID) (u : Step config) : Prop :=
  ∃ x outcome request device, u.action = .perform x outcome ∧ TakesEffect outcome ∧
    u.source.calls x = some ⟨request, .awaitingRevoke d device none⟩

/-- `registry.save` of the revoked device takes effect. -/
def Records (d : UUID) (u : Step config) : Prop :=
  ∃ x outcome request device, u.action = .perform x outcome ∧ TakesEffect outcome ∧
    u.source.calls x = some ⟨request, .awaitingSave d device none⟩

def Writing : Stage → Prop
  | .awaitingRevoke _ _ none | .awaitingSave _ _ none => True
  | _ => False

/-- The step is one of a claim that has the rows to write. -/
def Registering (u : Step config) (call : Pairing.Challenges.ClaimCall Digest (sql config.codec))
    (rows : Sql.Rows Digest) : Prop :=
  ∃ action, pairingAction u.action = some action ∧
    u.source.pairing.calls (Pairing.Challenges.actor action) = some (.claim call) ∧
    stagedRows (.claim call) = some rows

inductive Writes (u : Step config) : Prop
  | nothing : u.target.tables = u.source.tables → (∀ d, ¬ Strips d u) → (∀ d, ¬ Records d u) →
      Writes u
  | registers (call : Pairing.Challenges.ClaimCall Digest (sql config.codec))
      (rows : Sql.Rows Digest) : Registering u call rows → rows.device.revokedAt = none →
      u.source.tables.register rows.device rows.issued rows.createdAt = some u.target.tables →
      (∀ d, ¬ Strips d u) → (∀ d, ¬ Records d u) → Writes u
  | strips (d : UUID) : Strips d u → (∀ d', Strips d' u → d' = d) → (∀ d', ¬ Records d' u) →
      u.target.tables = u.source.tables.revoke d → (u.source.tables.devices.lookup d).isSome →
      Writes u
  | records (device : Device) : Records device.id u → (∀ d, Records d u → d = device.id) →
      (∀ d, ¬ Strips d u) → u.source.tables.save device = .ok u.target.tables →
      device.status = .revoked → HasGrants u.source.tables device.id device.grantedCapabilities →
      Writes u

section Steps

variable {log : List (Pairing.Challenges.Event Digest)} {s t : State config}
  {action : Action config} {events : List (Event Digest)}

theorem writeAnswer_ok (tables tables' : Tables Digest) (outcome : AwaitOutcome) :
    (TakesEffect outcome ∧ (writeAnswer tables (.ok tables') outcome).1 = tables') ∨
      (¬ TakesEffect outcome ∧ (writeAnswer tables (.ok tables') outcome).1 = tables) := by
  cases outcome with
  | completed => exact .inl ⟨trivial, rfl⟩
  | interrupted error applied =>
      cases applied with
      | true => exact .inl ⟨rfl, rfl⟩
      | false => exact .inr ⟨Bool.false_ne_true, rfl⟩

theorem save_of_hasGrants {tables : Tables Digest} {device : Device}
    (h : HasGrants tables device.id device.grantedCapabilities) :
    ∃ tables', tables.save device = .ok tables' := by
  obtain ⟨_, _, _, hrow⟩ := h
  unfold Tables.save
  rw [hrow]
  exact ⟨_, rfl⟩

theorem isSome_of_hasGrants {tables : Tables Digest} {d : UUID}
    {granted : Finset DeviceCapability} (h : HasGrants tables d granted) :
    (tables.devices.lookup d).isSome := by
  obtain ⟨_, _, _, hrow⟩ := h
  rw [hrow]
  rfl

theorem writes_nothing {u : Step config} (htables : u.target.tables = u.source.tables)
    (h : ∀ x outcome request stage, u.action = .perform x outcome → TakesEffect outcome →
      u.source.calls x = some ⟨request, stage⟩ → ¬ Writing stage) : Writes u := by
  refine .nothing htables ?_ ?_
  · rintro d ⟨x, outcome, request, device, haction, heffect, hcall⟩
    exact h x outcome request _ haction heffect hcall trivial
  · rintro d ⟨x, outcome, request, device, haction, heffect, hcall⟩
    exact h x outcome request _ haction heffect hcall trivial

def writingOf : Stage → Option (Bool × UUID)
  | .awaitingRevoke d _ none => some (false, d)
  | .awaitingSave d _ none => some (true, d)
  | _ => none

variable [DecidableEq Digest]

theorem perform_writes (hinv : Inv log s) {x : Nat} {request : Request} {stage : Stage}
    {outcome : AwaitOutcome} (hcall : s.calls x = some ⟨request, stage⟩)
    (h : perform s x ⟨request, stage⟩ outcome = some (t, events)) :
    Writes (⟨s, .perform x outcome, events, t⟩ : Step config) := by
  have only {y : Nat} {outcome' : AwaitOutcome} {request' : Request} {stage' : Stage}
      (haction : (Action.perform x outcome : Action config) = .perform y outcome')
      (hy : s.calls y = some ⟨request', stage'⟩) :
      outcome' = outcome ∧ request' = request ∧ stage' = stage := by
    cases haction
    rw [hcall] at hy
    cases hy
    exact ⟨rfl, rfl, rfl⟩
  have hok := hinv.calls x _ hcall
  have strips_iff : ∀ d, Strips d (⟨s, .perform x outcome, events, t⟩ : Step config) →
      writingOf stage = some (false, d) := by
    rintro d ⟨y, outcome', request', device', haction, -, hy⟩
    obtain ⟨-, -, rfl⟩ := only haction hy
    rfl
  have records_iff : ∀ d, Records d (⟨s, .perform x outcome, events, t⟩ : Step config) →
      writingOf stage = some (true, d) := by
    rintro d ⟨y, outcome', request', device', haction, -, hy⟩
    obtain ⟨-, -, rfl⟩ := only haction hy
    rfl
  have idle (hidle : ¬ TakesEffect outcome ∨ ¬ Writing stage) (htables : t.tables = s.tables) :
      Writes (⟨s, .perform x outcome, events, t⟩ : Step config) := by
    refine writes_nothing htables fun y outcome' request' stage' haction heffect hy hwriting => ?_
    obtain ⟨rfl, -, rfl⟩ := only haction hy
    exact hidle.elim (absurd heffect) (absurd hwriting)
  unfold perform at h
  split at h
  · rename_i token hstage
    obtain rfl := hstage
    cases h
    exact idle (.inr id) rfl
  · rename_i d hstage
    obtain rfl := hstage
    cases h
    exact idle (.inr id) rfl
  · rename_i d device hstage
    obtain rfl := hstage
    cases h
    obtain ⟨-, rfl, hgrants, -⟩ := hok.revoking d device none rfl
    rcases writeAnswer_ok s.tables (s.tables.revoke device.id) outcome with
      ⟨heffect, htables⟩ | ⟨hidle, htables⟩
    · refine .strips device.id ⟨x, outcome, request, device, rfl, heffect, hcall⟩ ?_ ?_ htables
        (isSome_of_hasGrants hgrants)
      · intro d hstrips
        exact (congrArg Prod.snd (Option.some.inj (strips_iff d hstrips))).symm
      · intro d hrecords
        exact absurd (congrArg Prod.fst (Option.some.inj (records_iff d hrecords))) Bool.false_ne_true
    · exact idle (.inl hidle) htables
  · rename_i d device hstage
    obtain rfl := hstage
    cases h
    obtain ⟨-, rfl, hgrants, hstatus, -⟩ := hok.saving d device none rfl
    obtain ⟨tables', hsave⟩ := save_of_hasGrants hgrants
    have hanswer := writeAnswer_ok s.tables tables' outcome
    rw [← hsave] at hanswer
    rcases hanswer with ⟨heffect, htables⟩ | ⟨hidle, htables⟩
    · refine .records device ⟨x, outcome, request, device, rfl, heffect, hcall⟩ ?_ ?_
        (hsave.trans (congrArg _ htables.symm)) hstatus hgrants
      · intro d hrecords
        exact (congrArg Prod.snd (Option.some.inj (records_iff d hrecords))).symm
      · intro d hstrips
        exact absurd (congrArg Prod.fst (Option.some.inj (strips_iff d hstrips))).symm
          Bool.false_ne_true
    · exact idle (.inl hidle) htables
  · cases h

theorem step_writes (hinv : Inv log s) (h : step s action = some (t, events)) :
    Writes (⟨s, action, events, t⟩ : Step config) := by
  by_cases hperform : ∃ x outcome, action = .perform x outcome
  · obtain ⟨x, outcome, rfl⟩ := hperform
    simp only [step, pairingAction, onCall] at h
    split at h
    · rename_i call hcall
      exact perform_writes hinv hcall h
    · cases h
  have hne : ∀ x outcome, action ≠ .perform x outcome := fun x outcome haction =>
    hperform ⟨x, outcome, haction⟩
  have idle (hsame : t.pairing = s.pairing) : Writes (⟨s, action, events, t⟩ : Step config) :=
    writes_nothing (by rw [State.tables, State.tables, hsame]) fun x outcome _ _ haction =>
      absurd haction (hne x outcome)
  cases step_effect h with
  | pairs _ action' pairing events haction hstep =>
      rcases hinv.pairs_store hstep with hsame | ⟨registration, rows, hcommits, hnew⟩
      · exact writes_nothing hsame fun x outcome _ _ h => absurd h (hne x outcome)
      · obtain ⟨call, hcall, -, hstage⟩ := hcommits.call
        refine .registers call rows ⟨action', haction, hcall, ?_⟩ hnew hcommits.committed ?_ ?_
        · obtain ⟨pairingId, secret, name, registration, stage⟩ := call
          obtain rfl := hstage
          rfl
        · rintro d ⟨x, outcome, -, -, h, -⟩
          exact hne x outcome h
        · rintro d ⟨x, outcome, -, -, h, -⟩
          exact hne x outcome h
  | passes | begins | queues | enters | leaves => exact idle rfl
  | performs x request stage stage' tables outcome => exact absurd rfl (hne x outcome)
  | proceeds x request stage r inputs hcall hproceeds => exact idle (proceeds_pairing hproceeds)
  | closes => exact idle (finish_pairing _ _ _ _)

end Steps

section Credentials

variable {tables tables' : Tables Digest} {d : UUID}

/-- The rows of the device are still there. -/
def Keeps (d : UUID) (tables tables' : Tables Digest) : Prop :=
  ∀ c r, r.deviceId = d → tables.credentials.lookup c = some r →
    tables'.credentials.lookup c = some r

theorem Keeps.authenticate [DecidableEq Digest] (hkeeps : Keeps d tables tables')
    (codec : DeviceCredentialCodec Digest) {token : String}
    (h : tables.authenticate codec token = some d) : tables'.authenticate codec token = some d := by
  obtain ⟨c, hparse, hrow⟩ := (Tables.authenticate_eq_some codec).mp h
  obtain ⟨r, hr, hsome⟩ := Option.map_eq_some_iff.mp hrow
  have hd : r.deviceId = d := congrArg Prod.fst hsome
  refine (Tables.authenticate_eq_some codec).mpr ⟨c, hparse, ?_⟩
  rw [hkeeps c r hd hr]
  exact congrArg some hsome

theorem revoke_keeps {d' : UUID} (hd : d ≠ d') : Keeps d tables (tables.revoke d') := by
  rintro c r rfl hr
  rw [Tables.revoke_lookup, hr]
  simp [hd]

theorem save_keeps {device : Device} (h : tables.save device = .ok tables') :
    Keeps d tables tables' := by
  intro c r _ hr
  rw [save_eq h]
  exact hr

theorem register_keeps {device : Device} {issued : IssuedDeviceCredential Digest}
    {createdAt : AwareDatetime} (h : tables.register device issued createdAt = some tables') :
    Keeps d tables tables' := by
  obtain ⟨-, hfree, -, -, hcredentials⟩ := Tables.register_eq_some h
  intro c r _ hr
  rw [hcredentials, Dict.lookup_insert_eq, if_neg]
  · exact hr
  · rintro rfl
    rw [hfree] at hr
    cases hr

theorem register_authenticates [DecidableEq Digest] {codec : DeviceCredentialCodec Digest}
    {device : Device} {issued : IssuedDeviceCredential Digest} {createdAt : AwareDatetime}
    (h : tables.register device issued createdAt = some tables') {credentialId : UUID}
    {tokenSecret : String} (hissued : codec.issue credentialId tokenSecret = .ok issued)
    (hfits : issued.token.length ≤ 256) :
    tables'.authenticate codec issued.token = some device.id := by
  obtain ⟨-, -, -, -, hcredentials⟩ := Tables.register_eq_some h
  obtain ⟨-, -, -, -, hdigest⟩ := DeviceCredentialCodec.issue_eq_ok hissued
  refine (Tables.authenticate_eq_some codec).mpr
    ⟨issued.id, DeviceCredentialCodec.parseTokenId_of_issue hissued hfits, ?_⟩
  rw [hcredentials, Dict.lookup_insert_eq, if_pos rfl, ← hdigest]
  rfl

end Credentials

variable [DecidableEq Digest]

/-- The tokens that pairing issues are short enough to be parsed again. -/
def TokensFit (history : List (Step config)) : Prop :=
  ∀ u ∈ history, ∀ call rows, Registering u call rows → rows.issued.token.length ≤ 256

/-- The tables tell which of the operations of revocations have taken effect. -/
structure Tracks (history : List (Step config)) (s : State config) : Prop where
  issued : Issued s.pairing
  active : ∀ d, (s.tables.devices.lookup d).isSome → (∀ u ∈ history, ¬ Strips d u) →
    ∃ token, s.tables.authenticate config.codec token = some d
  owned : ∀ c r, s.tables.credentials.lookup c = some r →
    (s.tables.devices.lookup r.deviceId).isSome
  stripped : ∀ d, (∃ u ∈ history, Strips d u) → Stripped s.tables d
  recorded : ∀ d, Revoked s.tables d ↔ ∃ u ∈ history, Records d u

/-- What the writes of a step mean for one device. -/
structure Written (u : Step config) (d : UUID) : Prop where
  keeps : ¬ Strips d u → Keeps d u.source.tables u.target.tables
  registered : (u.target.tables.devices.lookup d).isSome →
    (u.source.tables.devices.lookup d).isSome ∨
      ∃ token, u.target.tables.authenticate config.codec token = some d
  remains : (u.source.tables.devices.lookup d).isSome → (u.target.tables.devices.lookup d).isSome
  owned : ∀ c r, u.target.tables.credentials.lookup c = some r → r.deviceId = d →
    u.source.tables.credentials.lookup c = some r ∨ (u.target.tables.devices.lookup d).isSome
  stripped : Strips d u → Stripped u.target.tables d
  revoked : Revoked u.target.tables d ↔ Records d u ∨ Revoked u.source.tables d

section Written

variable {u : Step config} {d : UUID}

theorem written_of_unchanged (htables : u.target.tables = u.source.tables)
    (hstrips : ¬ Strips d u) (hrecords : ¬ Records d u) : Written u d where
  keeps _ c r _ hr := by rwa [htables]
  registered hsome := by
    rw [htables] at hsome
    exact .inl hsome
  remains hsome := by rwa [htables]
  owned c r hr _ := by
    rw [htables] at hr
    exact .inl hr
  stripped h := absurd h hstrips
  revoked := by
    rw [htables]
    simp [hrecords]

theorem written_of_register {device : Device} {issued : IssuedDeviceCredential Digest}
    {createdAt : AwareDatetime} {credentialId : UUID} {tokenSecret : String}
    (hregister : u.source.tables.register device issued createdAt = some u.target.tables)
    (hnew : device.revokedAt = none)
    (hcodec : config.codec.issue credentialId tokenSecret = .ok issued)
    (hshort : issued.token.length ≤ 256) (hstrips : ¬ Strips d u) (hrecords : ¬ Records d u) :
    Written u d where
  keeps _ := register_keeps hregister
  registered hsome := by
    rw [register_lookup hregister] at hsome
    split at hsome
    · rename_i hd
      exact .inr ⟨_, hd ▸ register_authenticates hregister hcodec hshort⟩
    · exact .inl hsome
  remains hsome := by rwa [register_of_isSome hregister hsome]
  owned c r hr hd := by
    obtain ⟨-, -, -, -, hcredentials⟩ := Tables.register_eq_some hregister
    rw [hcredentials, Dict.lookup_insert_eq] at hr
    split at hr
    · cases hr
      right
      rw [register_lookup hregister, if_pos hd.symm]
      rfl
    · exact .inl hr
  stripped h := absurd h hstrips
  revoked := by
    rw [register_revoked_iff hregister hnew]
    simp [hrecords]

/-- `credentials.revoke` takes the credentials of one device and writes no row of a device. -/
theorem written_of_revoke {d' : UUID} (htables : u.target.tables = u.source.tables.revoke d')
    (hregistered : (u.source.tables.devices.lookup d').isSome) (hstrips : Strips d' u)
    (honly : Strips d u → d = d') (hrecords : ¬ Records d u) : Written u d where
  keeps hnot := by
    rw [htables]
    refine revoke_keeps ?_
    rintro rfl
    exact hnot hstrips
  registered hsome := by
    rw [htables] at hsome
    exact .inl hsome
  remains hsome := by rwa [htables]
  owned c r hr _ := by
    rw [htables, Tables.revoke_lookup, Option.filter_eq_some_iff] at hr
    exact .inl hr.1
  stripped h := by
    obtain rfl := honly h
    rw [htables]
    exact revoke_stripped d hregistered
  revoked := by
    rw [htables]
    simp only [hrecords, false_or]
    exact Iff.rfl

theorem written_of_save {device : Device} (hsave : u.source.tables.save device = .ok u.target.tables)
    (hstatus : device.status = .revoked)
    (hgrants : HasGrants u.source.tables device.id device.grantedCapabilities)
    (hrecords : Records device.id u) (honly : Records d u → d = device.id)
    (hstrips : ¬ Strips d u) : Written u d where
  keeps _ := save_keeps hsave
  registered hsome := by
    rw [save_lookup hsave] at hsome
    split at hsome
    · rename_i hd
      exact .inl (hd ▸ isSome_of_hasGrants hgrants)
    · exact .inl hsome
  remains hsome := by
    rw [save_lookup hsave]
    split
    · rfl
    · exact hsome
  owned c r hr _ := by
    rw [save_eq hsave] at hr
    exact .inl hr
  stripped h := absurd h hstrips
  revoked := by
    obtain ⟨-, hrevoked⟩ := save_grows hsave hgrants hstatus
    by_cases hd : d = device.id
    · rw [hd]
      exact iff_of_true hrevoked (.inl hrecords)
    · rw [save_revoked_iff hsave hd]
      exact ⟨.inr, fun h => h.resolve_left fun h => hd (honly h)⟩

end Written

theorem Writes.written {u : Step config} (h : Writes u) (hissued : Issued u.source.pairing)
    (hfits : ∀ call rows, Registering u call rows → rows.issued.token.length ≤ 256) (d : UUID) :
    Written u d := by
  cases h with
  | nothing htables hstrips hrecords => exact written_of_unchanged htables (hstrips d) (hrecords d)
  | registers call rows hregistering hnew hregister hstrips hrecords =>
      have hshort := hfits call rows hregistering
      obtain ⟨action, -, hcall, hrows⟩ := hregistering
      obtain ⟨credentialId, tokenSecret, hcodec⟩ := hissued _ call rows hcall hrows
      exact written_of_register hregister hnew hcodec hshort (hstrips d) (hrecords d)
  | strips d' hstrips honly hrecords htables hregistered =>
      exact written_of_revoke htables hregistered hstrips (honly d) (hrecords d)
  | records device hrecords honly hstrips hsave hstatus hgrants =>
      exact written_of_save hsave hstatus hgrants hrecords (honly d) (hstrips d)

theorem Tracks.step {history : List (Step config)} {s t : State config} {action : Action config}
    {events : List (Event Digest)} (htracks : Tracks history s) (hinv : Inv (pairingLog history) s)
    (h : step s action = some (t, events))
    (hfits : TokensFit (⟨s, action, events, t⟩ :: history)) :
    Tracks (⟨s, action, events, t⟩ :: history) t := by
  have hwritten := (step_writes hinv h).written htracks.issued (hfits _ List.mem_cons_self)
  have hgrows := (step_tables hinv h).1
  refine ⟨?_, ?_, ?_, ?_, ?_⟩
  · cases step_effect h with
    | pairs _ action' pairing events _ hstep => exact htracks.issued.step hinv.pairing hstep
    | passes | begins | queues | enters | leaves | performs => exact htracks.issued
    | proceeds x request stage r inputs hcall hproceeds =>
        rw [proceeds_pairing hproceeds]
        exact htracks.issued
    | closes x request value outcome =>
        rw [finish_pairing]
        exact htracks.issued
  · intro d hsome hnone
    rw [List.forall_mem_cons] at hnone
    rcases (hwritten d).registered hsome with hsome | hnew
    · obtain ⟨token, htoken⟩ := htracks.active d hsome hnone.2
      exact ⟨token, ((hwritten d).keeps hnone.1).authenticate config.codec htoken⟩
    · exact hnew
  · intro c r hr
    rcases (hwritten r.deviceId).owned c r hr rfl with hold | hnow
    · exact (hwritten r.deviceId).remains (htracks.owned c r hold)
    · exact hnow
  · rintro d ⟨u, hu, hstrips⟩
    rcases List.mem_cons.mp hu with rfl | hu
    · exact (hwritten d).stripped hstrips
    · exact hgrows.stripped d (htracks.stripped d ⟨u, hu, hstrips⟩)
  · intro d
    rw [(hwritten d).revoked, htracks.recorded d]
    simp

theorem tracks_of_run {history : List (Step config)} {s : State config}
    (hrun : Run (service config) (.initial config) history s) (hfits : TokensFit history) :
    Tracks history s := by
  induction hrun with
  | nil =>
      refine ⟨?_, ?_, ?_, ?_, ?_⟩
      · intro x call rows hcall
        cases hcall
      · intro d hsome
        cases hsome
      · intro c r hr
        cases hr
      · rintro d ⟨u, hu, -⟩
        cases hu
      · intro d
        constructor
        · rintro ⟨row, hrow, -⟩
          cases hrow
        · rintro ⟨u, hu, -⟩
          cases hu
  | step action events t hprev h ih =>
      have htracks := ih fun u hu => hfits u (List.mem_cons_of_mem _ hu)
      exact htracks.step (inv_of_run hprev) h hfits

section OwnSteps

variable {log : List (Pairing.Challenges.Event Digest)} {s t : State config}
  {action : Action config} {events : List (Event Digest)}

/-- A revocation touches the manager only once the device is recorded as revoked. -/
theorem own_step (hinv : Inv log s) (h : step s action = some (t, events)) {x : Nat}
    (hown : callOf action = some x) {d : UUID} {stage : Stage}
    (hcall : t.calls x = some ⟨.revokeDevice d, stage⟩) :
    t.manager = s.manager ∨ Revoked s.tables d := by
  cases step_effect h with
  | pairs _ action' pairing events haction =>
      cases action <;> simp [callOf] at hown <;> cases haction
  | passes => cases hown
  | begins | queues | enters | leaves | performs => exact .inl rfl
  | closes y request value outcome => exact .inl (finish_manager s y request outcome)
  | proceeds y request stage₀ r inputs hy hproceeds =>
      obtain rfl : y = x := Option.some.inj hown
      have hok := hinv.calls y _ hy
      obtain ⟨stage', hy'⟩ := step_keeps hinv h hy
      obtain rfl : request = .revokeDevice d :=
        congrArg Call.request (Option.some.inj (hy'.symm.trans hcall))
      cases hproceeds with
      | refuses | reads => exact .inl (finish_manager s y _ _)
      | identifies | strips | saves => exact .inl rfl
      | disconnects _ d' d'' device manager events r hstage =>
          right
          rcases hstage with ⟨-, rfl, hstatus⟩ | rfl
          · obtain rfl := hok.target d' _ rfl d rfl
            exact (hok.read d device rfl).2.2 hstatus
          · obtain ⟨hrequest, -, -, -, -, hrevoked⟩ := hok.saving d' device _ rfl
            cases hrequest
            exact hrevoked rfl
      | connects _ _ _ _ _ _ _ _ _ hrequest => cases hrequest
      | activates _ _ _ _ _ _ _ hrequest => cases hrequest
      | executes _ _ _ _ _ _ _ _ _ _ hrequest => cases hrequest

end OwnSteps

/-- No step of the call has changed the connections or their commands. -/
def Untouched (x : Nat) (history : List (Step config)) : Prop :=
  ∀ u ∈ history, callOf u.action = some x → u.target.manager = u.source.manager

theorem own_calls {log : List (Pairing.Challenges.Event Digest)} {s t : State config}
    {action : Action config} {events : List (Event Digest)} (hinv : Inv log s)
    (h : step s action = some (t, events)) {x : Nat} (hown : callOf action = some x) :
    t.calls x ≠ none := by
  have known {call : Call} (hcall : s.calls x = some call) : t.calls x ≠ none := by
    obtain ⟨stage, hkept⟩ := step_keeps hinv h hcall
    rw [hkept]
    exact Option.some_ne_none _
  cases action with
  | start y request =>
      obtain rfl : y = x := Option.some.inj hown
      obtain ⟨-, stage, hcall⟩ := start_calls h
      rw [hcall]
      exact Option.some_ne_none _
  | resumeLock y | cancelWaiting y | perform y _ | proceed y _ | endClose y _ =>
      obtain rfl : y = x := Option.some.inj hown
      obtain ⟨call, hcall, -⟩ := onCall_eq_some h
      exact known hcall
  | createPairing | pairDevice | resumePairing | cancelPairing | advancePairing | connections =>
      cases hown

theorem not_own_of_fresh {history : List (Step config)} {s : State config}
    (hrun : Run (service config) (.initial config) history s) {x : Nat} (hfresh : s.calls x = none) :
    ∀ u ∈ history, callOf u.action ≠ some x := by
  induction hrun with
  | nil =>
      intro u hu
      cases hu
  | @step history s action events t hprev h ih =>
      have hinv := inv_of_run hprev
      have hbefore : s.calls x = none := by
        by_contra hne
        obtain ⟨call, hcall⟩ := Option.ne_none_iff_exists'.mp hne
        obtain ⟨stage, hkept⟩ := step_keeps hinv h hcall
        rw [hfresh] at hkept
        cases hkept
      rw [List.forall_mem_cons]
      exact ⟨fun hown => own_calls hinv h hown hfresh, ih hbefore⟩

theorem untouched_of_run {history : List (Step config)} {s : State config}
    (hrun : Run (service config) (.initial config) history s) {x : Nat} {d : UUID} {stage : Stage}
    (hcall : s.calls x = some ⟨.revokeDevice d, stage⟩) :
    Untouched x history ∨ Revoked s.tables d := by
  induction hrun generalizing stage with
  | nil => cases hcall
  | @step history s action events t hprev h ih =>
      have hinv := inv_of_run hprev
      have hgrows := (step_tables hinv h).1
      have hbefore : Untouched x history ∨ Revoked s.tables d := by
        rcases step_request hinv h hcall with ⟨stage₀, hcall₀⟩ | rfl
        · exact ih hcall₀
        · left
          intro u hu hown
          exact absurd hown (not_own_of_fresh hprev (start_calls h).1 u hu)
      rcases hbefore with huntouched | hrevoked
      · by_cases hown : callOf action = some x
        · rcases own_step hinv h hown hcall with hsame | hrevoked
          · exact .inl (List.forall_mem_cons.mpr ⟨fun _ => hsame, huntouched⟩)
          · exact .inr (hgrows.revoked d hrevoked)
        · exact .inl (List.forall_mem_cons.mpr ⟨fun h => absurd h hown, huntouched⟩)
      · exact .inr (hgrows.revoked d hrevoked)

/-- An `execute_command` call that is past its read of the registry and whose command may
still go out over the connection. -/
inductive UnderWay (d : UUID) (k : LiveConnection) (s : State config) : Prop
  | read (y : Nat) (capability : DeviceCapability) (action : String)
      (arguments : PyDict) (device : Device) :
      s.calls y = some ⟨.executeCommand d capability action arguments,
        .awaitingGet d (some (.ok (some device)))⟩ →
      device.status ≠ .revoked → UnderWay d k s
  | queued (y : Nat) (call : AdmittedCall) : s.manager.calls y = some (.admitted call) →
      call.admission.command.deviceId = d → call.admission.connection = k.ref →
      call.stage = .waitingForLock → call.cancelRequested = false → UnderWay d k s
  | sending (y : Nat) (call : AdmittedCall) : s.manager.calls y = some (.admitted call) →
      call.admission.command.deviceId = d → call.admission.connection = k.ref →
      call.stage = .sending → UnderWay d k s

/-- A new `execute_command` call would get past its read of the registry. -/
def LetThrough (d : UUID) (s : State config) : Prop :=
  ∃ device, s.tables.get config.dialect d = .ok (some device) ∧ device.status ≠ .revoked

/-- A live connection through which `execute_command` can reach the device, by a new call or
by one that is under way. -/
def Reaches (d : UUID) (s : State config) : Prop :=
  ∃ k, s.manager.connections.lookup d = some k ∧ (LetThrough d s ∨ UnderWay d k s)

omit [DecidableEq Digest] in
theorem status_of_prepareCommand {manager : Manager.Operations.State} {device : Device} {d : UUID}
    {capability : DeviceCapability} {action : String} {arguments : PyDict}
    {commandId : UUID} {clock : Datetime} {command : DeviceCommand}
    (h : prepareCommand config manager device d capability action arguments commandId clock =
      .ok command) : device.status ≠ .revoked := by
  intro hrevoked
  unfold prepareCommand withRuntimeState at h
  rw [if_pos hrevoked] at h
  simp [hrevoked] at h

/-- `Reaches` misses nothing: no command is handed to a device that is out of reach. -/
theorem reaches_of_dispatch {log : List (Pairing.Challenges.Event Digest)} {s t : State config}
    {action : Action config} {events : List (Event Digest)} (hinv : Inv log s)
    (h : step s action = some (t, events)) {x transport : Nat} {command : DeviceCommand}
    {sessionId : UUID} (hsend : .transport (.sendCommand x transport command sessionId) ∈ events) :
    Reaches command.deviceId s := by
  cases step_effect h with
  | pairs => simp at hsend
  | begins | queues | enters | leaves | performs | closes => cases hsend
  | passes managerAction manager calls hpassed hstep =>
      have hcalls : .sendCommand x transport command sessionId ∈ calls := by simpa using hsend
      obtain ⟨hactor, call', hdispatches⟩ := Manager.Connections.step_dispatches hstep hcalls
      have hreaches := reachesSend_of_sends hstep hcalls
      cases managerAction with
      | resumeLock y =>
          obtain ⟨rfl, call, hcall, hcancel, -⟩ := hreaches
          obtain ⟨_, hcall', hcontinuation, -⟩ :=
            Manager.Evolution.step_continuation hstep hactor hcall
          obtain rfl := ExecuteCall.admitted.inj
            (Option.some.inj (hcall'.symm.trans hdispatches.admitted))
          have hadmission := hcontinuation.continues.admission
          obtain ⟨call₀, hcall₀, hr⟩ := Manager.Execution.onCall_eq_some hstep
          obtain rfl := ExecuteCall.admitted.inj (Option.some.inj (hcall₀.symm.trans hcall))
          obtain ⟨k, hk, href⟩ := hdispatches.current
          rw [hadmission] at hk href
          rw [← hdispatches.command, hadmission]
          exact ⟨k, hk, .inr (.queued y _ hcall rfl href.symm (resumeLock_cases hr).1 hcancel)⟩
      | execute => cases hpassed
      | connect | activate | disconnect | disconnectDevice | touch | resolve | closeAll
      | completeSend | copyResult | fireTimer | resumeWait | cancel => exact hreaches.elim
  | proceeds y request stage r inputs hcall hproceeds =>
      cases hproceeds with
      | refuses | identifies | reads | strips | saves | activates => cases hsend
      | disconnects _ _ _ _ _ _ _ _ _ _ hconcludes | connects _ _ _ _ _ _ _ _ _ _ _ _ _ hconcludes =>
          rcases hconcludes with ⟨-, rfl⟩ | ⟨_, _, _, -, rfl⟩
          · cases hsend
          · simp at hsend
      | executes d d' capability action arguments device commandId clock now command' hrequest
          hprepare =>
          obtain rfl : request = _ := hrequest
          obtain rfl := (hinv.calls y _ hcall).target d _ rfl d' rfl
          have hcalls : .sendCommand x transport command sessionId ∈
              (Manager.Execution.execute s.manager y command' config.commandTimeoutSeconds now).2 := by
            simpa using hsend
          have hstep : Manager.Execution.step s.manager
              (.execute y command' config.commandTimeoutSeconds now) =
                some (Manager.Execution.execute s.manager y command'
                  config.commandTimeoutSeconds now) := by
            simp only [Manager.Execution.step, hinv.not_executing hcall (by simp)]
          obtain ⟨-, rfl, k, hallowed, -⟩ := reachesSend_of_sends hstep hcalls
          have hk := (admission_eq_ok hallowed).1
          refine ⟨k, hk, .inr (.read y capability action arguments device ?_
            (status_of_prepareCommand hprepare))⟩
          rw [(prepareCommand_eq_ok hprepare).1]
          exact hcall

/-- After the failed call `x`, nothing has happened to the device. -/
structure Active (x : Nat) (d : UUID) (history : List (Step config)) (s : State config) : Prop where
  authenticates : ∃ token, s.tables.authenticate config.codec token = some d
  unrevoked : ∃ device, s.tables.get config.dialect d = .ok (some device) ∧
    device.status ≠ .revoked
  untouched : Untouched x history

structure ShutOut (d : UUID) (s : State config) : Prop where
  tokens : ∀ token, s.tables.authenticate config.codec token ≠ some d
  unreachable : ¬ Reaches d s

/-- The step at which `revoke_device` raises. -/
def Raises (x : Nat) (d : UUID) (u : Step config) : Prop :=
  callOf u.action = some x ∧ u.source.calls x ≠ u.target.calls x ∧
    ∃ error, u.target.calls x = some ⟨.revokeDevice d, .finished (.error error)⟩

section Raises

variable {log : List (Pairing.Challenges.Event Digest)} {s t : State config}
  {action : Action config} {events : List (Event Digest)} {x : Nat} {d : UUID}

theorem raises_manager (h : step s action = some (t, events))
    (hraises : Raises x d (⟨s, action, events, t⟩ : Step config)) : t.manager = s.manager := by
  obtain ⟨-, hmoved, error, hcall⟩ := hraises
  change s.calls x ≠ t.calls x at hmoved
  change t.calls x = _ at hcall
  have concluded {y : Nat} {request : Request} {value : Value} {manager : Manager.Operations.State}
      {calls : List Manager.Operations.TransportCall} {r : Result config}
      (hconcludes : Concludes s y request value manager calls r)
      (hcall : r.1.calls x = some ⟨.revokeDevice d, .finished (.error error)⟩)
      (hmoved : s.calls x ≠ r.1.calls x) : r.1.manager = s.manager := by
    rcases concluded_calls hconcludes hcall with ⟨-, -, hconcluding⟩ | hsame
    · exact hconcluding.elim
    · exact absurd (hsame.trans hcall.symm) hmoved
  cases step_effect h with
  | pairs | begins | queues | enters | leaves | performs => rfl
  | passes => exact absurd rfl hmoved
  | closes y request value outcome => exact finish_manager s y request outcome
  | proceeds y request stage r inputs hy hproceeds =>
      cases hproceeds with
      | refuses | reads => exact finish_manager s y _ _
      | identifies | strips | saves => rfl
      | disconnects _ _ _ _ _ _ _ _ _ _ hconcludes | connects _ _ _ _ _ _ _ _ _ _ _ _ _ hconcludes =>
          exact concluded hconcludes hcall hmoved
      | activates _ _ _ _ _ _ _ _ _ =>
          rcases finish_calls hcall with ⟨-, hfinished⟩ | hsame
          · cases hfinished
          · exact absurd (hsame.trans hcall.symm) hmoved
      | executes =>
          rcases setCall_calls hcall with ⟨-, hexecuting⟩ | hsame
          · cases hexecuting
          · exact absurd (hsame.trans hcall.symm) hmoved

theorem raises_calls (hinv : Inv log s) (h : step s action = some (t, events))
    (hraises : Raises x d (⟨s, action, events, t⟩ : Step config)) {y : Nat} {request : Request}
    {stage : Stage} (hrequest : ∀ d', request ≠ .revokeDevice d') :
    t.calls y = some ⟨request, stage⟩ ↔ s.calls y = some ⟨request, stage⟩ := by
  obtain ⟨-, hmoved, error, hcall⟩ := hraises
  change s.calls x ≠ t.calls x at hmoved
  change t.calls x = _ at hcall
  by_cases hyx : y = x
  · subst hyx
    constructor
    · intro hy
      rw [hcall] at hy
      cases hy
      exact absurd rfl (hrequest d)
    · intro hy
      obtain ⟨stage', hkept⟩ := step_keeps hinv h hy
      rw [hcall] at hkept
      cases hkept
      exact absurd rfl (hrequest d)
  have other {z : Nat} {call : Option Call}
      (hcalls : t.calls = Function.update s.calls z call) : t.calls y = s.calls y := by
    rw [hcalls]
    refine Function.update_of_ne ?_ _ _
    rintro rfl
    refine hmoved ?_
    rw [hcalls, Function.update_of_ne (Ne.symm hyx)]
  have hsame : t.calls y = s.calls y := by
    cases step_updates hinv h with
    | stays hcalls => rw [hcalls]
    | begins _ _ _ _ _ hcalls | moves _ _ _ _ _ _ hcalls | closes _ _ _ _ _ _ _ _ hcalls =>
        exact other hcalls
  rw [hsame]

theorem raises_underWay (hinv : Inv log s) (h : step s action = some (t, events))
    (hraises : Raises x d (⟨s, action, events, t⟩ : Step config)) (k : LiveConnection) :
    UnderWay d k t ↔ UnderWay d k s := by
  have hmanager := raises_manager h hraises
  have hread {y : Nat} {capability : DeviceCapability} {action : String}
      {arguments : PyDict} {stage : Stage} :
      t.calls y = some ⟨.executeCommand d capability action arguments, stage⟩ ↔
        s.calls y = some ⟨.executeCommand d capability action arguments, stage⟩ :=
    raises_calls hinv h hraises (by simp)
  constructor
  · intro hunder
    cases hunder with
    | read y capability action arguments device hy hstatus =>
        exact .read y capability action arguments device (hread.mp hy) hstatus
    | queued y call hy hd hk hstage hcancel =>
        exact .queued y call (hmanager ▸ hy) hd hk hstage hcancel
    | sending y call hy hd hk hstage => exact .sending y call (hmanager ▸ hy) hd hk hstage
  · intro hunder
    cases hunder with
    | read y capability action arguments device hy hstatus =>
        exact .read y capability action arguments device (hread.mpr hy) hstatus
    | queued y call hy hd hk hstage hcancel =>
        exact .queued y call (hmanager ▸ hy) hd hk hstage hcancel
    | sending y call hy hd hk hstage => exact .sending y call (hmanager ▸ hy) hd hk hstage

end Raises

theorem failed_revocation_iff {u : Step config} {earlier : List (Step config)} {s : State config}
    (hrun : Run (service config) (.initial config) (u :: earlier) s)
    (hfits : TokensFit (u :: earlier)) {x : Nat} {d : UUID} (hraises : Raises x d u) :
    (Active x d (u :: earlier) s ∨ ShutOut d s) ↔
      ((∃ v ∈ u :: earlier, Strips d v) → ∀ k, u.source.manager.connections.lookup d = some k →
        (∃ v ∈ u :: earlier, Records d v) ∧ ¬ UnderWay d k u.source) := by
  have hinv := inv_of_run hrun
  have htracks := tracks_of_run hrun hfits
  have hrecorded := htracks.recorded d
  have hread : ∀ {device}, s.tables.get config.dialect d = .ok (some device) →
      (device.status = .revoked ↔ Revoked s.tables d) := fun hget =>
    (get_eq_some hinv.durable hget).2.2
  have huntouched {stage : Stage} (hcall : s.calls x = some ⟨.revokeDevice d, stage⟩) :=
    untouched_of_run hrun hcall
  cases hrun with
  | @step _ s₀ action events t hprev h =>
  have hmanager : s.manager = s₀.manager := raises_manager h hraises
  have hunderWay : ∀ k, UnderWay d k s ↔ UnderWay d k s₀ :=
    raises_underWay (inv_of_run hprev) h hraises
  obtain ⟨-, -, error, hcall⟩ := hraises
  constructor
  · rintro (hactive | hshut) hstrips k hlive
    · obtain ⟨token, htoken⟩ := hactive.authenticates
      exact absurd htoken (authenticate_ne config.codec (htracks.stripped d hstrips) token)
    · have hlive : s.manager.connections.lookup d = some k := hmanager ▸ hlive
      constructor
      · by_contra hrecords
        obtain ⟨device, hget⟩ :=
          exists_get config.dialect hinv.durable (htracks.stripped d hstrips).registered
        have hstatus : device.status ≠ .revoked := mt (hread hget).mp (mt hrecorded.mp hrecords)
        exact hshut.unreachable ⟨k, hlive, .inl ⟨device, hget, hstatus⟩⟩
      · intro hunder
        exact hshut.unreachable ⟨k, hlive, .inr ((hunderWay k).mpr hunder)⟩
  · intro hcondition
    by_cases hstrips : ∃ v ∈ (⟨s₀, action, events, s⟩ : Step config) :: earlier, Strips d v
    · right
      refine ⟨authenticate_ne config.codec (htracks.stripped d hstrips), ?_⟩
      rintro ⟨k, hlive, hreach⟩
      obtain ⟨hrecords, hnone⟩ := hcondition hstrips k (hmanager ▸ hlive)
      rcases hreach with ⟨device, hget, hstatus⟩ | hunder
      · exact hstatus ((hread hget).mpr (hrecorded.mpr hrecords))
      · exact hnone ((hunderWay k).mp hunder)
    · by_cases hregistered : (s.tables.devices.lookup d).isSome
      · left
        have hnone : ∀ v ∈ (⟨s₀, action, events, s⟩ : Step config) :: earlier, ¬ Strips d v :=
          fun v hv h => hstrips ⟨v, hv, h⟩
        obtain ⟨token, htoken⟩ := htracks.active d hregistered hnone
        obtain ⟨device, hget⟩ := exists_get config.dialect hinv.durable hregistered
        have hrevoked : ¬ Revoked s.tables d := fun h =>
          authenticate_ne config.codec (hinv.stripped d h) token htoken
        exact ⟨⟨token, htoken⟩, ⟨device, hget, mt (hread hget).mp hrevoked⟩,
          (huntouched hcall).resolve_right hrevoked⟩
      · right
        constructor
        · intro token htoken
          obtain ⟨c, -, hrow⟩ := (Tables.authenticate_eq_some config.codec).mp htoken
          obtain ⟨r, hr, hsome⟩ := Option.map_eq_some_iff.mp hrow
          obtain rfl : r.deviceId = d := congrArg Prod.fst hsome
          exact hregistered (htracks.owned c r hr)
        · rintro ⟨k, hlive, -⟩
          obtain ⟨-, granted, hgrants, -⟩ := hinv.manager.connections d k hlive
          exact hregistered (isSome_of_hasGrants hgrants)

section Samples

open JarvisCore.Service.GrantContainment

def fit (history : List (Step sampleService)) : Bool :=
  history.all fun u =>
    match pairingAction u.action with
    | none => true
    | some action =>
        match u.source.pairing.calls (Pairing.Challenges.actor action) with
        | none => true
        | some call => (stagedRows call).all fun rows => rows.issued.token.length ≤ 256

theorem tokensFit_of_fit {history : List (Step sampleService)} (h : fit history = true) :
    TokensFit history := by
  rintro u hu call rows ⟨action, haction, hcall, hrows⟩
  have hall := List.all_eq_true.mp h u hu
  simp only [haction, hcall, hrows, Option.all_some, decide_eq_true_eq] at hall
  exact hall

def sampleOnline : List (Action sampleService) :=
  samplePaired ++ sampleCall 2 (.connectDevice sampleDevice 0) ++
    sampleCall 3 (.activateDevice sampleDevice sampleSession {.system, .files})

/-- `identity.revoke` is interrupted before it takes effect. -/
def sampleUnharmed : List (Action sampleService) :=
  sampleOnline ++ sampleCall 5 (.revokeDevice sampleDevice) ++
    [.perform 5 (.interrupted .cancelled false), .proceed 5 sampleInputs]

/-- The credential is gone when `registry.save` fails. -/
def sampleTorn : List (Action sampleService) :=
  sampleOnline ++ sampleCall 5 (.revokeDevice sampleDevice) ++
    [.perform 5 .completed, .proceed 5 sampleInputs,
      .perform 5 (.interrupted (.foreign "OperationalError") false), .proceed 5 sampleInputs]

def finishing : Option Call → Bool
  | some ⟨_, .finished _⟩ => true
  | _ => false

def failing : Option Call → Bool
  | some ⟨.revokeDevice d, .finished (.error _)⟩ => d = sampleDevice
  | _ => false

def raises : List (Step sampleService) → Bool
  | [] => false
  | u :: _ => callOf u.action = some 5 && !finishing (u.source.calls 5) && failing (u.target.calls 5)

theorem exists_raises {history : List (Step sampleService)} (h : raises history = true) :
    ∃ u earlier, history = u :: earlier ∧ Raises 5 sampleDevice u := by
  cases history with
  | nil => cases h
  | cons u earlier =>
      simp only [raises, Bool.and_eq_true, decide_eq_true_eq, Bool.not_eq_true'] at h
      obtain ⟨⟨hown, hbefore⟩, hafter⟩ := h
      refine ⟨u, earlier, rfl, hown, ?_, ?_⟩
      · intro hsame
        rw [hsame] at hbefore
        unfold failing at hafter
        split at hafter
        · rename_i d error hcall
          rw [hcall] at hbefore
          cases hbefore
        · cases hafter
      · unfold failing at hafter
        split at hafter
        · rename_i d error hcall
          obtain rfl : d = sampleDevice := of_decide_eq_true hafter
          exact ⟨error, hcall⟩
        · cases hafter

def strips (u : Step sampleService) : Bool :=
  match u.action with
  | .perform x outcome =>
      (match outcome with
        | .completed => true
        | .interrupted _ applied => applied) &&
      match u.source.calls x with
      | some ⟨_, .awaitingRevoke _ _ none⟩ => true
      | _ => false
  | _ => false

theorem strips_of_strips {d : UUID} {u : Step sampleService} (h : Strips d u) :
    strips u = true := by
  obtain ⟨x, outcome, request, device, haction, heffect, hcall⟩ := h
  simp only [strips, haction, hcall, Bool.and_true]
  cases outcome with
  | completed => rfl
  | interrupted error applied => exact heffect

theorem failed_revocation_unharmed :
    ∃ u earlier s, Run (service sampleService) (.initial sampleService) (u :: earlier) s ∧
      Raises 5 sampleDevice u ∧
      (Active 5 sampleDevice (u :: earlier) s ∨ ShutOut sampleDevice s) := by
  obtain ⟨history, s, hrun, htest⟩ := exists_run_of_replay (S := service sampleService)
    (s := .initial sampleService) sampleUnharmed
    (fun history _ => raises history && fit history && history.all fun u => !strips u) (by decide)
  simp only [Bool.and_eq_true] at htest
  obtain ⟨⟨hraises, hfit⟩, hharmless⟩ := htest
  obtain ⟨u, earlier, rfl, hfails⟩ := exists_raises hraises
  refine ⟨u, earlier, s, hrun, hfails, ?_⟩
  refine (failed_revocation_iff hrun (tokensFit_of_fit hfit) hfails).mpr ?_
  rintro ⟨v, hv, hstrips⟩
  have hnot := List.all_eq_true.mp hharmless v hv
  rw [strips_of_strips hstrips] at hnot
  cases hnot

def torn (s : State sampleService) : Bool :=
  s.tables.credentials.entries.isEmpty && (s.manager.connections.lookup sampleDevice).isSome &&
    match s.tables.get .postgresql sampleDevice with
    | .ok (some device) => device.status ≠ .revoked
    | _ => false

theorem failed_revocation_torn :
    ¬ ∀ u earlier s x d, Run (service sampleService) (.initial sampleService) (u :: earlier) s →
      TokensFit (u :: earlier) → Raises x d u → Active x d (u :: earlier) s ∨ ShutOut d s := by
  obtain ⟨history, s, hrun, htest⟩ := exists_run_of_replay (S := service sampleService)
    (s := .initial sampleService) sampleTorn
    (fun history s => raises history && fit history && torn s) (by decide)
  simp only [Bool.and_eq_true] at htest
  obtain ⟨⟨hraises, hfit⟩, htorn⟩ := htest
  obtain ⟨u, earlier, rfl, hfails⟩ := exists_raises hraises
  simp only [torn, Bool.and_eq_true] at htorn
  obtain ⟨⟨hstripped, hlive⟩, hrecord⟩ := htorn
  intro hclaim
  rcases hclaim u earlier s 5 sampleDevice hrun (tokensFit_of_fit hfit) hfails with hactive | hshut
  · obtain ⟨token, htoken⟩ := hactive.authenticates
    obtain ⟨c, -, hrow⟩ := (Tables.authenticate_eq_some _).mp htoken
    obtain ⟨r, hr, -⟩ := Option.map_eq_some_iff.mp hrow
    have hmem := Dict.lookup_eq_some_iff.mp hr
    rw [List.isEmpty_iff.mp hstripped] at hmem
    cases hmem
  · obtain ⟨k, hk⟩ := Option.isSome_iff_exists.mp hlive
    refine hshut.unreachable ⟨k, hk, .inl ?_⟩
    split at hrecord
    · rename_i device hget
      exact ⟨device, hget, of_decide_eq_true hrecord⟩
    · cases hrecord

end Samples

end JarvisCore.Service.FailedRevocation
