import JarvisCore.Pairing.Backends

namespace JarvisCore.Pairing.ClaimRollback

open JarvisCore.Domain.Values
open JarvisCore.Domain.Errors
open JarvisCore.Domain.Models
open JarvisCore.Foundation.AsyncIO
open JarvisCore.Foundation.Dictionary
open JarvisCore.Foundation.TransitionSystem
open JarvisCore.Pairing.Challenges
open JarvisCore.Pairing.Backends
open JarvisCore.Security.Credentials
open JarvisCore.Security.InMemoryStores

variable {Digest : Type} [DecidableEq Digest]

section Stores

def listed (stores : Stores Digest) (d : UUID) : List UUID :=
  (stores.deviceTokens.lookup d).getD []

/-- The device is registered, or a token that authenticates is listed for it. -/
def InUse (codec : DeviceCredentialCodec Digest) (stores : Stores Digest) (d : UUID) : Prop :=
  (stores.devices.lookup d).isSome ∨
    ∃ token c, codec.parseTokenId token = some c ∧ c ∈ listed stores d ∧
      (stores.authenticate codec token).isSome

/-- Nothing but what belongs to the device differs, and that is gone. -/
structure Dropped (stores : Stores Digest) (d : UUID) (rest : Stores Digest) : Prop where
  devices : ∀ k, rest.devices.lookup k = if k = d then none else stores.devices.lookup k
  credentials : ∀ c, rest.credentials.lookup c =
    (stores.credentials.lookup c).filter fun _ => c ∉ listed stores d

omit [DecidableEq Digest] in
theorem lookup_revoke (stores : Stores Digest) (d c : UUID) :
    (stores.revoke d).credentials.lookup c =
      (stores.credentials.lookup c).filter fun _ => c ∉ listed stores d :=
  Dict.lookup_filter_eq _ _ _

omit [DecidableEq Digest] in
theorem issue_eq_ok {stores rotated : Stores Digest} {d : UUID}
    {issued : IssuedDeviceCredential Digest} (h : stores.issue d issued = .ok rotated) :
    stores.credentials.lookup issued.id = none ∧ rotated.devices = stores.devices ∧
      listed rotated d = [issued.id] ∧
      ∀ c, rotated.credentials.lookup c =
        if c = issued.id then some ⟨d, issued.digest⟩
        else (stores.credentials.lookup c).filter fun _ => c ∉ listed stores d := by
  unfold Stores.issue at h
  split at h
  · cases h
  · rename_i hfree
    cases h
    refine ⟨Option.not_isSome_iff_eq_none.mp hfree, rfl, ?_, ?_⟩
    · simp [listed]
    · intro c
      rw [← lookup_revoke]
      exact Dict.lookup_insert_eq _ _ _ _

omit [DecidableEq Digest] in
theorem exists_issue {stores : Stores Digest} {issued : IssuedDeviceCredential Digest} (d : UUID)
    (h : stores.credentials.lookup issued.id = none) :
    ∃ rotated, stores.issue d issued = .ok rotated := by
  have hfree : ¬ (stores.credentials.lookup issued.id).isSome := by
    rw [h]
    exact Bool.false_ne_true
  unfold Stores.issue
  rw [if_neg hfree]
  exact ⟨_, rfl⟩

omit [DecidableEq Digest] in
theorem add_eq_ok {stores stored : Stores Digest} {device : Device}
    (h : stores.add device = .ok stored) :
    stored = { stores with devices := stores.devices.insert device.id device } := by
  unfold Stores.add at h
  split at h
  · cases h
  · cases h
    rfl

omit [DecidableEq Digest] in
/-- The rollback after `issue`, whether `add` has stored the device or not: only
`devices` may differ from what `issue` left, and only at this device. -/
theorem dropped_rollBack {stores rotated stored : Stores Digest} {d : UUID}
    {issued : IssuedDeviceCredential Digest} (hissue : stores.issue d issued = .ok rotated)
    (hcredentials : stored.credentials = rotated.credentials)
    (htokens : stored.deviceTokens = rotated.deviceTokens)
    (hdevices : ∀ k, k ≠ d → stored.devices.lookup k = rotated.devices.lookup k) :
    Dropped stores d (InMemory.rollBack stored d) := by
  obtain ⟨hfree, hsame, hlisted, hlookup⟩ := issue_eq_ok hissue
  constructor
  · intro k
    have herase : (InMemory.rollBack stored d).devices.lookup k =
        if k = d then none else stored.devices.lookup k := Dict.lookup_erase_eq _ _ _
    rw [herase]
    split
    · rfl
    · rename_i hk
      rw [hdevices k hk, hsame]
  · intro c
    have hrevoke : (InMemory.rollBack stored d).credentials.lookup c =
        (stored.credentials.lookup c).filter fun _ => c ∉ listed stored d := lookup_revoke _ _ _
    have hstored : listed stored d = [issued.id] := by
      unfold listed
      rw [htokens]
      exact hlisted
    rw [hrevoke, hstored, hcredentials, hlookup c]
    split
    · rename_i hc
      rw [hc, hfree]
      simp
    · rename_i hc
      simp [hc]

theorem Dropped.authenticate {codec : DeviceCredentialCodec Digest} {stores rest : Stores Digest}
    {d : UUID} (h : Dropped stores d rest) (token : String) :
    rest.authenticate codec token =
      if ∃ c, codec.parseTokenId token = some c ∧ c ∈ listed stores d then none
      else stores.authenticate codec token := by
  unfold Stores.authenticate
  cases codec.parseTokenId token with
  | none => simp
  | some c =>
      dsimp only
      rw [h.credentials c]
      by_cases hc : c ∈ listed stores d
      · have hgone : (stores.credentials.lookup c).filter (fun _ => decide (c ∉ listed stores d)) =
            none := by
          simp [hc]
        rw [hgone]
        simp [hc]
      · have hkept : (stores.credentials.lookup c).filter (fun _ => decide (c ∉ listed stores d)) =
            stores.credentials.lookup c := by
          cases stores.credentials.lookup c with
          | none => rfl
          | some record => simp [hc]
        rw [hkept]
        simp [hc]

/-- What is dropped with a device is nothing exactly when the device was not in use. -/
theorem Dropped.unchanged_iff {codec : DeviceCredentialCodec Digest} {stores rest : Stores Digest}
    {d : UUID} (h : Dropped stores d rest) :
    ((∀ k, rest.devices.lookup k = stores.devices.lookup k) ∧
      ∀ token, rest.authenticate codec token = stores.authenticate codec token) ↔
      ¬ InUse codec stores d := by
  constructor
  · rintro ⟨hdevices, htokens⟩ (hregistered | ⟨token, c, hparse, hlisted, hauthenticates⟩)
    · have hnone : stores.devices.lookup d = none := by
        rw [← hdevices d, h.devices d, if_pos rfl]
      rw [hnone] at hregistered
      cases hregistered
    · have hnone : stores.authenticate codec token = none := by
        rw [← htokens token, h.authenticate token, if_pos ⟨c, hparse, hlisted⟩]
      rw [hnone] at hauthenticates
      cases hauthenticates
  · intro hfree
    constructor
    · intro k
      rw [h.devices k]
      split
      · rename_i hk
        subst hk
        exact (Option.not_isSome_iff_eq_none.mp fun hsome => hfree (.inl hsome)).symm
      · rfl
    · intro token
      rw [h.authenticate token]
      split
      · rename_i hlisted
        obtain ⟨c, hparse, hc⟩ := hlisted
        have hnone : ¬ (stores.authenticate codec token).isSome := fun hsome =>
          hfree (.inr ⟨token, c, hparse, hc, hsome⟩)
        exact (Option.not_isSome_iff_eq_none.mp hnone).symm
      · rfl

end Stores

variable (config : Config Digest) (codec : DeviceCredentialCodec Digest)

/-- The whole of `claim` once it holds the lock. -/
def claim (s : State Digest (inMemory codec)) (x : Nat) (call : ClaimCall Digest (inMemory codec))
    (clock : Datetime) (setup : InMemory.Setup) (outcome : AwaitOutcome) :
    State Digest (inMemory codec) :=
  let suspended := (claimSection config s x call clock setup).1
  match suspended.calls x with
  | some (.claim resumed) =>
      match advance suspended x resumed outcome with
      | some (finished, _) => finished
      | none => suspended
  | _ => suspended

def Raises (s : State Digest (inMemory codec)) (x : Nat) : Prop :=
  ∃ call error, s.calls x = some (.claim call) ∧ call.stage = .finished (.error error)

/-- The registry, the tokens that authenticate and the challenge map are the same. -/
structure Unchanged (before after : State Digest (inMemory codec)) : Prop where
  devices : ∀ d, (Stores.devices after.store).lookup d = (Stores.devices before.store).lookup d
  authenticates : ∀ token,
    Stores.authenticate codec after.store token = Stores.authenticate codec before.store token
  pairings : ∀ p, after.pairings.lookup p = before.pairings.lookup p

/-- The claim comes to `devices.add`, with a new credential for the device. -/
structure Registers (s : State Digest (inMemory codec)) (call : ClaimCall Digest (inMemory codec))
    (clock : Datetime) (setup : InMemory.Setup) (record : PairingRecord Digest)
    (now : AwareDatetime) (device : Device) (issued : IssuedDeviceCredential Digest) : Prop where
  known : s.pairings.lookup call.pairingId = some record
  read : InMemory.readClock clock = .ok now
  current : now.instant < record.expiresAt.instant
  secret : record.secretDigest = config.digest call.secret
  named : InMemory.newDevice setup.deviceId call.deviceName record.grantedCapabilities
    setup.pairedAt = .ok device
  issues : codec.issue setup.credentialId setup.tokenSecret = .ok issued
  unused : (Stores.credentials s.store).lookup issued.id = none

/-- `add` raises: of itself, or because the await is interrupted. -/
def AddFails (stores : Stores Digest) (d : UUID) : AwaitOutcome → Prop
  | .completed => (stores.devices.lookup d).isSome
  | .interrupted _ _ => True

variable {config codec} {s : State Digest (inMemory codec)} {x : Nat}
  {call : ClaimCall Digest (inMemory codec)} {clock : Datetime} {setup : InMemory.Setup}
  {record : PairingRecord Digest} {now : AwareDatetime} {device : Device}
  {issued : IssuedDeviceCredential Digest} {outcome : AwaitOutcome}

omit [DecidableEq Digest] in
theorem calls_setCall (s : State Digest (inMemory codec)) (x : Nat)
    (call : PairingCall Digest (inMemory codec)) : (setCall s x call).calls x = some call :=
  Function.update_self _ _ _

omit [DecidableEq Digest] in
theorem start_inMemory : (inMemory codec).start = InMemory.start codec := by
  simp only [inMemory]

omit [DecidableEq Digest] in
theorem start_error {name : String} {granted : Finset DeviceCapability}
    {stores rest : Stores Digest} {error : Raised}
    (h : InMemory.start codec setup name granted now stores = (rest, .error error)) :
    rest = stores := by
  unfold InMemory.start at h
  split at h
  · cases h
    rfl
  split at h
  · cases h
    rfl
  split at h
  · cases h
    rfl
  · cases h

omit [DecidableEq Digest] in
theorem start_ok {name : String} {granted : Finset DeviceCapability} {stores rest : Stores Digest}
    {stage : InMemory.Adding}
    (h : InMemory.start codec setup name granted now stores = (rest, .ok (device, stage))) :
    ∃ issued, InMemory.newDevice setup.deviceId name granted setup.pairedAt = .ok device ∧
      codec.issue setup.credentialId setup.tokenSecret = .ok issued ∧
      stores.credentials.lookup issued.id = none := by
  unfold InMemory.start at h
  split at h
  · cases h
  rename_i named hnamed
  split at h
  · cases h
  rename_i issued hissues
  split at h
  · cases h
  · rename_i rotated hissue
    cases h
    exact ⟨issued, hnamed, hissues, (issue_eq_ok hissue).1⟩

omit [DecidableEq Digest] in
theorem start_eq_ok {name : String} {granted : Finset DeviceCapability}
    {stores rotated : Stores Digest}
    (hnamed : InMemory.newDevice setup.deviceId name granted setup.pairedAt = .ok device)
    (hissues : codec.issue setup.credentialId setup.tokenSecret = .ok issued)
    (hissue : stores.issue device.id issued = .ok rotated) :
    InMemory.start codec setup name granted now stores =
      (rotated, .ok (device, ⟨device, issued.token⟩)) := by
  simp only [InMemory.start, hnamed, hissues, hissue]

/-- `claim` in the step relation: it enters at once, and the next step is the await. -/
theorem step_claim (hfree : s.lock.available) (hnew : s.calls x = none) (p : UUID)
    (secret name : String) :
    step config s (.claim x p secret name clock setup) =
      some (claimSection config { s with lock := s.lock.take x } x
        ⟨p, secret, name, none, .waitingForLock false⟩ clock setup) := by
  unfold step
  dsimp only
  rw [hnew]
  unfold enter
  rw [if_pos hfree]

theorem claimSection_registers
    (h : Registers config codec s call clock setup record now device issued) :
    ∃ rotated, Stores.issue s.store device.id issued = .ok rotated ∧
      (claimSection config s x call clock setup).1 =
        setCall { s with store := rotated } x (.claim
          { call with registration := some ⟨record, now, device⟩
                      stage := .registering ⟨device, issued.token⟩ }) := by
  obtain ⟨rotated, hissue⟩ := exists_issue device.id h.unused
  refine ⟨rotated, hissue, ?_⟩
  have hstart : (inMemory codec).start setup call.deviceName record.grantedCapabilities now
      s.store = (rotated, .ok (device, ⟨device, issued.token⟩)) := by
    rw [start_inMemory]
    exact start_eq_ok h.named h.issues hissue
  have hread : (inMemory codec).readClock clock = .ok now := h.read
  have hcurrent : ¬ record.expiresAt.instant ≤ now.instant := not_le.mpr h.current
  unfold claimSection
  rw [h.known]
  dsimp only
  rw [hread]
  dsimp only
  rw [if_neg hcurrent, if_neg (not_not.mpr h.secret), hstart]

/-- Every other claim is over when it leaves its critical section, and has changed
nothing if it raised. -/
theorem claimSection_finishes
    (h : ¬ ∃ record now device issued,
      Registers config codec s call clock setup record now device issued) :
    ∃ finished, (claimSection config s x call clock setup).1.calls x = some (.claim finished) ∧
      ∃ result, finished.stage = .finished result ∧
        ∀ error, result = .error error →
          (claimSection config s x call clock setup).1.store = s.store ∧
            (claimSection config s x call clock setup).1.pairings = s.pairings := by
  unfold claimSection
  cases hknown : s.pairings.lookup call.pairingId with
  | none => exact ⟨_, calls_setCall _ _ _, _, rfl, fun _ herror => nomatch herror⟩
  | some record =>
      dsimp only
      cases hread : (inMemory codec).readClock clock with
      | error error => exact ⟨_, calls_setCall _ _ _, _, rfl, fun _ _ => ⟨rfl, rfl⟩⟩
      | ok now =>
          dsimp only
          split
          · exact ⟨_, calls_setCall _ _ _, _, rfl, fun _ herror => nomatch herror⟩
          rename_i hcurrent
          split
          · exact ⟨_, calls_setCall _ _ _, _, rfl, fun _ herror => nomatch herror⟩
          rename_i hsecret
          split
          · rename_i store error hstart
            rw [start_inMemory] at hstart
            refine ⟨_, calls_setCall _ _ _, _, rfl, fun _ _ => ⟨?_, rfl⟩⟩
            exact (start_error hstart).symm ▸ rfl
          · rename_i store device stage hstart
            rw [start_inMemory] at hstart
            obtain ⟨issued, hnamed, hissues, hunused⟩ := start_ok hstart
            exact absurd ⟨record, now, device, issued, hknown, hread, not_le.mp hcurrent,
              not_not.mp hsecret, hnamed, hissues, hunused⟩ h

omit [DecidableEq Digest] in
theorem resume_cases {stores rotated : Stores Digest} {stage : InMemory.Adding}
    (hissue : stores.issue stage.device.id issued = .ok rotated) (outcome : AwaitOutcome) :
    (¬ AddFails stores stage.device.id outcome ∧
      ∃ stored, InMemory.resume stage outcome rotated = (stored, .returned stage.token)) ∨
    (AddFails stores stage.device.id outcome ∧
      ∃ rest error, InMemory.resume stage outcome rotated = (rest, .raised error) ∧
        Dropped stores stage.device.id rest) := by
  have hsame : rotated.devices = stores.devices := (issue_eq_ok hissue).2.1
  have hkept : Dropped stores stage.device.id (InMemory.rollBack rotated stage.device.id) :=
    dropped_rollBack hissue rfl rfl fun _ _ => rfl
  have hadded : ∀ stored, rotated.add stage.device = .ok stored →
      Dropped stores stage.device.id (InMemory.rollBack stored stage.device.id) := by
    intro stored hstored
    obtain rfl := add_eq_ok hstored
    exact dropped_rollBack hissue rfl rfl fun k hk => AList.lookup_insert_ne hk
  unfold InMemory.resume
  cases outcome with
  | completed =>
      cases hadd : rotated.add stage.device with
      | ok stored =>
          refine .inl ⟨fun hregistered => ?_, _, rfl⟩
          have hcollides : (rotated.devices.lookup stage.device.id).isSome := by
            rw [hsame]
            exact hregistered
          unfold Stores.add at hadd
          rw [if_pos hcollides] at hadd
          cases hadd
      | error error =>
          refine .inr ⟨?_, _, _, rfl, hkept⟩
          unfold Stores.add at hadd
          split at hadd
          · rename_i hcollides
            rw [hsame] at hcollides
            exact hcollides
          · cases hadd
  | interrupted error applied =>
      refine .inr ⟨trivial, ?_⟩
      cases applied with
      | false => exact ⟨_, _, rfl, hkept⟩
      | true =>
          cases hadd : rotated.add stage.device with
          | ok stored => exact ⟨_, _, rfl, hadded stored hadd⟩
          | error _ => exact ⟨_, _, rfl, hkept⟩

theorem claim_suspends {suspended finished : State Digest (inMemory codec)}
    {resumed : ClaimCall Digest (inMemory codec)} {events : List (Event Digest)}
    (hsection : (claimSection config s x call clock setup).1 = suspended)
    (hcall : suspended.calls x = some (.claim resumed))
    (hadvance : advance suspended x resumed outcome = some (finished, events)) :
    claim config codec s x call clock setup outcome = finished := by
  unfold claim
  rw [hsection]
  dsimp only
  rw [hcall]
  dsimp only
  rw [hadvance]

theorem claim_finishes {finished : ClaimCall Digest (inMemory codec)}
    {result : Except Raised (Option DeviceCredential)}
    (hcall : (claimSection config s x call clock setup).1.calls x = some (.claim finished))
    (hstage : finished.stage = .finished result) :
    claim config codec s x call clock setup outcome =
      (claimSection config s x call clock setup).1 := by
  have hended : ∀ t : State Digest (inMemory codec), advance t x finished outcome = none := by
    intro t
    unfold advance
    rw [hstage]
  unfold claim
  dsimp only
  rw [hcall]
  dsimp only
  rw [hended]

omit [DecidableEq Digest] in
theorem resume_inMemory (stage : InMemory.Adding) (outcome : AwaitOutcome)
    (stores : Stores Digest) :
    (inMemory codec).resume stage outcome stores = some (InMemory.resume stage outcome stores) := by
  simp only [inMemory]

section Advance

variable {stage : InMemory.Adding} {registration : Registration Digest} {rest : Stores Digest}

omit [DecidableEq Digest]

theorem calls_finishClaim (s : State Digest (inMemory codec)) (x : Nat)
    (call : ClaimCall Digest (inMemory codec)) (result : Except Raised (Option DeviceCredential)) :
    (finishClaim s x call result).calls x = some (.claim { call with stage := .finished result }) :=
  Function.update_self _ _ _

theorem advance_returns {token : String} (hstage : call.stage = .registering stage)
    (hregistration : call.registration = some registration)
    (hresume : InMemory.resume stage outcome s.store = (rest, .returned token)) :
    advance s x call outcome =
      some (finishClaim { s with store := rest, pairings := s.pairings.erase call.pairingId } x call
          (.ok (some ⟨registration.device, token⟩)),
        [.claimed x registration.record.challenge ⟨registration.device, token⟩]) := by
  have hbackend : (inMemory codec).resume stage outcome s.store = some (rest, .returned token) :=
    (resume_inMemory stage outcome s.store).trans (congrArg some hresume)
  unfold advance
  rw [hstage, hregistration]
  dsimp only
  rw [hbackend]

theorem advance_raises {error : Raised} (hstage : call.stage = .registering stage)
    (hregistration : call.registration = some registration)
    (hresume : InMemory.resume stage outcome s.store = (rest, .raised error)) :
    advance s x call outcome =
      some (finishClaim { s with store := rest } x call (.error error), []) := by
  have hbackend : (inMemory codec).resume stage outcome s.store = some (rest, .raised error) :=
    (resume_inMemory stage outcome s.store).trans (congrArg some hresume)
  unfold advance
  rw [hstage, hregistration]
  dsimp only
  rw [hbackend]

end Advance

/-- A claim that comes to `add` returns with a credential, or raises and leaves the
challenges and all but what belonged to the device's id. -/
theorem claim_registers
    (h : Registers config codec s call clock setup record now device issued) :
    (¬ AddFails s.store setup.deviceId outcome ∧
      ¬ Raises codec (claim config codec s x call clock setup outcome) x) ∨
    (AddFails s.store setup.deviceId outcome ∧
      Raises codec (claim config codec s x call clock setup outcome) x ∧
      (claim config codec s x call clock setup outcome).pairings = s.pairings ∧
      Dropped s.store setup.deviceId (claim config codec s x call clock setup outcome).store) := by
  obtain ⟨rotated, hissue, hsection⟩ := claimSection_registers h (x := x)
  have hid : device.id = setup.deviceId := (InMemory.newDevice_granted h.named).1
  let stage : InMemory.Adding := ⟨device, issued.token⟩
  let resumed : ClaimCall Digest (inMemory codec) :=
    { call with registration := some ⟨record, now, device⟩, stage := .registering stage }
  have hissued : Stores.issue s.store stage.device.id issued = .ok rotated := hissue
  rw [← hid]
  rcases resume_cases hissued outcome with
    ⟨hstored, stored, hresume⟩ | ⟨hfails, rest, error, hresume, hdropped⟩
  · rw [claim_suspends hsection (calls_setCall _ _ _) (advance_returns rfl rfl hresume)]
    refine .inl ⟨hstored, ?_⟩
    rintro ⟨ended, error, hended, hraised⟩
    rw [calls_finishClaim] at hended
    cases hended
    cases hraised
  · rw [claim_suspends hsection (calls_setCall _ _ _) (advance_raises rfl rfl hresume)]
    exact .inr ⟨hfails, ⟨_, error, calls_finishClaim _ _ _ _, rfl⟩, rfl, hdropped⟩

/-- A claim that raises has changed nothing, unless `add` has failed for an id that
was already in use. -/
theorem rolls_back_iff :
    (Raises codec (claim config codec s x call clock setup outcome) x →
      Unchanged codec s (claim config codec s x call clock setup outcome)) ↔
      ¬ ((∃ record now device issued,
          Registers config codec s call clock setup record now device issued) ∧
        AddFails s.store setup.deviceId outcome ∧ InUse codec s.store setup.deviceId) := by
  by_cases hregisters : ∃ record now device issued,
      Registers config codec s call clock setup record now device issued
  · obtain ⟨record, now, device, issued, h⟩ := hregisters
    rcases claim_registers h with ⟨hstored, hreturns⟩ | ⟨hfails, hraises, hpairings, hdropped⟩
    · exact ⟨fun _ hbad => hstored hbad.2.1, fun _ hraises => absurd hraises hreturns⟩
    · constructor
      · intro hunchanged hbad
        have hsame := hunchanged hraises
        exact hdropped.unchanged_iff.mp ⟨hsame.devices, hsame.authenticates⟩ hbad.2.2
      · intro hgood _
        have hfree : ¬ InUse codec s.store setup.deviceId := fun huse =>
          hgood ⟨⟨record, now, device, issued, h⟩, hfails, huse⟩
        obtain ⟨hdevices, htokens⟩ := hdropped.unchanged_iff.mpr hfree
        exact ⟨hdevices, htokens, fun p => by rw [hpairings]⟩
  · obtain ⟨finished, hcall, result, hstage, hsame⟩ := claimSection_finishes hregisters (x := x)
    rw [claim_finishes hcall hstage]
    refine ⟨fun _ hbad => hregisters hbad.1, fun _ hraises => ?_⟩
    obtain ⟨ended, error, hended, hraised⟩ := hraises
    obtain rfl : finished = ended := by
      have hsome := hcall.symm.trans hended
      cases hsome
      rfl
    obtain rfl : result = .error error := by
      have hresult := hstage.symm.trans hraised
      cases hresult
      rfl
    obtain ⟨hstore, hpairings⟩ := hsame error rfl
    exact ⟨fun _ => by rw [hstore], fun _ => by rw [hstore], fun _ => by rw [hpairings]⟩

section Samples

def sampleConfig : Config String where
  digest := id
  maxClaimAttempts := 5
  attempts_positive := by decide

def sampleSecret : String := "pairing secret 01"

def sampleStart : State String (inMemory DeviceCredentialCodec.sampleCodec) :=
  { State.initial (inMemory DeviceCredentialCodec.sampleCodec) Stores.empty with
    pairings := (AList.insert ⟨1⟩ ⟨0, sampleSecret, {.system}, ⟨60, 0⟩, 0⟩ ∅).insert ⟨2⟩
      ⟨1, sampleSecret, {.files}, ⟨60, 0⟩, 0⟩ }

/-- Call `x` claims challenge `x`. The id factory yields the same device id each time. -/
def sampleClaim (s : State String (inMemory DeviceCredentialCodec.sampleCodec)) (x : Nat) :
    State String (inMemory DeviceCredentialCodec.sampleCodec) :=
  claim sampleConfig DeviceCredentialCodec.sampleCodec s x
    ⟨⟨Fin.ofNat _ x⟩, sampleSecret, "Desk", none, .waitingForLock false⟩ ⟨1, some 0⟩
    ⟨⟨9⟩, ⟨1, some 0⟩, ⟨Fin.ofNat _ x⟩, "device secret 012"⟩ .completed

def samplePaired : State String (inMemory DeviceCredentialCodec.sampleCodec) :=
  sampleClaim sampleStart 1

def raises : Option (PairingCall String (inMemory DeviceCredentialCodec.sampleCodec)) → Bool
  | some (.claim ⟨_, _, _, _, .finished (.error _)⟩) => true
  | _ => false

/-- The second claim raises, and its rollback removes the device of the first one
with its credential. -/
theorem reused_id_unregisters :
    Raises DeviceCredentialCodec.sampleCodec (sampleClaim samplePaired 2) 2 ∧
      (Stores.devices samplePaired.store).lookup ⟨9⟩ ≠ none ∧
      (Stores.credentials samplePaired.store).lookup ⟨1⟩ ≠ none ∧
      (Stores.devices (sampleClaim samplePaired 2).store).lookup ⟨9⟩ = none ∧
      (Stores.credentials (sampleClaim samplePaired 2).store).lookup ⟨1⟩ = none ∧
      ¬ Unchanged DeviceCredentialCodec.sampleCodec samplePaired
        (sampleClaim samplePaired 2) := by
  have hpaired : ((Stores.devices samplePaired.store).lookup ⟨9⟩).isSome := by decide
  have hcredential : ((Stores.credentials samplePaired.store).lookup ⟨1⟩).isSome := by decide
  have hremoved : ((Stores.devices (sampleClaim samplePaired 2).store).lookup
      ⟨9⟩).isNone := by decide
  have hrevoked : ((Stores.credentials (sampleClaim samplePaired 2).store).lookup
      ⟨1⟩).isNone := by decide
  refine ⟨?_, Option.isSome_iff_ne_none.mp hpaired, Option.isSome_iff_ne_none.mp hcredential,
    Option.isNone_iff_eq_none.mp hremoved, Option.isNone_iff_eq_none.mp hrevoked, ?_⟩
  · have hraised : raises ((sampleClaim samplePaired 2).calls 2) := by decide
    unfold raises at hraised
    split at hraised
    · rename_i hcall
      exact ⟨_, _, hcall, rfl⟩
    · cases hraised
  · intro hunchanged
    have hsame := hunchanged.devices ⟨9⟩
    rw [Option.isNone_iff_eq_none.mp hremoved] at hsame
    rw [← hsame] at hpaired
    cases hpaired

end Samples

end JarvisCore.Pairing.ClaimRollback
