import JarvisCore.Api.DeviceRoutes
import JarvisCore.Service.Revocation

namespace JarvisCore.Api.Authority

open JarvisCore.Api.DeviceCommands (Config)
open JarvisCore.Api.DeviceRoutes
open JarvisCore.Configuration.Settings
open JarvisCore.Configuration.TrustDomains
open JarvisCore.Domain.Models
open JarvisCore.Domain.Values
open JarvisCore.Foundation.Text
open JarvisCore.Foundation.TransitionSystem
open JarvisCore.Manager.Operations (TransportCall)
open JarvisCore.Pairing.CallArguments
open JarvisCore.Pairing.Challenges (DeviceCredential)
open JarvisCore.Security.DeviceRecords
open JarvisCore.Service.Operations (Event Request service)
open JarvisCore.Service.Provenance

variable {Digest : Type} [DecidableEq Digest]

section Admissions

variable (config : Config Digest)

def IsAdmin (credentials : Option HTTPAuthorizationCredentials) : Prop :=
  requireDeviceAdmin config.caseTables config.settings credentials = .ok ()

variable {config}

omit [DecidableEq Digest] in
theorem guarded_eq_ok {α : Type} {credentials : Option HTTPAuthorizationCredentials}
    {read : Option α} {value : α} (h : guarded config credentials read = .ok value) :
    IsAdmin config credentials ∧ read = some value := by
  unfold guarded at h
  split at h
  · cases h
  · rename_i hadmin
    split at h
    · cases h
    · cases h
      exact ⟨hadmin, rfl⟩

omit [DecidableEq Digest] in
theorem map_eq_ok {ε α β : Type} {e : Except ε α} {f : α → β} {b : β} (h : e.map f = .ok b) :
    ∃ a, e = .ok a ∧ f a = b := by
  cases e with
  | error error => cases h
  | ok a => exact ⟨a, rfl, Except.ok.inj h⟩

omit [DecidableEq Digest] in
theorem admission_create {incoming : Incoming} {granted : Finset DeviceCapability}
    (h : admission config incoming = .ok (.create granted)) :
    ∃ credentials body request, incoming = .createPairing credentials body ∧
      IsAdmin config credentials ∧ readPairingCreate config.runtime body = some request ∧
      request.grantedCapabilities.val = granted := by
  cases incoming with
  | createPairing credentials body =>
      obtain ⟨request, hguarded, hgranted⟩ := map_eq_ok h
      obtain ⟨hadmin, hread⟩ := guarded_eq_ok hguarded
      cases hgranted
      exact ⟨credentials, body, request, rfl, hadmin, hread, rfl⟩
  | pairDevice body =>
      simp only [admission] at h
      split at h
      · cases h
      · cases h
  | getDevice | revokeDevice =>
      obtain ⟨_, -, hcall⟩ := map_eq_ok h
      cases hcall

omit [DecidableEq Digest] in
theorem admission_claim {incoming : Incoming} {pairingId : UUID} {secret deviceName : String}
    (h : admission config incoming = .ok (.claim pairingId secret deviceName)) :
    ∃ body request, incoming = .pairDevice body ∧
      readPairDevice config.runtime body = some request ∧ request.pairingId = pairingId ∧
      request.pairingSecret.val = secret ∧ request.deviceName = deviceName := by
  cases incoming with
  | pairDevice body =>
      simp only [admission] at h
      split at h
      · cases h
      · rename_i request hread
        cases h
        exact ⟨body, request, rfl, hread, rfl, rfl, rfl⟩
  | createPairing | getDevice | revokeDevice =>
      obtain ⟨_, -, hclaim⟩ := map_eq_ok h
      cases hclaim

omit [DecidableEq Digest] in
theorem admission_revoke {incoming : Incoming} {d : UUID}
    (h : admission config incoming = .ok (.call (.revokeDevice d))) :
    ∃ credentials deviceId, incoming = .revokeDevice credentials deviceId ∧
      IsAdmin config credentials ∧ config.runtime.parseUuid deviceId = some d := by
  cases incoming with
  | revokeDevice credentials deviceId =>
      obtain ⟨d', hguarded, hrequest⟩ := map_eq_ok h
      obtain ⟨hadmin, hread⟩ := guarded_eq_ok hguarded
      cases hrequest
      exact ⟨credentials, deviceId, rfl, hadmin, hread⟩
  | pairDevice body =>
      simp only [admission] at h
      split at h
      · cases h
      · cases h
  | createPairing | getDevice =>
      obtain ⟨_, -, hrequest⟩ := map_eq_ok h
      cases hrequest

end Admissions

variable {config : Config Digest} {history : List (Step config)} {s : State config}

/-- Request `x`, an administrator's, asks for a pairing for the capabilities. -/
def AsksPairing (s : State config) (x : Nat) (granted : Finset DeviceCapability) : Prop :=
  ∃ credentials body answer request,
    s.exchanges (.inr x) = some ⟨.createPairing credentials body, answer⟩ ∧
    IsAdmin config credentials ∧ readPairingCreate config.runtime body = some request ∧
    request.grantedCapabilities.val = granted

def ClaimsPairing (s : State config) (y : Nat) (pairingId : UUID) (secret deviceName : String) :
    Prop :=
  ∃ body answer request, s.exchanges (.inr y) = some ⟨.pairDevice body, answer⟩ ∧
    readPairDevice config.runtime body = some request ∧ request.pairingId = pairingId ∧
    request.pairingSecret.val = secret ∧ request.deviceName = deviceName

/-- Request `y` claims, under the name, the pairing that was created for request `x` of an
administrator and for the capabilities: it has its identifier, and a secret with the digest of
that pairing's secret. -/
def PairedBy (s : State config) (x y : Nat) (granted : Finset DeviceCapability)
    (deviceName : String) : Prop :=
  AsksPairing s x granted ∧ ∃ pairingId secret secret',
    argumentsAt s.service.pairing x = some (.create granted pairingId secret) ∧
    ClaimsPairing s y pairingId secret' deviceName ∧
    config.service.pairing.digest secret' = config.service.pairing.digest secret

def Credentialed (s : State config) (y : Nat) (response : PairDeviceResponse) : Prop :=
  ∃ incoming, s.exchanges (.inr y) = some ⟨incoming, some (.ok (.paired response))⟩

/-- Request `x`, an administrator's, asks for the revocation of the device. -/
def AsksRevocation (s : State config) (x : Nat) (d : UUID) (answer : Option Answer) : Prop :=
  ∃ credentials deviceId, s.exchanges (.inl x) = some ⟨.revokeDevice credentials deviceId, answer⟩ ∧
    IsAdmin config credentials ∧ config.runtime.parseUuid deviceId = some d

/-- What the devices are and do goes back to requests of an administrator. -/
structure Authorized (history : List (Step config)) (s : State config) : Prop where
  /-- A device is in the table since a pairing was claimed that an administrator had created. -/
  registered : ∀ d, (s.service.tables.devices.lookup d).isSome →
    ∃ x y granted deviceName, PairedBy s x y granted deviceName ∧
      HasGrants s.service.tables d granted
  /-- Each credential that was handed out is that of a pairing of its own. -/
  credentials : ∃ source : Nat → Nat,
    (∀ y response, Credentialed s y response → ∃ granted,
      PairedBy s (source y) y granted response.device.name ∧
        HasGrants s.service.tables response.device.id granted) ∧
    ∀ y y' response response', Credentialed s y response → Credentialed s y' response' →
      source y = source y' → y = y'
  /-- A command is one that an administrator asked for, and within the grants. -/
  commands : ∀ u ∈ history, ∀ x transport command sessionId,
    .transport (.sendCommand x transport command sessionId) ∈ u.events →
      (∃ incoming answer, s.api.exchanges x = some ⟨incoming, answer⟩ ∧
        DeviceCommands.Requested config incoming command) ∧
      ∃ granted, HasGrants s.service.tables command.deviceId granted ∧
        command.capability ∈ granted
  revoked : ∀ d, Revoked s.service.tables d → ∃ x answer, AsksRevocation s x d answer
  /-- A device whose revocation was confirmed is revoked and offline. -/
  final : ∀ x d body, AsksRevocation s x d (some (.ok body)) →
    Revoked s.service.tables d ∧ s.service.manager.connections.lookup d = none

section Runs

omit [DecidableEq Digest] in
theorem pairedBy_of_presents (hinv : Inv s) {x y : Nat} {granted : Finset DeviceCapability}
    {name : String} (h : Presents s.service x y granted name) :
    PairedBy s x y granted name ∧ strip name = name := by
  obtain ⟨pairingId, secret, secret', hx, hy, hsecret⟩ := h
  obtain ⟨incoming, answer, hexchange, hasks⟩ := hinv.asked x _ hx
  obtain ⟨credentials, body, request, rfl, hadmin, hread, hgranted⟩ := admission_create hasks
  obtain ⟨incoming', answer', hexchange', hasks'⟩ := hinv.asked y _ hy
  obtain ⟨body', request', rfl, hread', hid, hsecret', rfl⟩ := admission_claim hasks'
  refine ⟨⟨⟨credentials, body, answer, request, hexchange, hadmin, hread, hgranted⟩,
    pairingId, secret, secret', hx, ?_, hsecret⟩, request'.name_normalized⟩
  exact ⟨body', answer', request', hexchange', hread', hid, hsecret', rfl⟩

omit [DecidableEq Digest] in
theorem Credentialed.claimed (hinv : Inv s) {y : Nat} {response : PairDeviceResponse}
    (h : Credentialed s y response) : ∃ call credential,
      s.service.pairing.calls y = some (.claim call) ∧
      call.stage = .finished (.ok (some credential)) ∧ response = .ofCredential credential := by
  obtain ⟨incoming, hexchange⟩ := h
  obtain ⟨call, hcall, hbody⟩ := Option.bind_eq_some_iff.mp (hinv.answered _ _ _ hexchange)
  unfold pairingOutcome at hbody
  split at hbody
  · cases hbody
  · rename_i outcome
    cases outcome <;> cases hbody
  · rename_i outcome
    rcases outcome with error | (- | credential)
    · cases hbody
    · cases hbody
    · cases hbody
      exact ⟨_, credential, hcall, rfl, rfl⟩
  · cases hbody

theorem commands_requested (hrun : Run (deviceRoutes config) (.initial config) history s)
    {u : Step config} (hu : u ∈ history) {x transport : Nat} {command : DeviceCommand}
    {sessionId : UUID}
    (hsend : .transport (.sendCommand x transport command sessionId) ∈ u.events) :
    (∃ incoming answer, s.api.exchanges x = some ⟨incoming, answer⟩ ∧
      DeviceCommands.Requested config incoming command) ∧
    ∃ granted, HasGrants s.service.tables command.deviceId granted ∧
      command.capability ∈ granted := by
  obtain ⟨steps, hsteps, hevents⟩ := api_run hrun
  obtain ⟨served, hserved, hserves⟩ := DeviceCommands.service_run hsteps
  have hsent : .sendCommand x transport command sessionId ∈ Service.Delivery.sends x served := by
    obtain ⟨v, hv, hmem⟩ := hevents u hu _ hsend
    rw [hserves.sends x]
    refine List.mem_flatMap.mpr ⟨v, hv, List.mem_filter.mpr ⟨?_, ?_⟩⟩
    · exact List.mem_filterMap.mpr ⟨_, hmem, rfl⟩
    · exact Manager.Delivery.isSendOf_iff.mpr ⟨transport, command, sessionId, rfl⟩
  constructor
  · rcases Service.Delivery.sends_of_run hserved x with hnone | ⟨request, a, hcall, hasks, hone⟩
    · rw [hnone] at hsent
      cases hsent
    · rw [hone] at hsent
      obtain ⟨-, -, rfl, -⟩ := TransportCall.sendCommand.inj (List.mem_singleton.mp hsent)
      obtain rfl : request = _ := hasks
      obtain ⟨incoming, answer, hexchange, hadmission⟩ :=
        (DeviceCommands.inv_of_run hsteps).owned x _ _ _ _ _ hcall
      exact ⟨incoming, answer, hexchange, DeviceCommands.requested_of_admission hadmission⟩
  · obtain ⟨w, hw, hmem⟩ := List.mem_flatMap.mp hsent
    obtain ⟨⟨granted, hgrants, hcapability⟩, -⟩ :=
      (Service.GrantContainment.ledger_of_run hserved).dispatched w hw x transport command sessionId
        (List.mem_filter.mp hmem).1
    exact ⟨granted, hgrants, hcapability⟩

theorem Credentialed.paired (hrun : Run (deviceRoutes config) (.initial config) history s)
    {steps : List (Service.Invariant.Step config.service)}
    (hsteps : Run (service config.service) (.initial config.service) steps s.service) {y : Nat}
    {response : PairDeviceResponse} (h : Credentialed s y response) :
    ∃ x granted credential, PairedBy s x y granted response.device.name ∧
      HasGrants s.service.tables response.device.id granted ∧
      .claimed y x credential ∈ Service.Invariant.pairingLog steps := by
  have hinv := inv_of_run hrun
  obtain ⟨call, credential, hcall, hreturned, rfl⟩ := h.claimed hinv
  obtain ⟨registration, rows, ⟨u, hu, hcommits⟩, rfl, hlogged⟩ :=
    returned_commits hsteps hcall hreturned
  obtain ⟨granted, name, hpresents, hgrants, hname⟩ := committed_presents hsteps hu hcommits
  obtain ⟨hpaired, hnormalized⟩ := pairedBy_of_presents hinv hpresents
  obtain rfl : rows.device.name = name := hname.trans hnormalized
  exact ⟨_, granted, _, hpaired, hgrants, hlogged⟩

omit [DecidableEq Digest] in
theorem Credentialed.unique {y : Nat} {response response' : PairDeviceResponse}
    (h : Credentialed s y response) (h' : Credentialed s y response') : response' = response := by
  obtain ⟨incoming, hexchange⟩ := h
  obtain ⟨incoming', hexchange'⟩ := h'
  rw [hexchange] at hexchange'
  cases hexchange'
  rfl

theorem credentials_sourced (hrun : Run (deviceRoutes config) (.initial config) history s) :
    ∃ source : Nat → Nat,
      (∀ y response, Credentialed s y response → ∃ granted,
        PairedBy s (source y) y granted response.device.name ∧
          HasGrants s.service.tables response.device.id granted) ∧
      ∀ y y' response response', Credentialed s y response → Credentialed s y' response' →
        source y = source y' → y = y' := by
  obtain ⟨steps, hsteps, -⟩ := service_inv hrun
  have hpaired : ∀ y, ∃ x, ∀ response, Credentialed s y response → ∃ granted credential,
      PairedBy s x y granted response.device.name ∧
      HasGrants s.service.tables response.device.id granted ∧
      .claimed y x credential ∈ Service.Invariant.pairingLog steps := by
    intro y
    by_cases hsome : ∃ response, Credentialed s y response
    · obtain ⟨response, h⟩ := hsome
      obtain ⟨x, hx⟩ := h.paired hrun hsteps
      refine ⟨x, fun response' h' => ?_⟩
      rw [h.unique h']
      exact hx
    · exact ⟨0, fun response h => absurd ⟨response, h⟩ hsome⟩
  choose source hsource using hpaired
  refine ⟨source, ?_, ?_⟩
  · intro y response h
    obtain ⟨granted, -, hpaired, hgrants, -⟩ := hsource y response h
    exact ⟨granted, hpaired, hgrants⟩
  · intro y y' response response' h h' hsame
    obtain ⟨_, _, _, _, hclaimed⟩ := hsource y response h
    obtain ⟨_, _, _, _, hclaimed'⟩ := hsource y' response' h'
    rw [hsame] at hclaimed
    exact claimed_unique hsteps hclaimed hclaimed'

theorem confirmed_final (hrun : Run (deviceRoutes config) (.initial config) history s) {x : Nat}
    {d : UUID} {body : Body} (hasks : AsksRevocation s x d (some (.ok body))) :
    Service.Revocation.Final d s.service := by
  have hinv := inv_of_run hrun
  obtain ⟨steps, hsteps, -⟩ := service_inv hrun
  obtain ⟨credentials, deviceId, hexchange, hadmin, hread⟩ := hasks
  have hadmission : admission config (.revokeDevice credentials deviceId) =
      .ok (.call (.revokeDevice d)) := by
    simp only [admission, guarded]
    rw [show requireDeviceAdmin config.caseTables config.settings credentials = .ok () from hadmin,
      hread]
    rfl
  obtain ⟨stage, hcall⟩ := hinv.called x _ _ _ hexchange hadmission
  have hended := hinv.answered _ _ _ hexchange
  rw [State.outcome, hcall] at hended
  have hconcluding : Service.CallSteps.Concluding stage := by
    cases stage with
    | finished outcome =>
        cases outcome with
        | ok value => trivial
        | error error => cases hended
    | _ => cases hended
  exact Service.Revocation.final_of_concluding hsteps hcall hconcluding

/-- In every run of the application, whatever its requests, tasks and devices do: what is
registered, commanded and revoked has been asked for by an administrator. -/
theorem devices_are_authorized (hrun : Run (deviceRoutes config) (.initial config) history s) :
    Authorized history s := by
  have hinv := inv_of_run hrun
  obtain ⟨steps, hsteps, -⟩ := service_inv hrun
  refine ⟨?_, credentials_sourced hrun, fun u hu x transport command sessionId hsend =>
    commands_requested hrun hu hsend, ?_, ?_⟩
  · intro d hd
    obtain ⟨x, y, granted, name, hpresents, hgrants, -⟩ := registered_presents hsteps hd
    exact ⟨x, y, granted, name, (pairedBy_of_presents hinv hpresents).1, hgrants⟩
  · intro d hd
    obtain ⟨x, stage, hcall⟩ := revoked_requested hsteps hd
    obtain ⟨incoming, answer, hexchange, hadmission⟩ := hinv.revoking x d stage hcall
    obtain ⟨credentials, deviceId, rfl, hadmin, hread⟩ := admission_revoke hadmission
    exact ⟨x, answer, credentials, deviceId, hexchange, hadmin, hread⟩
  · intro x d body hasks
    have hfinal := confirmed_final hrun hasks
    exact ⟨hfinal.revoked, hfinal.offline⟩

end Runs

section Samples

open JarvisCore.Api.DeviceCommands (sampleApi sampleIncoming)
open JarvisCore.Service.GrantContainment (sampleDevice sampleSession sampleInputs sampleCall
  sampleService)

def sampleCredentials : Option HTTPAuthorizationCredentials :=
  some ⟨"Bearer", "admin-token-with-at-least-32-bytes"⟩

def sampleCreate : Incoming :=
  .createPairing sampleCredentials
    (.object [("granted_capabilities", .array [.string "system"])])

def sampleClaim : Incoming :=
  .pairDevice (.object
    [("pairing_id", .string "00000000-0000-0000-0000-000000000001"),
      ("pairing_secret", .string "pairing secret 01"), ("device_name", .string " Desk ")])

def sampleRevoke : Incoming :=
  .revokeDevice sampleCredentials "00000000-0000-0000-0000-000000000001"

def samplePairingInputs : PairingInputs where
  clock := ⟨1, some 0⟩
  pairingId := ⟨1⟩
  secret := "pairing secret 01"
  setup := ⟨sampleDevice, sampleDevice, "device secret 012"⟩

def inService (action : Service.Operations.Action sampleService) : Action sampleApi :=
  .api (.service action)

/-- A device is paired, gets a command, and is revoked, by requests. -/
def sampleRequests : List (Action sampleApi) :=
  [.receive 0 sampleCreate samplePairingInputs, .respond (.inr 0) none,
    .receive 1 sampleClaim samplePairingInputs, inService (.advancePairing 1 .completed),
    inService (.advancePairing 1 .completed), inService (.advancePairing 1 .completed),
    .respond (.inr 1) none] ++
  (sampleCall 2 (.connectDevice sampleDevice 0) ++
    sampleCall 3 (.activateDevice sampleDevice sampleSession {.system})).map inService ++
  [.api (.receive 4 sampleIncoming), inService (.perform 4 .completed),
    inService (.proceed 4 sampleInputs), .receive 5 sampleRevoke samplePairingInputs,
    inService (.perform 5 .completed), inService (.proceed 5 sampleInputs),
    inService (.perform 5 .completed), inService (.proceed 5 sampleInputs),
    inService (.perform 5 .completed), inService (.proceed 5 sampleInputs),
    inService (.endClose 5 none), .respond (.inl 5) none]

def isServed (history : List (Step sampleApi)) (s : State sampleApi) : Bool :=
  (match s.exchanges (.inr 1) with
    | some ⟨_, some (.ok (.paired response))⟩ => response.device.name = "Desk"
    | _ => false) &&
  (match s.exchanges (.inl 5) with
    | some ⟨_, some (.ok (.device response))⟩ => response.status = .revoked
    | _ => false) &&
  history.any fun u => u.events.any fun
    | .transport (.sendCommand _ _ command _) => command.deviceId = sampleDevice
    | _ => false

theorem devices_are_authorized_served :
    ∃ history s, Run (deviceRoutes sampleApi) (.initial sampleApi) history s ∧
      isServed history s = true ∧ Authorized history s := by
  obtain ⟨history, s, hrun, hserved⟩ := exists_run_of_replay (S := deviceRoutes sampleApi)
    (s := .initial sampleApi) sampleRequests isServed (by decide +kernel)
  exact ⟨history, s, hrun, hserved, devices_are_authorized hrun⟩

end Samples

end JarvisCore.Api.Authority
