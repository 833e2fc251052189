import JarvisCore.Service.Invariant

namespace JarvisCore.Service.GrantContainment

open JarvisCore.Domain.Values
open JarvisCore.Domain.Errors
open JarvisCore.Domain.Models
open JarvisCore.Foundation.Dictionary
open JarvisCore.Foundation.TransitionSystem
open JarvisCore.Manager.Operations (TransportCall LiveConnection getState)
open JarvisCore.Manager.Connections (step_dispatches)
open JarvisCore.Pairing.Challenges (DevicePairingChallenge Registration)
open JarvisCore.Pairing.Backends
open JarvisCore.Pairing.DurableClaim (Commits sampleConfig)
open JarvisCore.Security.DeviceTables
open JarvisCore.Security.DeviceRecords
open JarvisCore.Service.Operations
open JarvisCore.Service.Invariant

variable {Digest : Type} {config : Config Digest}

/-- The service-level check of a capability and that of the manager come to the same. -/
def ChecksAgree (manager : Manager.Operations.State) (device : Device) : Prop :=
  ∃ seen, withRuntimeState manager device = .ok seen ∧
    ∀ capability, (seen.status = .online ∧ capability ∈ seen.availableCapabilities) ↔
      ∃ k, manager.connections.lookup device.id = some k ∧ k.status = .online ∧
        capability ∈ k.effectiveCapabilities

theorem checksAgree {manager : Manager.Operations.State} {device : Device}
    (hstatus : device.status ≠ .revoked)
    (hconnection : ∀ k, manager.connections.lookup device.id = some k → k.status ≠ .revoked ∧
      k.effectiveCapabilities = k.advertisedCapabilities ∩ device.grantedCapabilities) :
    ChecksAgree manager device := by
  have hname : 0 < (Foundation.Text.strip device.name).length ∧
      (Foundation.Text.strip device.name).length ≤ 120 := by
    rw [device.name_normalized]
    exact device.name_length
  have hrevoked : ¬ device.revokedAt.isSome = true := fun h => hstatus (device.revoked_iff.mpr h)
  unfold ChecksAgree withRuntimeState getState
  rw [if_neg hstatus]
  cases hk : manager.connections.lookup device.id with
  | none =>
      have hstate : DeviceStatus.offline = .revoked ↔ device.revokedAt.isSome = true :=
        iff_of_false DeviceStatus.noConfusion hrevoked
      obtain ⟨seen, hseen⟩ := Device.exists_make device.id device.grantedCapabilities ∅
        device.pairedAt device.lastSeenAt hname hstate
      refine ⟨seen, hseen, ?_⟩
      intro capability
      obtain ⟨-, -, -, -, hoffline, -⟩ := Device.make_eq_ok hseen
      constructor
      · rintro ⟨honline, -⟩
        rw [hoffline] at honline
        cases honline
      · rintro ⟨k, hnone, -⟩
        cases hnone
  | some k =>
      obtain ⟨hlive, heffective⟩ := hconnection k hk
      have hstate : k.status = .revoked ↔ device.revokedAt.isSome = true :=
        iff_of_false hlive hrevoked
      obtain ⟨seen, hseen⟩ := Device.exists_make device.id device.grantedCapabilities
        k.advertisedCapabilities device.pairedAt (some k.lastSeenAt) hname hstate
      refine ⟨seen, hseen, ?_⟩
      intro capability
      obtain ⟨-, -, hgranted, -, hsame, hadvertised, -⟩ := Device.make_eq_ok hseen
      have havailable : seen.availableCapabilities = k.effectiveCapabilities := by
        rw [Device.availableCapabilities, hgranted, hadvertised, heffective, Finset.inter_comm]
      rw [hsame, havailable]
      constructor
      · rintro ⟨honline, hmem⟩
        exact ⟨k, rfl, honline, hmem⟩
      · rintro ⟨k', hk', honline, hmem⟩
        obtain rfl := Option.some.inj hk'
        exact ⟨honline, hmem⟩

variable [DecidableEq Digest]

def CommitsClaim (registration : Registration Digest) (rows : Sql.Rows Digest)
    (u : Step config) : Prop :=
  ∃ action, pairingAction u.action = some action ∧
    Commits (Pairing.Challenges.actor action) registration rows
      ⟨u.source.pairing, action, pairingEvents u.events, u.target.pairing⟩

/-- The device was registered by a claim of the challenge. -/
def ClaimedFrom (history : List (Step config)) (d : UUID) (challenge : DevicePairingChallenge) :
    Prop :=
  ∃ u ∈ history, ∃ registration rows record, CommitsClaim registration rows u ∧
    rows.device.id = d ∧
    .created registration.record.challenge challenge record ∈ pairingLog history

/-- What a history tells about the database. -/
structure Ledger (history : List (Step config)) (s : State config) : Prop where
  committed : ∀ u ∈ history, ∀ registration rows, CommitsClaim registration rows u →
    ∃ challenge record,
      .created registration.record.challenge challenge record ∈ pairingLog history ∧
      HasGrants s.tables rows.device.id challenge.grantedCapabilities
  registered : ∀ d, (s.tables.devices.lookup d).isSome → ∃ u ∈ history, ∃ registration rows,
    CommitsClaim registration rows u ∧ rows.device.id = d
  dispatched : ∀ u ∈ history, ∀ x transport command sessionId,
    .sendCommand x transport command sessionId ∈ transportCalls u.events →
    Allowed config s.tables command

section Steps

variable {s t : State config}

/-- A commit writes the grants of the challenge that the claim has looked up. -/
theorem commits_grants {log : List (Pairing.Challenges.Event Digest)} (hinv : Inv log s)
    {action : Action config} {events : List (Event Digest)} {registration : Registration Digest}
    {rows : Sql.Rows Digest} (hcommits : CommitsClaim registration rows ⟨s, action, events, t⟩) :
    ∃ challenge record, .created registration.record.challenge challenge record ∈ log ∧
      HasGrants t.tables rows.device.id challenge.grantedCapabilities := by
  obtain ⟨action', -, ⟨-, ⟨call, hcall, hregistration, hstage⟩, hcommit⟩⟩ := hcommits
  obtain ⟨-, registration', hregistration', hrecord, hadmitted⟩ :=
    hinv.pairing.registering _ call _ hcall hstage
  obtain rfl : registration = registration' :=
    Option.some.inj (hregistration.symm.trans hregistration')
  obtain ⟨challenge, -, hcreated⟩ := (hinv.pairing.records _ _ hrecord).created
  have hgranted : registration.record.grantedCapabilities = challenge.grantedCapabilities := by
    obtain ⟨create, hcreate, -, rfl, hmade⟩ := hinv.pairing.created _ _ _ hcreated
    obtain ⟨-, -, -, hgranted, -⟩ := hinv.pairing.calls _ _ hcreate
    rw [hmade] at hgranted
    exact hgranted
  have hdevice : rows.device.grantedCapabilities = registration.device.grantedCapabilities := by
    obtain ⟨pairingId, secret, name, staging, stage⟩ := call
    obtain rfl : stage = _ := hstage
    obtain ⟨registration', hstaging, hdevice, -⟩ := hinv.staged _ _ rows hcall rfl
    obtain rfl : registration = registration' :=
      Option.some.inj (hregistration.symm.trans hstaging)
    rw [hdevice]
  refine ⟨challenge, _, hcreated, ?_⟩
  rw [← hgranted, ← hadmitted.granted, ← hdevice]
  exact register_hasGrants hcommit

theorem dispatches_allowed {log log' : List (Pairing.Challenges.Event Digest)} (hinv : Inv log s)
    (hnext : Inv log' t) {action : Action config} {events : List (Event Digest)}
    (h : step s action = some (t, events)) {x transport : Nat} {command : DeviceCommand}
    {sessionId : UUID} (hsend : .sendCommand x transport command sessionId ∈ transportCalls events) :
    Allowed config t.tables command := by
  rcases step_manager hinv h with ⟨-, hquiet⟩ | ⟨managerAction, -, -, hmanager⟩
  · rw [hquiet] at hsend
    cases hsend
  · obtain ⟨-, call, hdispatches⟩ := step_dispatches hmanager hsend
    rw [← hdispatches.command]
    exact hnext.manager.commands x call hdispatches.admitted

theorem Ledger.step {history : List (Step config)} (hledger : Ledger history s)
    (hinv : Inv (pairingLog history) s) {action : Action config} {events : List (Event Digest)}
    (h : Operations.step s action = some (t, events)) :
    Ledger (⟨s, action, events, t⟩ :: history) t := by
  obtain ⟨hgrows, hregistered⟩ := step_tables hinv h
  have hlog : ∀ e ∈ pairingLog history, e ∈ pairingLog (⟨s, action, events, t⟩ :: history) := by
    intro e he
    exact List.mem_append_right _ he
  constructor
  · intro u hu registration rows hcommits
    rcases List.mem_cons.mp hu with rfl | hu
    · obtain ⟨challenge, record, hcreated, hgrants⟩ := commits_grants hinv hcommits
      exact ⟨challenge, record, hlog _ hcreated, hgrants⟩
    · obtain ⟨challenge, record, hcreated, hgrants⟩ :=
        hledger.committed u hu registration rows hcommits
      exact ⟨challenge, record, hlog _ hcreated, hgrows.grants _ _ hgrants⟩
  · intro d hd
    rcases hregistered d hd with hold | ⟨action', registration, rows, haction, hcommits, hid⟩
    · obtain ⟨u, hu, known⟩ := hledger.registered d hold
      exact ⟨u, List.mem_cons_of_mem _ hu, known⟩
    · exact ⟨_, List.mem_cons_self, registration, rows, ⟨action', haction, hcommits⟩, hid⟩
  · intro u hu x transport command sessionId hsend
    rcases List.mem_cons.mp hu with rfl | hu
    · exact dispatches_allowed hinv (hinv.step h) h hsend
    · exact (hledger.dispatched u hu x transport command sessionId hsend).grows hgrows

end Steps

section Runs

variable {history : List (Step config)} {s : State config}

theorem ledger_of_run (hrun : Run (service config) (.initial config) history s) :
    Ledger history s := by
  refine hrun.historyInvariant Ledger ?_ ?_
  · refine ⟨by simp, ?_, by simp⟩
    intro d hd
    cases hd
  · intro history s action t events hprev hledger h
    exact hledger.step (inv_of_run hprev) h

theorem hasGrants_of_claimedFrom (hrun : Run (service config) (.initial config) history s)
    {d : UUID} {challenge : DevicePairingChallenge} (hclaimed : ClaimedFrom history d challenge) :
    HasGrants s.tables d challenge.grantedCapabilities := by
  obtain ⟨u, hu, registration, rows, record, hcommits, rfl, hcreated⟩ := hclaimed
  obtain ⟨challenge', record', hcreated', hgrants⟩ :=
    (ledger_of_run hrun).committed u hu registration rows hcommits
  have hinv := inv_of_run hrun
  obtain ⟨call, hcall, -, rfl, -⟩ := hinv.pairing.created _ _ _ hcreated
  obtain ⟨call', hcall', -, rfl, -⟩ := hinv.pairing.created _ _ _ hcreated'
  rw [hcall] at hcall'
  cases hcall'
  exact hgrants

theorem exists_claimedFrom (hrun : Run (service config) (.initial config) history s) {d : UUID}
    {granted : Finset DeviceCapability} (hgrants : HasGrants s.tables d granted) :
    ∃ challenge, ClaimedFrom history d challenge := by
  have hledger := ledger_of_run hrun
  have hregistered : (s.tables.devices.lookup d).isSome := by
    obtain ⟨device, -, -, hrow⟩ := hgrants
    rw [hrow]
    rfl
  obtain ⟨u, hu, registration, rows, hcommits, hid⟩ := hledger.registered d hregistered
  obtain ⟨challenge, record, hcreated, -⟩ := hledger.committed u hu registration rows hcommits
  exact ⟨challenge, u, hu, registration, rows, record, hcommits, hid, hcreated⟩

/-- The grants of the challenge reach every place that holds a copy of them, and nothing
beyond them gets anywhere. -/
structure Contained (history : List (Step config)) (s : State config) : Prop where
  dispatched : ∀ u ∈ history, ∀ x transport command sessionId,
    .transport (.sendCommand x transport command sessionId) ∈ u.events →
      (∃ challenge, ClaimedFrom history command.deviceId challenge) ∧
      (∀ challenge, ClaimedFrom history command.deviceId challenge →
        command.capability ∈ challenge.grantedCapabilities) ∧
      CapabilityRegistry.allows config.definitions command.capability command.action = true
  effective : ∀ d k, s.manager.connections.lookup d = some k →
    (∃ challenge, ClaimedFrom history d challenge) ∧
      ∀ challenge, ClaimedFrom history d challenge →
        k.effectiveCapabilities = k.advertisedCapabilities ∩ challenge.grantedCapabilities
  /-- The record of a device that is not revoked. -/
  stored : ∀ d device, s.tables.get config.dialect d = .ok (some device) →
    device.status ≠ .revoked → device.id = d ∧ ChecksAgree s.manager device
  /-- The record that a call has read, which may be older. -/
  read : ∀ x request d device,
    s.calls x = some ⟨request, .awaitingGet d (some (.ok (some device)))⟩ →
    device.status ≠ .revoked → device.id = d ∧ ChecksAgree s.manager device

theorem grant_containment (hrun : Run (service config) (.initial config) history s) :
    Contained history s := by
  have hinv := inv_of_run hrun
  have agree {device : Device} (hstatus : device.status ≠ .revoked)
      (hgrants : HasGrants s.tables device.id device.grantedCapabilities) :
      ChecksAgree s.manager device := by
    refine checksAgree hstatus ?_
    intro k hk
    obtain ⟨hlive, granted, hgrants', heffective⟩ := hinv.manager.connections _ k hk
    obtain rfl := hgrants.unique hgrants'
    exact ⟨hlive, heffective⟩
  constructor
  · intro u hu x transport command sessionId hsend
    have hcall : .sendCommand x transport command sessionId ∈ transportCalls u.events :=
      List.mem_filterMap.mpr ⟨_, hsend, rfl⟩
    obtain ⟨⟨granted, hgrants, hmem⟩, hallows⟩ :=
      (ledger_of_run hrun).dispatched u hu x transport command sessionId hcall
    refine ⟨exists_claimedFrom hrun hgrants, ?_, hallows⟩
    intro challenge hclaimed
    rw [hgrants.unique (hasGrants_of_claimedFrom hrun hclaimed)]
    exact hmem
  · intro d k hk
    obtain ⟨-, granted, hgrants, heffective⟩ := hinv.manager.connections d k hk
    refine ⟨exists_claimedFrom hrun hgrants, ?_⟩
    intro challenge hclaimed
    rw [hgrants.unique (hasGrants_of_claimedFrom hrun hclaimed)]
    exact heffective
  · intro d device hget hstatus
    obtain ⟨rfl, hgrants, -⟩ := get_eq_some hinv.durable hget
    exact ⟨rfl, agree hstatus hgrants⟩
  · intro x request d device hcall hstatus
    obtain ⟨rfl, hgrants, -⟩ := (hinv.calls x _ hcall).read d device rfl
    exact ⟨rfl, agree hstatus hgrants⟩

end Runs

section Samples

open JarvisCore.Security.Credentials.DeviceCredentialCodec (sampleCodec)

def sampleService : Config String where
  pairing := sampleConfig
  codec := sampleCodec
  dialect := .postgresql
  definitions := []
  pairingTtl := 60
  commandTimeoutSeconds := 30

def sampleDevice : UUID := ⟨1⟩
def sampleSession : UUID := ⟨7⟩

def sampleInputs : Inputs :=
  { clock := ⟨2, some 0⟩, now := ⟨2, 0⟩, sessionId := sampleSession, commandId := ⟨9⟩ }

def sampleToken : String := "jv1." ++ sampleDevice.text ++ ".device secret 012"

/-- A device is paired for the capability `system`. -/
def samplePaired : List (Action sampleService) :=
  [.createPairing 0 {.system} ⟨1⟩ "pairing secret 01" ⟨0, some 0⟩,
    .pairDevice 1 ⟨1⟩ "pairing secret 01" "Desk" ⟨1, some 0⟩
      ⟨sampleDevice, sampleDevice, "device secret 012"⟩,
    .advancePairing 1 .completed, .advancePairing 1 .completed, .advancePairing 1 .completed]

def sampleCall (x : Nat) (request : Request) : List (Action sampleService) :=
  [.start x request, .perform x .completed, .proceed x sampleInputs]

/-- The device connects, advertises more than it was granted, and gets a command. -/
def sampleDispatched : List (Action sampleService) :=
  samplePaired ++ sampleCall 2 (.connectDevice sampleDevice 0) ++
    sampleCall 3 (.activateDevice sampleDevice sampleSession {.system, .files}) ++
    sampleCall 4 (.executeCommand sampleDevice .system "get_info" [])

def sends (history : List (Step sampleService)) : Bool :=
  history.any fun u => u.events.any fun
    | .transport (.sendCommand _ _ command _) => command.deviceId = sampleDevice
    | _ => false

theorem grant_containment_dispatched :
    ∃ history s, Run (service sampleService) (.initial sampleService) history s ∧
      sends history = true ∧ Contained history s := by
  obtain ⟨history, s, hrun, hsends⟩ := exists_run_of_replay (S := service sampleService)
    (s := .initial sampleService) sampleDispatched (fun history _ => sends history) (by decide)
  exact ⟨history, s, hrun, hsends, grant_containment hrun⟩

end Samples

end JarvisCore.Service.GrantContainment
