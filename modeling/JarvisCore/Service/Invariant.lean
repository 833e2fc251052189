import JarvisCore.Manager.Connections
import JarvisCore.Pairing.DurableClaim
import JarvisCore.Security.DeviceRecords
import JarvisCore.Service.Effects

namespace JarvisCore.Service.Invariant

open JarvisCore.Domain.Values
open JarvisCore.Domain.Errors
open JarvisCore.Domain.Models
open JarvisCore.Foundation.AsyncIO
open JarvisCore.Foundation.Dictionary
open JarvisCore.Foundation.TransitionSystem
open JarvisCore.Manager.Operations (TransportCall LiveConnection)
open JarvisCore.Manager.Connections
open JarvisCore.Pairing.Backends
open JarvisCore.Pairing.DurableClaim
open JarvisCore.Security.DeviceTables
open JarvisCore.Security.DeviceRecords
open JarvisCore.Service.Operations
open JarvisCore.Service.Effects

variable {Digest : Type} {config : Config Digest}

/-- The call holds the lock if its request runs under it. -/
def InSection : Stage → Prop
  | .waitingForLock _ | .finished _ => False
  | _ => True

/-- What the local variables of a call say about the database. -/
structure CallOk (tables : Tables Digest) (owner : Option Nat) (x : Nat) (call : Call) : Prop where
  owned : call.request.underLock = true → InSection call.stage → owner = some x
  identifying : ∀ token answer, call.stage = .awaitingAuthenticate token answer →
    call.request = .authenticate token
  target : ∀ d answer, call.stage = .awaitingGet d answer →
    ∀ d', call.request.deviceId? = some d' → d' = d
  read : ∀ d device, call.stage = .awaitingGet d (some (.ok (some device))) →
    device.id = d ∧ HasGrants tables d device.grantedCapabilities ∧
      (device.status = .revoked → Revoked tables d)
  /-- A connecting call has read the status that the record still has. -/
  fresh : ∀ d d' transport device, call.request = .connectDevice d' transport →
    call.stage = .awaitingGet d (some (.ok (some device))) → Revoked tables d →
      device.status = .revoked
  revoking : ∀ d device answer, call.stage = .awaitingRevoke d device answer →
    call.request = .revokeDevice d ∧ device.id = d ∧
      HasGrants tables d device.grantedCapabilities ∧
      (answer = some (.ok ()) → Stripped tables d)
  saving : ∀ d device answer, call.stage = .awaitingSave d device answer →
    call.request = .revokeDevice d ∧ device.id = d ∧
      HasGrants tables d device.grantedCapabilities ∧ device.status = .revoked ∧
      Stripped tables d ∧ (answer = some (.ok ()) → Revoked tables d)

/-- The capability of the command is granted, and its action is defined. -/
def Allowed (config : Config Digest) (tables : Tables Digest) (command : DeviceCommand) : Prop :=
  (∃ granted, HasGrants tables command.deviceId granted ∧ command.capability ∈ granted) ∧
    CapabilityRegistry.allows config.definitions command.capability command.action = true

/-- Nothing in the manager goes beyond the grants in the database. -/
structure ManagerOk (config : Config Digest) (tables : Tables Digest)
    (manager : Manager.Operations.State) : Prop where
  connections : ∀ d k, manager.connections.lookup d = some k → k.status ≠ .revoked ∧
    ∃ granted, HasGrants tables d granted ∧
      k.effectiveCapabilities = k.advertisedCapabilities ∩ granted
  commands : ∀ x call, manager.calls x = some (.admitted call) →
    Allowed config tables call.admission.command

variable [DecidableEq Digest]

structure Inv (log : List (Pairing.Challenges.Event Digest)) (s : State config) : Prop where
  pairing : Pairing.Contract.Inv config.pairing log s.pairing
  staged : Staged s.pairing
  lifecycle : s.lifecycle.WellFormed
  durable : Durable s.tables
  stripped : ∀ d, Revoked s.tables d → Stripped s.tables d
  calls : ∀ x call, s.calls x = some call → CallOk s.tables s.lifecycle.owner x call
  manager : ManagerOk config s.tables s.manager
  /-- A call of the manager is the end of an `execute_command`. -/
  executing : ∀ x, s.manager.calls x ≠ none →
    ∃ request command, s.calls x = some ⟨request, .awaitingExecute command⟩

omit [DecidableEq Digest] in
theorem CallOk.grows {tables tables' : Tables Digest} {owner owner' : Option Nat} {x : Nat}
    {call : Call} (h : CallOk tables owner x call) (hgrows : Grows tables tables')
    (howner : owner = some x → owner' = some x)
    (hnewly : ∀ d, Revoked tables' d → Revoked tables d ∨ owner ≠ some x ∨
      ∀ d' transport, call.request ≠ .connectDevice d' transport) :
    CallOk tables' owner' x call where
  owned hlock hsection := howner (h.owned hlock hsection)
  identifying := h.identifying
  target := h.target
  read d device hstage := by
    obtain ⟨hid, hgrants, hrevoked⟩ := h.read d device hstage
    exact ⟨hid, hgrows.grants _ _ hgrants, fun hstatus => hgrows.revoked _ (hrevoked hstatus)⟩
  fresh d d' transport device hrequest hstage hrevoked := by
    rcases hnewly d hrevoked with hrevoked | hnot | hnot
    · exact h.fresh d d' transport device hrequest hstage hrevoked
    · refine absurd (h.owned ?_ ?_) hnot
      · rw [hrequest]
        rfl
      · rw [hstage]
        trivial
    · exact absurd hrequest (hnot d' transport)
  revoking d device answer hstage := by
    obtain ⟨hrequest, hid, hgrants, hstripped⟩ := h.revoking d device answer hstage
    exact ⟨hrequest, hid, hgrows.grants _ _ hgrants, fun hanswer =>
      hgrows.stripped _ (hstripped hanswer)⟩
  saving d device answer hstage := by
    obtain ⟨hrequest, hid, hgrants, hstatus, hstripped, hrevoked⟩ := h.saving d device answer hstage
    exact ⟨hrequest, hid, hgrows.grants _ _ hgrants, hstatus, hgrows.stripped _ hstripped,
      fun hanswer => hgrows.revoked _ (hrevoked hanswer)⟩

omit [DecidableEq Digest] in
theorem Allowed.grows {tables tables' : Tables Digest} {command : DeviceCommand}
    (h : Allowed config tables command) (hgrows : Grows tables tables') :
    Allowed config tables' command := by
  obtain ⟨⟨granted, hgrants, hmem⟩, hallows⟩ := h
  exact ⟨⟨granted, hgrows.grants _ _ hgrants, hmem⟩, hallows⟩

omit [DecidableEq Digest] in
theorem ManagerOk.grows {tables tables' : Tables Digest} {manager : Manager.Operations.State}
    (h : ManagerOk config tables manager) (hgrows : Grows tables tables') :
    ManagerOk config tables' manager where
  connections d k hk := by
    obtain ⟨hstatus, granted, hgrants, heffective⟩ := h.connections d k hk
    exact ⟨hstatus, granted, hgrows.grants _ _ hgrants, heffective⟩
  commands x call hcall := (h.commands x call hcall).grows hgrows

/-- The steps of the manager that the service makes, with what it has checked. -/
inductive ManagerStep (s : State config) : Manager.Execution.Action → Prop
  | passes {action : Manager.Execution.Action} : passedOn action = true → ManagerStep s action
  | connects (x : Nat) (d d' : UUID) (transport : Nat) (device : Device) (sessionId : UUID)
      (now : AwareDatetime) :
      s.calls x = some ⟨.connectDevice d' transport, .awaitingGet d (some (.ok (some device)))⟩ →
      device.status ≠ .revoked → ManagerStep s (.connect d transport sessionId now)
  | activates (x : Nat) (d d' sessionId : UUID) (advertised : Finset DeviceCapability)
      (device : Device) (now : AwareDatetime) :
      s.calls x = some
        ⟨.activateDevice d' sessionId advertised, .awaitingGet d (some (.ok (some device)))⟩ →
      ManagerStep s (.activate d sessionId advertised
        (advertised ∩ device.grantedCapabilities) now)
  | disconnects (x : Nat) (d : UUID) (stage : Stage) (code : Nat) (reason : String) :
      s.calls x = some ⟨.revokeDevice d, stage⟩ → ManagerStep s (.disconnectDevice d code reason)
  | executes (x : Nat) (request : Request) (stage : Stage) (command : DeviceCommand)
      (timeoutSeconds : Int) (now : AwareDatetime) :
      s.calls x = some ⟨request, stage⟩ → (∀ command, stage ≠ .awaitingExecute command) →
      CapabilityRegistry.allows config.definitions command.capability command.action = true →
      ManagerStep s (.execute x command timeoutSeconds now)

theorem ManagerOk.step {log : List (Pairing.Challenges.Event Digest)} {s : State config}
    (hinv : Inv log s) {action : Manager.Execution.Action}
    (haction : ManagerStep s action) {manager : Manager.Operations.State}
    {events : List TransportCall}
    (h : Manager.Execution.step s.manager action = some (manager, events)) :
    ManagerOk config s.tables manager where
  connections d k hk := by
    have hold := hinv.manager.connections d
    have hstep := step_connection h d
    cases hstep with
    | kept _ hsame => exact hold k (hsame ▸ hk)
    | dropped _ hnone =>
        rw [hnone] at hk
        cases hk
    | connected k' hk' _ _ _ _ hstatus' hadvertised heffective =>
        obtain rfl : k = k' := Option.some.inj (hk.symm.trans hk')
        cases haction with
        | passes hpassed => cases hpassed
        | connects x _ d' transport device sessionId now hcall =>
            obtain ⟨-, hgrants, -⟩ := (hinv.calls x _ hcall).read d device rfl
            refine ⟨?_, _, hgrants, ?_⟩
            · rw [hstatus']
              exact DeviceStatus.noConfusion
            · rw [hadvertised, heffective, Finset.empty_inter]
    | activated k₀ k' _ _ _ hk' _ hstatus' hadvertised heffective =>
        obtain rfl : k = k' := Option.some.inj (hk.symm.trans hk')
        cases haction with
        | passes hpassed => cases hpassed
        | activates x _ d' sessionId advertised device now hcall =>
            obtain ⟨-, hgrants, -⟩ := (hinv.calls x _ hcall).read d device rfl
            refine ⟨?_, _, hgrants, ?_⟩
            · rw [hstatus']
              exact DeviceStatus.noConfusion
            · rw [hadvertised, heffective]
    | touched k₀ hk₀ _ hk' =>
        obtain rfl := Option.some.inj (hk.symm.trans hk')
        exact hold k₀ hk₀
  commands x call hcall := by
    rcases Manager.Evolution.step_admitted h hcall with
      ⟨call₀, hcall₀, ⟨-, rfl⟩ | ⟨-, hcontinuation⟩⟩ | hstarts
    · exact hinv.manager.commands x call hcall₀
    · rw [hcontinuation.continues.admission]
      exact hinv.manager.commands x call₀ hcall₀
    · obtain ⟨k, now, hexecute, hadmission, ha⟩ := hstarts.registers
      obtain ⟨hk, -, hcapability, -⟩ := Manager.Execution.admission_eq_ok hadmission
      obtain ⟨-, granted, hgrants, heffective⟩ := hinv.manager.connections _ k hk
      refine ⟨⟨granted, hgrants, ?_⟩, ?_⟩
      · rw [heffective] at hcapability
        exact (Finset.mem_inter.mp hcapability).2
      · obtain rfl : action = _ := hexecute
        cases haction with
        | passes hpassed => cases hpassed
        | executes x request stage command timeoutSeconds now _ _ hallows => exact hallows

section Parts

variable {log : List (Pairing.Challenges.Event Digest)} {s : State config}

theorem Inv.not_executing (hinv : Inv log s) {x : Nat} {request : Request} {stage : Stage}
    (hcall : s.calls x = some ⟨request, stage⟩) (hstage : ∀ command, stage ≠ .awaitingExecute command) :
    s.manager.calls x = none := by
  by_contra hne
  obtain ⟨request', command, hcall'⟩ := hinv.executing x hne
  rw [hcall] at hcall'
  cases hcall'
  exact hstage command rfl

theorem Inv.not_started (hinv : Inv log s) {x : Nat} (hfresh : s.calls x = none) :
    s.manager.calls x = none := by
  by_contra hne
  obtain ⟨request, command, hcall⟩ := hinv.executing x hne
  rw [hfresh] at hcall
  cases hcall

theorem Inv.setCall (hinv : Inv log s) {x : Nat} {call : Call}
    (hcall : CallOk s.tables s.lifecycle.owner x call)
    (hexecuting : s.manager.calls x = none ∨ ∃ command, call.stage = .awaitingExecute command) :
    Inv log (s.setCall x call) where
  pairing := hinv.pairing
  staged := hinv.staged
  lifecycle := hinv.lifecycle
  durable := hinv.durable
  stripped := hinv.stripped
  calls y known hy := by
    by_cases hyx : y = x
    · subst hyx
      obtain rfl : call = known := by simpa [State.setCall] using hy
      exact hcall
    · exact hinv.calls y known (by simpa [State.setCall, Function.update_of_ne hyx] using hy)
  manager := hinv.manager
  executing y hy := by
    by_cases hyx : y = x
    · subst hyx
      rcases hexecuting with hnone | ⟨command, hstage⟩
      · exact absurd hnone hy
      · exact ⟨call.request, command, by simp [State.setCall, ← hstage]⟩
    · obtain ⟨request, command, hknown⟩ := hinv.executing y hy
      exact ⟨request, command, by simpa [State.setCall, Function.update_of_ne hyx] using hknown⟩

theorem Inv.withLock (hinv : Inv log s) {lock : Lock Nat} (hwell : lock.WellFormed)
    (howner : ∀ x call, s.calls x = some call → call.request.underLock = true →
      InSection call.stage → lock.owner = s.lifecycle.owner) :
    Inv log { s with lifecycle := lock } where
  pairing := hinv.pairing
  staged := hinv.staged
  lifecycle := hwell
  durable := hinv.durable
  stripped := hinv.stripped
  calls x call hcall := by
    have hok := hinv.calls x call hcall
    exact ⟨fun hlock hsection => (howner x call hcall hlock hsection).trans
      (hok.owned hlock hsection), hok.identifying, hok.target, hok.read, hok.fresh, hok.revoking,
      hok.saving⟩
  manager := hinv.manager
  executing := hinv.executing

theorem Inv.withManager (hinv : Inv log s) {manager : Manager.Operations.State}
    (hmanager : ManagerOk config s.tables manager)
    (hexecuting : ∀ x, manager.calls x ≠ none →
      ∃ request command, s.calls x = some ⟨request, .awaitingExecute command⟩) :
    Inv log { s with manager } where
  pairing := hinv.pairing
  staged := hinv.staged
  lifecycle := hinv.lifecycle
  durable := hinv.durable
  stripped := hinv.stripped
  calls := hinv.calls
  manager := hmanager
  executing := hexecuting

/-- The tables grow, and what is newly revoked is so by the holder of the lock. -/
theorem Inv.withTables (hinv : Inv log s) {tables : Tables Digest}
    (hgrows : Grows s.tables tables) (hdurable : Durable tables)
    (hstripped : ∀ d, Revoked tables d → Stripped tables d)
    (hnewly : ∀ d, Revoked tables d → Revoked s.tables d ∨ ∀ x call, s.calls x = some call →
      s.lifecycle.owner ≠ some x ∨ ∀ d' transport, call.request ≠ .connectDevice d' transport) :
    Inv log (s.withTables tables) where
  pairing :=
    { lock := hinv.pairing.lock
      calls := hinv.pairing.calls
      created := hinv.pairing.created
      known := hinv.pairing.known
      records := hinv.pairing.records
      registering := hinv.pairing.registering
      returned := hinv.pairing.returned
      claims := hinv.pairing.claims }
  staged := hinv.staged
  lifecycle := hinv.lifecycle
  durable := hdurable
  stripped := hstripped
  calls x call hcall := by
    refine (hinv.calls x call hcall).grows hgrows id ?_
    intro d hrevoked
    exact (hnewly d hrevoked).imp_right fun h => h x call hcall
  manager := hinv.manager.grows hgrows
  executing := hinv.executing

omit [DecidableEq Digest] in
theorem callOk_finished (tables : Tables Digest) (owner : Option Nat) (x : Nat)
    (request : Request) (outcome : Except Raised Value) :
    CallOk tables owner x ⟨request, .finished outcome⟩ where
  owned _ hsection := hsection.elim
  identifying _ _ h := by cases h
  target _ _ h := by cases h
  read _ _ h := by cases h
  fresh _ _ _ _ _ h := by cases h
  revoking _ _ _ h := by cases h
  saving _ _ _ h := by cases h

theorem Inv.finish (hinv : Inv log s) {x : Nat} {request : Request} {stage : Stage}
    (hcall : s.calls x = some ⟨request, stage⟩) (hsection : InSection stage)
    (hstage : ∀ command, stage ≠ .awaitingExecute command) (outcome : Except Raised Value) :
    Inv log (Operations.finish s x request outcome) := by
  have hset : Inv log (s.setCall x ⟨request, .finished outcome⟩) :=
    hinv.setCall (callOk_finished _ _ _ _ _) (.inl (hinv.not_executing hcall hstage))
  unfold Operations.finish
  dsimp only
  split
  · rename_i hlock
    refine hset.withLock hinv.lifecycle.release ?_
    intro y call hy hlocky hsectiony
    have howner := (hinv.calls x _ hcall).owned hlock hsection
    have howner' := (hset.calls y call hy).owned hlocky hsectiony
    obtain rfl : y = x := Option.some.inj (howner'.symm.trans howner)
    obtain rfl : _ = call := by simpa [State.setCall] using hy
    exact hsectiony.elim
  · exact hset

end Parts

def pairingEvents (events : List (Event Digest)) : List (Pairing.Challenges.Event Digest) :=
  events.filterMap fun
    | .pairing event => some event
    | .transport _ => none

def transportCalls (events : List (Event Digest)) : List TransportCall :=
  events.filterMap fun
    | .transport call => some call
    | .pairing _ => none

omit [DecidableEq Digest] in
@[simp] theorem pairingEvents_pairing (events : List (Pairing.Challenges.Event Digest)) :
    pairingEvents (events.map .pairing) = events := by
  simp [pairingEvents, List.filterMap_map]

omit [DecidableEq Digest] in
@[simp] theorem pairingEvents_transport (events : List TransportCall) :
    pairingEvents (events.map (.transport : TransportCall → Event Digest)) = [] := by
  simp [pairingEvents, List.filterMap_map]

omit [DecidableEq Digest] in
@[simp] theorem transportCalls_pairing (events : List (Pairing.Challenges.Event Digest)) :
    transportCalls (events.map .pairing) = [] := by
  simp [transportCalls, List.filterMap_map]

omit [DecidableEq Digest] in
@[simp] theorem transportCalls_transport (events : List TransportCall) :
    transportCalls (events.map (.transport : TransportCall → Event Digest)) = events := by
  simp [transportCalls, List.filterMap_map]

theorem passedOn_calls {manager manager' : Manager.Operations.State}
    {action : Manager.Execution.Action} {events : List TransportCall}
    (hpassed : passedOn action = true)
    (h : Manager.Execution.step manager action = some (manager', events)) (x : Nat)
    (hx : manager'.calls x ≠ none) : manager.calls x ≠ none := by
  by_cases hactor : Manager.Evolution.actor action = some x
  · have running {f : Manager.Operations.AdmittedCall → Option Manager.Execution.Result}
        (h : Manager.Execution.onCall manager x f = some (manager', events)) :
        manager.calls x ≠ none := by
      obtain ⟨call, hcall, -⟩ := Manager.Execution.onCall_eq_some h
      rw [hcall]
      exact Option.some_ne_none _
    cases action with
    | execute => cases hpassed
    | connect | activate | disconnect | disconnectDevice | touch | resolve | closeAll => cases hactor
    | resumeLock y | copyResult y | fireTimer y | resumeWait y | cancel y =>
        cases hactor
        exact running h
    | completeSend y failure now =>
        cases hactor
        exact running h
  · rwa [(Manager.Evolution.step_frame h hactor).1] at hx

section Steps

variable {log : List (Pairing.Challenges.Event Digest)} {s t : State config}

theorem Inv.pairs_store (hinv : Inv log s)
    {action : Pairing.Challenges.Action (sql config.codec)}
    {pairing : Pairing.Challenges.State Digest (sql config.codec)}
    {events : List (Pairing.Challenges.Event Digest)}
    (h : Pairing.Challenges.step config.pairing s.pairing action = some (pairing, events)) :
    pairing.store = s.tables ∨ ∃ registration rows,
      Commits (Pairing.Challenges.actor action) registration rows
        ⟨s.pairing, action, events, pairing⟩ ∧ rows.device.revokedAt = none := by
  rcases (step_moves hinv.pairing hinv.staged h).store with hsame | ⟨registration, rows, hcommits⟩
  · exact .inl hsame
  · refine .inr ⟨registration, rows, hcommits, ?_⟩
    obtain ⟨call, hcall, -, hstage⟩ := hcommits.call
    obtain ⟨pairingId, secret, name, registration, stage⟩ := call
    obtain rfl := hstage
    obtain ⟨-, -, -, hnew⟩ := hinv.staged _ _ rows hcall rfl
    exact hnew

theorem Inv.pairs (hinv : Inv log s)
    {action : Pairing.Challenges.Action (sql config.codec)}
    {pairing : Pairing.Challenges.State Digest (sql config.codec)}
    {events : List (Pairing.Challenges.Event Digest)}
    (h : Pairing.Challenges.step config.pairing s.pairing action = some (pairing, events)) :
    Inv (events ++ log) { s with pairing } ∧ Grows s.tables pairing.store := by
  have htables : Grows s.tables pairing.store ∧ Durable pairing.store ∧
      ∀ d, Revoked pairing.store d ↔ Revoked s.tables d := by
    rcases hinv.pairs_store h with hsame | ⟨registration, rows, hcommits, hnew⟩
    · rw [show pairing.store = s.tables from hsame]
      exact ⟨.refl _, hinv.durable, fun _ => Iff.rfl⟩
    · have hcommit : s.tables.register rows.device rows.issued rows.createdAt =
          some pairing.store := hcommits.committed
      exact ⟨register_grows hcommit, register_durable hcommit hinv.durable,
        register_revoked_iff hcommit hnew⟩
  obtain ⟨hgrows, hdurable, hrevoked⟩ := htables
  exact
    ⟨{ pairing := hinv.pairing.step h
       staged := hinv.staged.step hinv.pairing h
       lifecycle := hinv.lifecycle
       durable := hdurable
       stripped := fun d h => hgrows.stripped d (hinv.stripped d ((hrevoked d).mp h))
       calls := fun x call hcall => (hinv.calls x call hcall).grows hgrows id
         fun d h => .inl ((hrevoked d).mp h)
       manager := hinv.manager.grows hgrows
       executing := hinv.executing }, hgrows⟩

section Stages

variable {tables : Tables Digest} {owner : Option Nat} {x : Nat} {request : Request} {d : UUID}
  {device : Device}

omit [DecidableEq Digest]

theorem callOk_authenticating {token : String} {answer : Option (Except Raised (Option UUID))}
    (howned : request.underLock = true → owner = some x)
    (hrequest : request = .authenticate token) :
    CallOk tables owner x ⟨request, .awaitingAuthenticate token answer⟩ where
  owned hlock _ := howned hlock
  identifying _ _ h := by
    cases h
    exact hrequest
  target _ _ h := by cases h
  read _ _ h := by cases h
  fresh _ _ _ _ _ h := by cases h
  revoking _ _ _ h := by cases h
  saving _ _ _ h := by cases h

theorem callOk_getting {answer : Option (Except Raised (Option Device))}
    (howned : request.underLock = true → owner = some x)
    (hd : ∀ d', request.deviceId? = some d' → d' = d)
    (hread : ∀ device, answer = some (.ok (some device)) → device.id = d ∧
      HasGrants tables d device.grantedCapabilities ∧
      (device.status = .revoked ↔ Revoked tables d)) :
    CallOk tables owner x ⟨request, .awaitingGet d answer⟩ where
  owned hlock _ := howned hlock
  identifying _ _ h := by cases h
  target _ _ h := by
    cases h
    exact hd
  read _ device h := by
    cases h
    obtain ⟨hid, hgrants, hstatus⟩ := hread device rfl
    exact ⟨hid, hgrants, hstatus.mp⟩
  fresh _ _ _ device _ h hrevoked := by
    cases h
    exact (hread device rfl).2.2.mpr hrevoked
  revoking _ _ _ h := by cases h
  saving _ _ _ h := by cases h

theorem callOk_get (hd : ∀ d', request.deviceId? = some d' → d' = d)
    (howned : request.underLock = true → owner = some x) :
    CallOk tables owner x ⟨request, .awaitingGet d none⟩ :=
  callOk_getting howned hd fun _ h => by cases h

theorem callOk_revoking {answer : Option (Except Raised Unit)}
    (howned : request.underLock = true → owner = some x)
    (hrequest : request = .revokeDevice d) (hid : device.id = d)
    (hgrants : HasGrants tables d device.grantedCapabilities)
    (hstripped : answer = some (.ok ()) → Stripped tables d) :
    CallOk tables owner x ⟨request, .awaitingRevoke d device answer⟩ where
  owned hlock _ := howned hlock
  identifying _ _ h := by cases h
  target _ _ h := by cases h
  read _ _ h := by cases h
  fresh _ _ _ _ _ h := by cases h
  revoking _ _ _ h := by
    cases h
    exact ⟨hrequest, hid, hgrants, hstripped⟩
  saving _ _ _ h := by cases h

theorem callOk_saving {answer : Option (Except Raised Unit)}
    (howned : request.underLock = true → owner = some x)
    (hrequest : request = .revokeDevice d) (hid : device.id = d)
    (hgrants : HasGrants tables d device.grantedCapabilities) (hstatus : device.status = .revoked)
    (hstripped : Stripped tables d) (hrevoked : answer = some (.ok ()) → Revoked tables d) :
    CallOk tables owner x ⟨request, .awaitingSave d device answer⟩ where
  owned hlock _ := howned hlock
  identifying _ _ h := by cases h
  target _ _ h := by cases h
  read _ _ h := by cases h
  fresh _ _ _ _ _ h := by cases h
  revoking _ _ _ h := by cases h
  saving _ _ _ h := by
    cases h
    exact ⟨hrequest, hid, hgrants, hstatus, hstripped, hrevoked⟩

end Stages

omit [DecidableEq Digest] in
theorem callOk_idle {tables : Tables Digest} {owner : Option Nat} {x : Nat} {request : Request}
    {stage : Stage} (howned : request.underLock = true → InSection stage → owner = some x)
    (hstage : (∃ cancelled, stage = .waitingForLock cancelled) ∨
      (∃ value, stage = .awaitingClose value) ∨ ∃ command, stage = .awaitingExecute command) :
    CallOk tables owner x ⟨request, stage⟩ where
  owned := howned
  identifying _ _ h := by
    obtain rfl : stage = _ := h
    simp at hstage
  target _ _ h := by
    obtain rfl : stage = _ := h
    simp at hstage
  read _ _ h := by
    obtain rfl : stage = _ := h
    simp at hstage
  fresh _ _ _ _ _ h := by
    obtain rfl : stage = _ := h
    simp at hstage
  revoking _ _ _ h := by
    obtain rfl : stage = _ := h
    simp at hstage
  saving _ _ _ h := by
    obtain rfl : stage = _ := h
    simp at hstage

/-- What the database does for a call takes nothing back and registers nobody. -/
theorem Inv.performs_tables (hinv : Inv log s) {x : Nat} {request : Request}
    {stage stage' : Stage} {tables : Tables Digest} (hcall : s.calls x = some ⟨request, stage⟩)
    (h : Performs config s.tables stage stage' tables) :
    Grows s.tables tables ∧
      ∀ d, (tables.devices.lookup d).isSome → (s.tables.devices.lookup d).isSome := by
  have hok := hinv.calls x _ hcall
  cases h with
  | authenticates | gets => exact ⟨.refl _, fun _ h => h⟩
  | revokes d device answer _ hanswer =>
      rcases hanswer with rfl | ⟨rfl, -⟩
      · exact ⟨revoke_grows d, fun _ h => h⟩
      · exact ⟨.refl _, fun _ h => h⟩
  | saves d device answer _ hanswer =>
      obtain ⟨-, rfl, hgrants, hstatus, -, -⟩ := hok.saving d device none rfl
      rcases hanswer with hsave | ⟨rfl, -⟩
      · refine ⟨(save_grows hsave hgrants hstatus).1, ?_⟩
        intro d h
        rw [save_lookup hsave] at h
        split at h
        · rename_i hd
          obtain ⟨known, -, -, hrow⟩ := hgrants
          rw [hd, hrow]
          rfl
        · exact h
      · exact ⟨.refl _, fun _ h => h⟩

/-- `revoke` on the table of credentials, which it leaves as it is when it raises. -/
theorem Inv.revokes_credentials (hinv : Inv log s) {d : UUID} {answer : Except Raised Unit}
    {tables : Tables Digest} {granted : Finset DeviceCapability} (hgrows : Grows s.tables tables)
    (hgrants : HasGrants s.tables d granted)
    (hanswer : tables = s.tables.revoke d ∨ (tables = s.tables ∧ answer ≠ .ok ())) :
    Inv log (s.withTables tables) ∧ (answer = .ok () → Stripped tables d) := by
  rcases hanswer with rfl | ⟨rfl, hfailed⟩
  · refine ⟨hinv.withTables hgrows (revoke_durable d hinv.durable)
      (fun d' h => hgrows.stripped d' (hinv.stripped d' h)) (fun d' h => .inl h), ?_⟩
    intro _
    obtain ⟨known, -, -, hrow⟩ := hgrants
    exact revoke_stripped d (by rw [hrow]; rfl)
  · exact ⟨hinv, fun h => absurd h hfailed⟩

/-- `save` of a device that has lost its credentials: no other call can be connecting it. -/
theorem Inv.saves_device (hinv : Inv log s) {x : Nat} {device : Device}
    {answer : Except Raised Unit} {tables : Tables Digest}
    (hcall : s.calls x =
      some ⟨.revokeDevice device.id, .awaitingSave device.id device none⟩)
    (howner : s.lifecycle.owner = some x) (hgrows : Grows s.tables tables)
    (hgrants : HasGrants s.tables device.id device.grantedCapabilities)
    (hstatus : device.status = .revoked) (hstripped : Stripped s.tables device.id)
    (hanswer : s.tables.save device = .ok tables ∨ (tables = s.tables ∧ answer ≠ .ok ())) :
    Inv log (s.withTables tables) ∧ (answer = .ok () → Revoked tables device.id) := by
  rcases hanswer with hsave | ⟨rfl, hfailed⟩
  · refine ⟨hinv.withTables hgrows (save_durable hsave hinv.durable) ?_ ?_,
      fun _ => (save_grows hsave hgrants hstatus).2⟩
    · intro d' h
      by_cases hd : d' = device.id
      · exact hd ▸ hgrows.stripped _ hstripped
      · exact hgrows.stripped d' (hinv.stripped d' ((save_revoked_iff hsave hd).mp h))
    · intro d' h
      by_cases hd : d' = device.id
      · refine .inr ?_
        intro y call hy
        by_cases hyx : y = x
        · subst hyx
          rw [hcall] at hy
          cases hy
          exact .inr (by simp)
        · refine .inl ?_
          rw [howner]
          intro h
          exact hyx (Option.some.inj h).symm
      · exact .inl ((save_revoked_iff hsave hd).mp h)
  · exact ⟨hinv, fun h => absurd h hfailed⟩

theorem Inv.performs (hinv : Inv log s) {x : Nat} {request : Request} {stage stage' : Stage}
    {tables : Tables Digest} (hcall : s.calls x = some ⟨request, stage⟩)
    (h : Performs config s.tables stage stage' tables) :
    Inv log ((s.withTables tables).setCall x ⟨request, stage'⟩) := by
  have hok := hinv.calls x _ hcall
  have hgrows := (hinv.performs_tables hcall h).1
  cases h with
  | authenticates token answer =>
      have hexecuting := hinv.not_executing hcall (by simp)
      refine Inv.setCall (s := s) hinv ?_ (.inl hexecuting)
      exact callOk_authenticating (fun hlock => hok.owned hlock trivial)
        (hok.identifying token none rfl)
  | gets d answer hanswer =>
      have hexecuting := hinv.not_executing hcall (by simp)
      refine Inv.setCall (s := s) hinv ?_ (.inl hexecuting)
      refine callOk_getting (fun hlock => hok.owned hlock trivial) (hok.target d none rfl) ?_
      intro device hread
      exact get_eq_some hinv.durable (hanswer device (Option.some.inj hread))
  | revokes d device answer tables' hanswer =>
      have hexecuting := hinv.not_executing hcall (by simp)
      obtain ⟨hrequest, hid, hgrants, -⟩ := hok.revoking d device none rfl
      obtain ⟨hnext, hstripped⟩ := hinv.revokes_credentials hgrows hgrants hanswer
      refine hnext.setCall ?_ (.inl hexecuting)
      exact callOk_revoking (fun hlock => hok.owned hlock trivial) hrequest hid
        (hgrows.grants _ _ hgrants) fun h => hstripped (Option.some.inj h)
  | saves d device answer tables' hanswer =>
      have hexecuting := hinv.not_executing hcall (by simp)
      obtain ⟨hrequest, rfl, hgrants, hstatus, hstripped, -⟩ := hok.saving d device none rfl
      obtain rfl : request = .revokeDevice device.id := hrequest
      have howner := hok.owned rfl trivial
      obtain ⟨hnext, hrevoked⟩ :=
        hinv.saves_device hcall howner hgrows hgrants hstatus hstripped hanswer
      refine hnext.setCall ?_ (.inl hexecuting)
      exact callOk_saving (fun _ => howner) rfl rfl (hgrows.grants _ _ hgrants) hstatus
        (hgrows.stripped _ hstripped) fun h => hrevoked (Option.some.inj h)

omit [DecidableEq Digest] in
theorem inSection_of_answered {stage : Stage} (h : Answered stage) : InSection stage := by
  cases stage with
  | waitingForLock | finished => exact h
  | awaitingAuthenticate | awaitingGet | awaitingRevoke | awaitingSave | awaitingClose
  | awaitingExecute => trivial

omit [DecidableEq Digest] in
theorem ne_execute_of_answered {stage : Stage} (h : Answered stage) (command : DeviceCommand) :
    stage ≠ .awaitingExecute command := by
  rintro rfl
  exact h

theorem Inv.concludes (hinv : Inv log s) {x : Nat} {request : Request} {stage : Stage}
    {value : Value} {action : Manager.Execution.Action} {manager : Manager.Operations.State}
    {events : List TransportCall} {r : Result config}
    (hcall : s.calls x = some ⟨request, stage⟩) (hanswered : Answered stage)
    (haction : ManagerStep s action)
    (hstep : Manager.Execution.step s.manager action = some (manager, events))
    (hcalls : manager.calls = s.manager.calls)
    (h : Concludes s x request value manager events r) : Inv log r.1 := by
  have hmanager : Inv log { s with manager } := by
    refine hinv.withManager (.step hinv haction hstep) ?_
    rw [hcalls]
    exact hinv.executing
  have hfresh := hinv.not_executing hcall (ne_execute_of_answered hanswered)
  rcases h with ⟨-, rfl⟩ | ⟨transport, code, reason, -, rfl⟩
  · exact hmanager.finish hcall (inSection_of_answered hanswered) (ne_execute_of_answered hanswered) _
  · refine hmanager.setCall (callOk_idle ?_ (.inr (.inl ⟨value, rfl⟩))) (.inl ?_)
    · intro hlock _
      exact (hinv.calls x _ hcall).owned hlock (inSection_of_answered hanswered)
    · show manager.calls x = none
      rw [hcalls]
      exact hfresh

theorem revokedDevice_eq_ok {device device' : Device} {clock : Datetime}
    (h : revokedDevice device clock = .ok device') :
    device'.id = device.id ∧ device'.grantedCapabilities = device.grantedCapabilities ∧
      device'.status = .revoked := by
  unfold revokedDevice at h
  split at h
  · cases h
  · obtain ⟨hid, -, hgranted, -, hstatus, -⟩ := Device.make_eq_ok h
    exact ⟨hid, hgranted, hstatus⟩

omit [DecidableEq Digest] in
theorem newCommand_eq_ok {id deviceId : UUID} {capability : DeviceCapability} {action : String}
    {arguments : PyDict} {clock : Datetime} {command : DeviceCommand}
    (h : newCommand config id deviceId capability action arguments clock = .ok command) :
    command.deviceId = deviceId ∧ command.capability = capability ∧
      command.action = Foundation.Text.strip action := by
  unfold newCommand at h
  split at h
  · obtain ⟨-, hd, hcapability, haction, -⟩ := DeviceCommand.make_eq_ok h
    exact ⟨hd, hcapability, haction⟩
  · split at h <;> cases h

omit [DecidableEq Digest] in
theorem prepareCommand_eq_ok {manager : Manager.Operations.State} {device : Device}
    {deviceId : UUID} {capability : DeviceCapability} {action : String}
    {arguments : PyDict} {commandId : UUID} {clock : Datetime}
    {command : DeviceCommand}
    (h : prepareCommand config manager device deviceId capability action arguments commandId
      clock = .ok command) :
    command.deviceId = deviceId ∧
      CapabilityRegistry.allows config.definitions command.capability command.action = true := by
  unfold prepareCommand at h
  split at h
  · cases h
  split at h
  · cases h
  split at h
  · cases h
  split at h
  · cases h
  · rename_i hallows
    obtain ⟨hd, hcapability, haction⟩ := newCommand_eq_ok h
    have hallows : CapabilityRegistry.allows config.definitions capability action = true := by
      simpa using hallows
    rw [hcapability, haction, CapabilityRegistry.strip_of_allows hallows]
    exact ⟨hd, hallows⟩

omit [DecidableEq Digest] in
theorem CallOk.disconnecting {tables : Tables Digest} {owner : Option Nat} {x : Nat}
    {request : Request} {stage : Stage} (hok : CallOk tables owner x ⟨request, stage⟩)
    {d d' : UUID} {device : Device}
    (hstage : (request = .revokeDevice d' ∧ stage = .awaitingGet d (some (.ok (some device))) ∧
      device.status = .revoked) ∨ stage = .awaitingSave d device (some (.ok ()))) :
    request = .revokeDevice d ∧ Answered stage := by
  rcases hstage with ⟨rfl, rfl, -⟩ | rfl
  · obtain rfl := hok.target d _ rfl d' rfl
    exact ⟨rfl, trivial⟩
  · exact ⟨(hok.saving d device _ rfl).1, trivial⟩

omit [DecidableEq Digest] in
theorem finish_manager (s : State config) (x : Nat) (request : Request)
    (outcome : Except Raised Value) : (Operations.finish s x request outcome).manager = s.manager := by
  unfold Operations.finish
  dsimp only
  split <;> rfl

omit [DecidableEq Digest] in
theorem concludes_manager {x : Nat} {request : Request} {value : Value}
    {manager : Manager.Operations.State} {events : List TransportCall} {r : Result config}
    (h : Concludes s x request value manager events r) :
    r.1.manager = manager ∧ transportCalls r.2 = events := by
  rcases h with ⟨rfl, rfl⟩ | ⟨transport, code, reason, rfl, rfl⟩
  · exact ⟨finish_manager _ _ _ _, rfl⟩
  · exact ⟨rfl, rfl⟩

theorem Inv.proceeds (hinv : Inv log s) {x : Nat} {request : Request} {stage : Stage}
    {r : Result config} (hcall : s.calls x = some ⟨request, stage⟩)
    (h : Proceeds s x request stage r) : Inv log r.1 := by
  have hok := hinv.calls x _ hcall
  cases h with
  | refuses stage error hanswered =>
      exact hinv.finish hcall (inSection_of_answered hanswered) (ne_execute_of_answered hanswered) _
  | identifies token d =>
      have hrequest := hok.identifying token _ rfl
      obtain rfl : request = _ := hrequest
      refine hinv.setCall (callOk_get ?_ ?_) (.inl (hinv.not_executing hcall (by simp)))
      · intro d' hd
        cases hd
      · intro hlock
        cases hlock
  | reads d device seen =>
      exact hinv.finish hcall trivial (by simp) _
  | strips d d' device hrequest =>
      obtain rfl : request = _ := hrequest
      obtain rfl := hok.target d _ rfl d' rfl
      obtain ⟨hid, hgrants, -⟩ := hok.read _ device rfl
      refine hinv.setCall ?_ (.inl (hinv.not_executing hcall (by simp)))
      exact callOk_revoking (fun hlock => hok.owned hlock trivial) rfl hid hgrants nofun
  | saves d device device' clock hdevice =>
      obtain ⟨hrequest, hid, hgrants, hstripped⟩ := hok.revoking d device _ rfl
      obtain ⟨hid', hgranted', hstatus⟩ := revokedDevice_eq_ok hdevice
      refine hinv.setCall ?_ (.inl (hinv.not_executing hcall (by simp)))
      exact callOk_saving (fun hlock => hok.owned hlock trivial) hrequest (hid'.trans hid)
        (hgranted' ▸ hgrants) hstatus (hstripped rfl) nofun
  | disconnects stage d d' device manager events r hstage hstep hcalls hconcludes =>
      obtain ⟨rfl, hanswered⟩ := hok.disconnecting hstage
      exact hinv.concludes hcall hanswered (.disconnects x d stage _ _ hcall) hstep hcalls hconcludes
  | connects d d' transport device sessionId now manager events r hrequest hstatus hstep hcalls
      hconcludes =>
      obtain rfl : request = _ := hrequest
      exact hinv.concludes hcall trivial (.connects x d d' transport device sessionId now hcall hstatus)
        hstep hcalls hconcludes
  | activates d d' sessionId advertised device now manager hrequest hactivate =>
      obtain rfl : request = _ := hrequest
      have hstep : Manager.Execution.step s.manager (.activate d sessionId advertised
          (advertised ∩ device.grantedCapabilities) now) = some (manager, []) := by
        simp only [Manager.Execution.step, hactivate]
      have hcalls : manager.calls = s.manager.calls := by
        obtain ⟨k, k', -, -, -, -, -, -, -, -, rfl⟩ := Manager.Operations.activate_eq_ok hactivate
        rfl
      have hmanager : Inv log { s with manager } := by
        refine hinv.withManager
          (.step hinv (.activates x d d' sessionId advertised device now hcall) hstep) ?_
        rw [hcalls]
        exact hinv.executing
      exact hmanager.finish hcall trivial (by simp) _
  | executes d d' capability action arguments device commandId clock now command hrequest
      hprepare =>
      have hfresh := hinv.not_executing hcall (by simp)
      have hstep : Manager.Execution.step s.manager (.execute x command
          config.commandTimeoutSeconds now) = some (Manager.Execution.execute s.manager x command
            config.commandTimeoutSeconds now) := by
        simp only [Manager.Execution.step, hfresh]
      have hmanager := ManagerOk.step hinv (.executes x request _ command
        config.commandTimeoutSeconds now hcall (by simp) (prepareCommand_eq_ok hprepare).2) hstep
      have hset : Inv log (s.setCall x ⟨request, .awaitingExecute command⟩) := by
        refine hinv.setCall (callOk_idle ?_ (.inr (.inr ⟨command, rfl⟩))) (.inr ⟨command, rfl⟩)
        intro hlock _
        exact hok.owned hlock trivial
      refine hset.withManager hmanager ?_
      intro y hy
      by_cases hyx : y = x
      · subst hyx
        exact ⟨request, command, by simp [State.setCall]⟩
      · refine hset.executing y ?_
        have hsame := (Manager.Evolution.execute_of_ne (s := s.manager) hyx command
          config.commandTimeoutSeconds now).1
        rwa [hsame] at hy

omit [DecidableEq Digest] in
theorem Concludes.pairingEvents {x : Nat} {request : Request} {value : Value}
    {manager : Manager.Operations.State} {events : List TransportCall} {r : Result config}
    (h : Concludes s x request value manager events r) : pairingEvents r.2 = [] := by
  rcases h with ⟨-, rfl⟩ | ⟨transport, code, reason, -, rfl⟩
  · rfl
  · rfl

omit [DecidableEq Digest] in
theorem Proceeds.pairingEvents {x : Nat} {request : Request} {stage : Stage} {r : Result config}
    (h : Proceeds s x request stage r) : pairingEvents r.2 = [] := by
  cases h with
  | refuses | identifies | reads | strips | saves | activates => rfl
  | disconnects _ _ _ _ _ _ _ _ _ _ hconcludes => exact Concludes.pairingEvents hconcludes
  | connects _ _ _ _ _ _ _ _ _ _ _ _ _ hconcludes => exact Concludes.pairingEvents hconcludes
  | executes => exact pairingEvents_transport _

theorem Inv.step (hinv : Inv log s) {action : Action config} {events : List (Event Digest)}
    (h : Operations.step s action = some (t, events)) : Inv (pairingEvents events ++ log) t := by
  cases step_effect h with
  | pairs _ action' pairing events _ hstep =>
      rw [pairingEvents_pairing]
      exact (hinv.pairs hstep).1
  | passes action manager events hpassed hstep =>
      rw [pairingEvents_transport]
      refine hinv.withManager (.step hinv (.passes hpassed) hstep) ?_
      intro x hx
      exact hinv.executing x (passedOn_calls hpassed hstep x hx)
  | begins x request stage hfresh hbegins =>
      refine hinv.setCall ?_ (.inl (hinv.not_started hfresh))
      cases hbegins with
      | authenticate token =>
          exact
            { owned := fun hlock _ => by cases hlock
              identifying := fun _ _ h => by
                cases h
                rfl
              target := fun _ _ h => by cases h
              read := fun _ _ h => by cases h
              fresh := fun _ _ _ _ _ h => by cases h
              revoking := fun _ _ _ h => by cases h
              saving := fun _ _ _ h => by cases h }
      | get _ d hlock hd =>
          refine callOk_get ?_ ?_
          · intro d' hd'
            exact Option.some.inj (hd'.symm.trans hd)
          · intro h
            rw [hlock] at h
            cases h
  | queues x request lock hfresh howner hwell =>
      have hlock : Inv log { s with lifecycle := lock } :=
        hinv.withLock (hwell hinv.lifecycle) fun _ _ _ _ _ => howner
      exact hlock.setCall (callOk_idle (fun _ h => h.elim) (.inl ⟨false, rfl⟩))
        (.inl (hinv.not_started hfresh))
  | enters action x request d lock hold hd hfree howner hwell =>
      have hlock : Inv log { s with lifecycle := lock } := by
        refine hinv.withLock (hwell hinv.lifecycle) ?_
        intro y call hy hlocky hsection
        have howned := (hinv.calls y call hy).owned hlocky hsection
        rw [hfree hinv.lifecycle] at howned
        cases howned
      have hfresh : s.manager.calls x = none := by
        rcases hold with ⟨hfresh, -⟩ | ⟨cancelled, hcall⟩
        · exact hinv.not_started hfresh
        · exact hinv.not_executing hcall (by simp)
      refine hlock.setCall (callOk_get ?_ fun _ => howner) (.inl hfresh)
      intro d' hd'
      exact Option.some.inj (hd'.symm.trans hd)
  | leaves action x request cancelled stage lock hcall howner hwell hstage =>
      have hlock : Inv log { s with lifecycle := lock } :=
        hinv.withLock (hwell hinv.lifecycle) fun _ _ _ _ _ => howner
      refine hlock.setCall ?_ (.inl (hinv.not_executing hcall (by simp)))
      rcases hstage with rfl | rfl
      · exact callOk_idle (fun _ h => h.elim) (.inl ⟨true, rfl⟩)
      · exact callOk_finished _ _ _ _ _
  | performs x request stage stage' tables outcome hcall hperforms =>
      exact hinv.performs hcall hperforms
  | proceeds x request stage r inputs hcall hproceeds =>
      rw [Proceeds.pairingEvents hproceeds]
      exact hinv.proceeds hcall hproceeds
  | closes x request value outcome failure hcall =>
      exact hinv.finish hcall trivial (by simp) _

/-- A step of the service is at most one step of the manager, with the same calls on
transports. -/
theorem step_manager (hinv : Inv log s) {action : Action config} {events : List (Event Digest)}
    (h : Operations.step s action = some (t, events)) :
    (t.manager = s.manager ∧ transportCalls events = []) ∨
      ∃ managerAction, ManagerStep s managerAction ∧
        (passedOn managerAction = true → action = .connections managerAction) ∧
        Manager.Execution.step s.manager managerAction =
          some (t.manager, transportCalls events) := by
  have own {managerAction : Manager.Execution.Action} (hown : passedOn managerAction = false) :
      passedOn managerAction = true → action = .connections managerAction := by
    intro hpassed
    rw [hown] at hpassed
    cases hpassed
  cases step_effect h with
  | pairs => exact .inl ⟨rfl, transportCalls_pairing _⟩
  | passes action manager events hpassed hstep =>
      rw [transportCalls_transport]
      exact .inr ⟨action, .passes hpassed, fun _ => rfl, hstep⟩
  | begins | queues | enters | leaves | performs => exact .inl ⟨rfl, rfl⟩
  | closes x request value outcome =>
      refine .inl ⟨?_, rfl⟩
      exact finish_manager s x request outcome
  | proceeds x request stage r inputs hcall hproceeds =>
      have hok := hinv.calls x _ hcall
      cases hproceeds with
      | refuses | reads => exact .inl ⟨finish_manager s x request _, rfl⟩
      | identifies | strips | saves => exact .inl ⟨rfl, rfl⟩
      | disconnects _ d d' device manager events r hstage hstep _ hconcludes =>
          obtain ⟨hmanager, hevents⟩ := concludes_manager hconcludes
          rw [hmanager, hevents]
          obtain ⟨rfl, -⟩ := hok.disconnecting hstage
          exact .inr ⟨_, .disconnects x d _ _ _ hcall, own rfl, hstep⟩
      | connects d d' transport device sessionId now manager events r hrequest hstatus hstep _
          hconcludes =>
          obtain ⟨hmanager, hevents⟩ := concludes_manager hconcludes
          rw [hmanager, hevents]
          obtain rfl : request = _ := hrequest
          exact .inr ⟨_, .connects x d d' transport device sessionId now hcall hstatus, own rfl, hstep⟩
      | activates d d' sessionId advertised device now manager hrequest hactivate =>
          obtain rfl : request = _ := hrequest
          refine .inr ⟨_, .activates x d d' sessionId advertised device now hcall, own rfl, ?_⟩
          simp only [Manager.Execution.step, hactivate]
          rfl
      | executes d d' capability action arguments device commandId clock now command hrequest
          hprepare =>
          have hfresh := hinv.not_executing hcall (by simp)
          refine .inr ⟨_, .executes x request _ command config.commandTimeoutSeconds now hcall
            (by simp) (prepareCommand_eq_ok hprepare).2, own rfl, ?_⟩
          rw [transportCalls_transport]
          simp only [Manager.Execution.step, hfresh]
          rfl

omit [DecidableEq Digest] in
theorem finish_pairing (s : State config) (x : Nat) (request : Request)
    (outcome : Except Raised Value) : (Operations.finish s x request outcome).pairing = s.pairing := by
  unfold Operations.finish
  dsimp only
  split <;> rfl

omit [DecidableEq Digest] in
theorem proceeds_pairing {x : Nat} {request : Request} {stage : Stage} {r : Result config}
    (h : Proceeds s x request stage r) : r.1.pairing = s.pairing := by
  have concluded {value : Value} {manager : Manager.Operations.State}
      {events : List TransportCall} (h : Concludes s x request value manager events r) :
      r.1.pairing = s.pairing := by
    rcases h with ⟨-, rfl⟩ | ⟨transport, code, reason, -, rfl⟩
    · exact finish_pairing _ _ _ _
    · rfl
  cases h with
  | refuses | reads | activates => exact finish_pairing _ _ _ _
  | identifies | strips | saves | executes => rfl
  | disconnects _ _ _ _ _ _ _ _ _ _ hconcludes => exact concluded hconcludes
  | connects _ _ _ _ _ _ _ _ _ _ _ _ _ hconcludes => exact concluded hconcludes

theorem step_tables (hinv : Inv log s) {action : Action config} {events : List (Event Digest)}
    (h : Operations.step s action = some (t, events)) : Grows s.tables t.tables ∧
      ∀ d, (t.tables.devices.lookup d).isSome → (s.tables.devices.lookup d).isSome ∨
        ∃ pairingAction' registration rows, pairingAction action = some pairingAction' ∧
          Commits (Pairing.Challenges.actor pairingAction') registration rows
            ⟨s.pairing, pairingAction', pairingEvents events, t.pairing⟩ ∧ rows.device.id = d := by
  have same (hpairing : t.pairing = s.pairing) : Grows s.tables t.tables ∧
      ∀ d, (t.tables.devices.lookup d).isSome → (s.tables.devices.lookup d).isSome ∨
        ∃ pairingAction' registration rows, pairingAction action = some pairingAction' ∧
          Commits (Pairing.Challenges.actor pairingAction') registration rows
            ⟨s.pairing, pairingAction', pairingEvents events, t.pairing⟩ ∧ rows.device.id = d := by
    simp only [State.tables, hpairing]
    exact ⟨.refl _, fun _ h => .inl h⟩
  cases step_effect h with
  | pairs _ action' pairing events haction hstep =>
      refine ⟨(hinv.pairs hstep).2, ?_⟩
      intro d hd
      rw [pairingEvents_pairing]
      rcases hinv.pairs_store hstep with hsame | ⟨registration, rows, hcommits, -⟩
      · left
        rwa [show State.tables { s with pairing } = s.tables from hsame] at hd
      · by_cases hrow : d = rows.device.id
        · exact .inr ⟨action', registration, rows, haction, hcommits, hrow.symm⟩
        · left
          have hcommit : s.tables.register rows.device rows.issued rows.createdAt =
              some pairing.store := hcommits.committed
          rwa [show (State.tables { s with pairing }).devices.lookup d = _ from
            register_lookup hcommit d, if_neg hrow] at hd
  | passes | begins | queues | enters | leaves => exact same rfl
  | performs x request stage stage' tables outcome hcall hperforms =>
      obtain ⟨hgrows, hregistered⟩ := hinv.performs_tables hcall hperforms
      exact ⟨hgrows, fun d h => .inl (hregistered d h)⟩
  | proceeds x request stage r inputs hcall hproceeds => exact same (proceeds_pairing hproceeds)
  | closes => exact same (finish_pairing _ _ _ _)

end Steps

section Runs

abbrev Step (config : Config Digest) :=
  Transition (State config) (Action config) (Event Digest)

/-- The pairing events of a history, the latest one first. -/
def pairingLog (history : List (Step config)) : List (Pairing.Challenges.Event Digest) :=
  history.flatMap fun u => pairingEvents u.events

theorem inv_initial : Inv [] (State.initial config) where
  pairing :=
    (Pairing.Contract.inv_of_run .nil : Pairing.Contract.Inv config.pairing
      (Pairing.Contract.log []) (Pairing.Challenges.State.initial (sql config.codec) Tables.empty))
  staged _ _ _ h := by cases h
  lifecycle := .free
  durable := .empty
  stripped d h := by
    obtain ⟨row, hrow, -⟩ := h
    cases hrow
  calls _ _ h := by cases h
  manager :=
    { connections := fun _ _ h => by cases h
      commands := fun _ _ h => by cases h }
  executing _ h := absurd rfl h

theorem inv_of_run {history : List (Step config)} {s : State config}
    (hrun : Run (service config) (.initial config) history s) : Inv (pairingLog history) s := by
  refine hrun.historyInvariant (fun history s => Inv (pairingLog history) s) inv_initial ?_
  intro history s action t events _ hinv h
  exact hinv.step h

/-- The connection manager of the service behaves as the connection manager by itself. -/
theorem service_refines_manager :
    Refines (service config) Manager.Execution.manager State.manager transportCalls := by
  refine ⟨rfl, ?_⟩
  rintro s action t events ⟨history, hrun⟩ h
  rcases step_manager (inv_of_run hrun) h with hsame | ⟨managerAction, -, -, hstep⟩
  · exact .inl hsame
  · exact .inr ⟨managerAction, hstep⟩

end Runs

end JarvisCore.Service.Invariant
