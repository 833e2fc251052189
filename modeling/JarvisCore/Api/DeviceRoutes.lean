import JarvisCore.Api.DeviceCommands
import JarvisCore.Service.Provenance

namespace JarvisCore.Api.DeviceRoutes

open JarvisCore.Api.DeviceCommands (Config deviceErrorStatus elsewhere)
open JarvisCore.Configuration.Settings
open JarvisCore.Configuration.TrustDomains
open JarvisCore.Domain.Errors
open JarvisCore.Domain.Models
open JarvisCore.Domain.Values
open JarvisCore.Foundation.Schema
open JarvisCore.Foundation.Text
open JarvisCore.Foundation.TransitionSystem
open JarvisCore.Pairing.Backends
open JarvisCore.Pairing.CallArguments
open JarvisCore.Pairing.Challenges (DeviceCredential DevicePairingChallenge PairingCall)
open JarvisCore.Protocol.Json
open JarvisCore.Protocol.Messages (Runtime capabilityList uuid)
open JarvisCore.Security.DeviceTables (sortedValues)
open JarvisCore.Service.Operations (Call Event Request paired service)

variable {Digest : Type}

section Requests

/-- `Field(min_length=1, max_length=3)` counts the elements of the set. -/
abbrev GrantedCapabilities : Type := { s : Finset DeviceCapability // 1 ≤ s.card ∧ s.card ≤ 3 }

theorem some_toFinset_setOrder (r : Runtime) (s : Finset DeviceCapability) :
    some (r.setOrder s).toFinset = some s := congrArg some (r.toFinset_setOrder s)

def grantedCapabilities (r : Runtime) : Format JsonValue GrantedCapabilities :=
  (capabilityList.refine (fun l => some l.toFinset) r.setOrder (some_toFinset_setOrder r)).guard
    fun s => 1 ≤ s.card ∧ s.card ≤ 3

structure PairingCreateRequest where
  grantedCapabilities : GrantedCapabilities

def pairingCreateRequest (r : Runtime) : Fields JsonValue PairingCreateRequest :=
  (Fields.field "granted_capabilities" (grantedCapabilities r)).refine
    (fun grantedCapabilities => some { grantedCapabilities }) (fun p => p.grantedCapabilities)
    fun _ => rfl

def readPairingCreate (r : Runtime) (body : JsonValue) : Option PairingCreateRequest :=
  ((pairingCreateRequest r).record object).read body

/-- The fields before `normalize_device_name`. -/
structure PairDeviceFields where
  pairingId : UUID
  pairingSecret : BoundedString 16 256
  deviceName : BoundedString 1 120

def pairDeviceFields (r : Runtime) : Fields JsonValue PairDeviceFields :=
  Fields.field "pairing_id" (uuid r)
    |>.and (Fields.field "pairing_secret" (boundedString 16 256))
    |>.and (Fields.field "device_name" (boundedString 1 120))
    |>.refine (fun ((pairingId, pairingSecret), deviceName) =>
        some { pairingId, pairingSecret, deviceName })
      (fun p => ((p.pairingId, p.pairingSecret), p.deviceName)) fun _ => rfl

structure PairDeviceRequest where
  pairingId : UUID
  pairingSecret : BoundedString 16 256
  deviceName : String
  name_normalized : strip deviceName = deviceName
  name_not_blank : deviceName ≠ ""

def PairDeviceFields.normalize (p : PairDeviceFields) : Option PairDeviceRequest :=
  if h : strip p.deviceName.val ≠ "" then
    some
      { pairingId := p.pairingId
        pairingSecret := p.pairingSecret
        deviceName := strip p.deviceName.val
        name_normalized := strip_strip _
        name_not_blank := h }
  else none

def readPairDevice (r : Runtime) (body : JsonValue) : Option PairDeviceRequest :=
  (((pairDeviceFields r).record object).read body).bind PairDeviceFields.normalize

end Requests

section Responses

structure PairingResponse where
  pairingId : UUID
  pairingSecret : String
  grantedCapabilities : List String
  expiresAt : AwareDatetime

def PairingResponse.ofChallenge (challenge : DevicePairingChallenge) : PairingResponse where
  pairingId := challenge.id
  pairingSecret := challenge.secret
  grantedCapabilities := sortedValues challenge.grantedCapabilities
  expiresAt := challenge.expiresAt

structure DeviceResponse where
  id : UUID
  name : String
  status : DeviceStatus
  grantedCapabilities : List String
  advertisedCapabilities : List String
  availableCapabilities : List String
  pairedAt : AwareDatetime
  lastSeenAt : Option AwareDatetime
  revokedAt : Option AwareDatetime

def DeviceResponse.fromDomain (device : Device) : DeviceResponse where
  id := device.id
  name := device.name
  status := device.status
  grantedCapabilities := sortedValues device.grantedCapabilities
  advertisedCapabilities := sortedValues device.advertisedCapabilities
  availableCapabilities := sortedValues device.availableCapabilities
  pairedAt := device.pairedAt
  lastSeenAt := device.lastSeenAt
  revokedAt := device.revokedAt

structure PairDeviceResponse where
  device : DeviceResponse
  deviceToken : String

def PairDeviceResponse.ofCredential (credential : DeviceCredential) : PairDeviceResponse where
  device := .fromDomain credential.device
  deviceToken := credential.token

inductive Body
  | pairing (response : PairingResponse)
  | paired (response : PairDeviceResponse)
  | device (response : DeviceResponse)

def Body.statusCode : Body → Nat
  | .pairing _ | .paired _ => 201
  | .device _ => 200

inductive Answer
  | ok (body : Body)
  /-- From `device_error_handler`. -/
  | deviceError (statusCode : Nat) (detail : String)
  /-- 401 or 503, from `require_device_admin`. -/
  | refused (error : HTTPException)
  /-- 422 -/
  | unprocessable
  /-- An exception that no handler turns into an answer of its own. -/
  | failed (error : Raised)

/-- What a route makes of the end of its call. The response may fail to render. -/
def answerOf (failure : Option Raised) : Except Raised Body → Answer
  | .error (.device error) => .deviceError (deviceErrorStatus error) error.message
  | .error error => .failed error
  | .ok body =>
      match failure with
      | some error => .failed error
      | none => .ok body

/-- How a call of the pairing store has ended, as the service returns it. -/
def pairingOutcome {B : Pairing.Challenges.Backend} :
    PairingCall Digest B → Option (Except Raised Body)
  | .refused error => some (.error error)
  | .create ⟨_, _, .finished outcome⟩ =>
      some (outcome.map fun challenge => .pairing (.ofChallenge challenge))
  | .claim ⟨_, _, _, _, .finished outcome⟩ =>
      some ((paired outcome).map fun credential => .paired (.ofCredential credential))
  | _ => none

def deviceOutcome : Call → Option (Except Raised Body)
  | ⟨_, .finished (.ok (.device device))⟩ => some (.ok (.device (.fromDomain device)))
  | ⟨_, .finished (.error error)⟩ => some (.error error)
  | _ => none

end Responses

inductive Incoming
  | createPairing (credentials : Option HTTPAuthorizationCredentials) (body : JsonValue)
  | pairDevice (body : JsonValue)
  | getDevice (credentials : Option HTTPAuthorizationCredentials) (deviceId : String)
  | revokeDevice (credentials : Option HTTPAuthorizationCredentials) (deviceId : String)

inductive Admitted
  | create (granted : Finset DeviceCapability)
  | claim (pairingId : UUID) (secret deviceName : String)
  | call (request : Request)

variable (config : Config Digest)

/-- `DeviceAdminDep`, before the validation of what follows. -/
def guarded {α : Type} (credentials : Option HTTPAuthorizationCredentials) (read : Option α) :
    Except Answer α :=
  match requireDeviceAdmin config.caseTables config.settings credentials with
  | .error error => .error (.refused error)
  | .ok () =>
      match read with
      | none => .error .unprocessable
      | some value => .ok value

def admission : Incoming → Except Answer Admitted
  | .createPairing credentials body =>
      (guarded config credentials (readPairingCreate config.runtime body)).map fun request =>
        .create request.grantedCapabilities.val
  | .pairDevice body =>
      match readPairDevice config.runtime body with
      | none => .error .unprocessable
      | some request =>
          .ok (.claim request.pairingId request.pairingSecret.val request.deviceName)
  | .getDevice credentials deviceId =>
      (guarded config credentials (config.runtime.parseUuid deviceId)).map fun d =>
        .call (.getDevice d)
  | .revokeDevice credentials deviceId =>
      (guarded config credentials (config.runtime.parseUuid deviceId)).map fun d =>
        .call (.revokeDevice d)

/-- The calls of the service and those of the pairing store are numbered by themselves. -/
def Incoming.task (x : Nat) : Incoming → Nat ⊕ Nat
  | .createPairing _ _ | .pairDevice _ => .inr x
  | .getDevice _ _ | .revokeDevice _ _ => .inl x

/-- What the clock and the factories yield to a call of the pairing store. -/
structure PairingInputs where
  clock : Datetime
  pairingId : UUID
  secret : String
  setup : Sql.Setup

def Admitted.entry (x : Nat) (inputs : PairingInputs) :
    Admitted → Service.Operations.Action config.service
  | .create granted => .createPairing x granted inputs.pairingId inputs.secret inputs.clock
  | .claim pairingId secret deviceName =>
      .pairDevice x pairingId secret deviceName inputs.clock inputs.setup
  | .call request => .start x request

def Admitted.task (x : Nat) : Admitted → Nat ⊕ Nat
  | .create _ | .claim _ _ _ => .inr x
  | .call _ => .inl x

structure Exchange where
  incoming : Incoming
  answer : Option Answer

structure State where
  api : DeviceCommands.State config
  exchanges : Nat ⊕ Nat → Option Exchange

namespace State

def initial : State config := ⟨.initial config, fun _ => none⟩

variable {config}

def service (s : State config) : Service.Operations.State config.service := s.api.service

def setExchange (s : State config) (task : Nat ⊕ Nat) (exchange : Exchange) : State config :=
  { s with exchanges := Function.update s.exchanges task (some exchange) }

def outcome (s : State config) : Nat ⊕ Nat → Option (Except Raised Body)
  | .inl x => (s.service.calls x).bind deviceOutcome
  | .inr x => (s.service.pairing.calls x).bind pairingOutcome

end State

inductive Action
  /-- The route for commands, and what else happens in the process. -/
  | api (action : DeviceCommands.Action config)
  | receive (x : Nat) (incoming : Incoming) (inputs : PairingInputs)
  | respond (task : Nat ⊕ Nat) (failure : Option Raised)

/-- Only the routes enter these calls. -/
def routed : DeviceCommands.Action config → Bool
  | .service (.createPairing _ _ _ _ _) | .service (.pairDevice _ _ _ _ _ _)
  | .service (.start _ (.getDevice _)) | .service (.start _ (.revokeDevice _)) => true
  | _ => false

variable [DecidableEq Digest]

def step (s : State config) : Action config → Option (State config × List (Event Digest))
  | .api action =>
      if routed config action then none
      else
        match DeviceCommands.step config s.api action with
        | some (api, events) => some ({ s with api }, events)
        | none => none
  | .receive x incoming inputs =>
      match s.exchanges (incoming.task x) with
      | some _ => none
      | none =>
          match admission config incoming with
          | .error answer => some (s.setExchange (incoming.task x) ⟨incoming, some answer⟩, [])
          | .ok admitted =>
              match DeviceCommands.step config s.api
                  (.service (admitted.entry config x inputs)) with
              | some (api, events) =>
                  some (State.setExchange { s with api } (incoming.task x) ⟨incoming, none⟩, events)
              | none => none
  | .respond task failure =>
      match s.exchanges task, s.outcome task with
      | some ⟨incoming, none⟩, some out =>
          some (s.setExchange task ⟨incoming, some (answerOf failure out)⟩, [])
      | _, _ => none

/-- The application, as far as devices go. -/
def deviceRoutes : System (State config) (Action config) (Event Digest) where
  start := .initial config
  step := step config

abbrev Step := Transition (State config) (Action config) (Event Digest)

section Steps

variable {config} {s t : State config} {action : Action config} {events : List (Event Digest)}

inductive Does (s : State config) : Action config → State config → List (Event Digest) → Prop
  | passes (action : DeviceCommands.Action config) (api : DeviceCommands.State config)
      (events : List (Event Digest)) : routed config action = false →
      DeviceCommands.step config s.api action = some (api, events) →
      Does s (.api action) { s with api } events
  | turnsAway (x : Nat) (incoming : Incoming) (inputs : PairingInputs) (answer : Answer) :
      s.exchanges (incoming.task x) = none → admission config incoming = .error answer →
      Does s (.receive x incoming inputs)
        (s.setExchange (incoming.task x) ⟨incoming, some answer⟩) []
  | admits (x : Nat) (incoming : Incoming) (inputs : PairingInputs) (admitted : Admitted)
      (api : DeviceCommands.State config) (events : List (Event Digest)) :
      s.exchanges (incoming.task x) = none → admission config incoming = .ok admitted →
      DeviceCommands.step config s.api (.service (admitted.entry config x inputs)) =
        some (api, events) →
      Does s (.receive x incoming inputs)
        (State.setExchange { s with api } (incoming.task x) ⟨incoming, none⟩) events
  | responds (task : Nat ⊕ Nat) (failure : Option Raised) (incoming : Incoming)
      (out : Except Raised Body) : s.exchanges task = some ⟨incoming, none⟩ →
      s.outcome task = some out →
      Does s (.respond task failure)
        (s.setExchange task ⟨incoming, some (answerOf failure out)⟩) []

theorem step_does (h : step config s action = some (t, events)) : Does s action t events := by
  cases action with
  | api action =>
      simp only [step] at h
      split at h
      · cases h
      · rename_i hrouted
        split at h
        · rename_i api served hstep
          cases h
          exact .passes action api events (Bool.eq_false_of_not_eq_true hrouted) hstep
        · cases h
  | receive x incoming inputs =>
      simp only [step] at h
      split at h
      · cases h
      · rename_i hfresh
        split at h
        · rename_i answer hadmission
          cases h
          exact .turnsAway x incoming inputs answer hfresh hadmission
        · rename_i admitted hadmission
          split at h
          · rename_i api served hstep
            cases h
            exact .admits x incoming inputs admitted api events hfresh hadmission hstep
          · cases h
  | respond task failure =>
      simp only [step] at h
      split at h
      · rename_i incoming out hopen hended
        cases h
        exact .responds task failure incoming out hopen hended
      · cases h

omit [DecidableEq Digest] in
theorem setExchange_self (s : State config) (task : Nat ⊕ Nat) (exchange : Exchange) :
    (s.setExchange task exchange).exchanges task = some exchange :=
  Function.update_self _ _ _

omit [DecidableEq Digest] in
theorem setExchange_of_ne {task task' : Nat ⊕ Nat} (h : task' ≠ task) (exchange : Exchange) :
    (s.setExchange task exchange).exchanges task' = s.exchanges task' :=
  Function.update_of_ne h _ _

omit [DecidableEq Digest] in
theorem setExchange_exchanges {task task' : Nat ⊕ Nat} {exchange exchange' : Exchange}
    (h : (s.setExchange task' exchange).exchanges task = some exchange') :
    (task = task' ∧ exchange' = exchange) ∨ s.exchanges task = some exchange' := by
  simp only [State.setExchange, Function.update_apply] at h
  split at h
  · rename_i htask
    exact .inl ⟨htask, (Option.some.inj h).symm⟩
  · exact .inr h

omit [DecidableEq Digest] in
theorem guarded_ne_ok {α : Type} {credentials : Option HTTPAuthorizationCredentials}
    {read : Option α} (body : Body) : guarded config credentials read ≠ .error (.ok body) := by
  intro h
  unfold guarded at h
  split at h
  · cases h
  · split at h
    · cases h
    · cases h

omit [DecidableEq Digest] in
theorem admission_ne_ok (incoming : Incoming) (body : Body) :
    admission config incoming ≠ .error (.ok body) := by
  intro h
  cases incoming with
  | pairDevice =>
      simp only [admission] at h
      split at h
      · cases h
      · cases h
  | createPairing credentials body' =>
      cases hguarded : guarded config credentials (readPairingCreate config.runtime body') with
      | ok request => simp [admission, hguarded, Except.map] at h
      | error answer =>
          simp only [admission, hguarded, Except.map, Except.error.injEq] at h
          exact guarded_ne_ok body (h ▸ hguarded)
  | getDevice credentials deviceId | revokeDevice credentials deviceId =>
      cases hguarded : guarded config credentials (config.runtime.parseUuid deviceId) with
      | ok request => simp [admission, hguarded, Except.map] at h
      | error answer =>
          simp only [admission, hguarded, Except.map, Except.error.injEq] at h
          exact guarded_ne_ok body (h ▸ hguarded)

omit [DecidableEq Digest] in
theorem task_of_admission (x : Nat) {incoming : Incoming} {admitted : Admitted}
    (h : admission config incoming = .ok admitted) : incoming.task x = admitted.task x := by
  cases incoming with
  | pairDevice body =>
      simp only [admission] at h
      split at h
      · cases h
      · cases h
        rfl
  | createPairing credentials body =>
      cases hguarded : guarded config credentials (readPairingCreate config.runtime body) with
      | error answer => simp [admission, hguarded, Except.map] at h
      | ok request =>
          simp only [admission, hguarded, Except.map, Except.ok.injEq] at h
          obtain rfl := h
          rfl
  | getDevice credentials deviceId | revokeDevice credentials deviceId =>
      cases hguarded : guarded config credentials (config.runtime.parseUuid deviceId) with
      | error answer => simp [admission, hguarded, Except.map] at h
      | ok d =>
          simp only [admission, hguarded, Except.map, Except.ok.injEq] at h
          obtain rfl := h
          rfl

theorem api_step (h : step config s action = some (t, events)) :
    (t.api = s.api ∧ events = []) ∨
      ∃ apiAction, DeviceCommands.step config s.api apiAction = some (t.api, events) := by
  cases step_does h with
  | passes action api events _ hstep => exact .inr ⟨action, hstep⟩
  | turnsAway | responds => exact .inl ⟨rfl, rfl⟩
  | admits x incoming inputs admitted api events _ _ hstep =>
      exact .inr ⟨.service (admitted.entry config x inputs), hstep⟩

theorem service_step {a a' : DeviceCommands.State config} {apiAction : DeviceCommands.Action config}
    (h : DeviceCommands.step config a apiAction = some (a', events)) :
    (a'.service = a.service ∧ events = []) ∨
      ∃ action, Service.Operations.step a.service action = some (a'.service, events) ∧
        (apiAction = .service action ∨
          ∃ x d capability name arguments,
            action = .start x (.executeCommand d capability name arguments)) := by
  cases DeviceCommands.step_does h with
  | turnsAway | responds => exact .inl ⟨rfl, rfl⟩
  | serves action service events _ hstep => exact .inr ⟨action, hstep, .inl rfl⟩
  | admits x incoming request service events _ hadmission hstart =>
      obtain ⟨-, d, body, -, -, rfl⟩ := DeviceCommands.admission_eq_ok hadmission
      exact .inr ⟨_, hstart, .inr ⟨x, d, _, _, _, rfl⟩⟩

end Steps

section Runs

variable {config} {history : List (Step config)} {s : State config}

theorem api_run (hrun : Run (deviceRoutes config) (.initial config) history s) :
    ∃ steps, Run (DeviceCommands.deviceApi config) (.initial config) steps s.api ∧
      ∀ u ∈ history, ∀ e ∈ u.events, ∃ v ∈ steps, e ∈ v.events := by
  induction hrun with
  | nil => exact ⟨[], .nil, List.forall_mem_nil _⟩
  | @step history s action events t _ h ih =>
      obtain ⟨steps, hsteps, hevents⟩ := ih
      rcases api_step h with ⟨hsame, rfl⟩ | ⟨apiAction, hstep⟩
      · rw [hsame]
        refine ⟨steps, hsteps, ?_⟩
        intro u hu e he
        rcases List.mem_cons.mp hu with rfl | hu
        · cases he
        · exact hevents u hu e he
      · refine ⟨_, .step apiAction _ _ hsteps hstep, ?_⟩
        intro u hu e he
        rcases List.mem_cons.mp hu with rfl | hu
        · exact ⟨_, List.mem_cons_self, he⟩
        · obtain ⟨v, hv, hmem⟩ := hevents u hu e he
          exact ⟨v, List.mem_cons_of_mem _ hv, hmem⟩

def Asks (config : Config Digest) (incoming : Incoming) : Arguments → Prop
  | .create granted _ _ => admission config incoming = .ok (.create granted)
  | .claim pairingId secret deviceName =>
      admission config incoming = .ok (.claim pairingId secret deviceName)

/-- The exchanges and the calls that the routes enter belong together. -/
structure Inv (s : State config) : Prop where
  asked : ∀ x arguments, argumentsAt s.service.pairing x = some arguments →
    ∃ incoming answer, s.exchanges (.inr x) = some ⟨incoming, answer⟩ ∧
      Asks config incoming arguments
  revoking : ∀ x d stage, s.service.calls x = some ⟨.revokeDevice d, stage⟩ →
    ∃ incoming answer, s.exchanges (.inl x) = some ⟨incoming, answer⟩ ∧
      admission config incoming = .ok (.call (.revokeDevice d))
  called : ∀ x incoming answer request, s.exchanges (.inl x) = some ⟨incoming, answer⟩ →
    admission config incoming = .ok (.call request) →
      ∃ stage, s.service.calls x = some ⟨request, stage⟩
  answered : ∀ task incoming body, s.exchanges task = some ⟨incoming, some (.ok body)⟩ →
    s.outcome task = some (.ok body)

def Continues (s t : State config) : Prop :=
  ∀ task incoming answer, s.exchanges task = some ⟨incoming, answer⟩ →
    ∃ answer', t.exchanges task = some ⟨incoming, answer'⟩

omit [DecidableEq Digest] in
theorem continues_fresh {task : Nat ⊕ Nat} (hfresh : s.exchanges task = none)
    (api : DeviceCommands.State config) (exchange : Exchange) :
    Continues s (State.setExchange { s with api } task exchange) := by
  intro task' incoming answer hexchange
  refine ⟨answer, ?_⟩
  rw [setExchange_of_ne]
  · exact hexchange
  · rintro rfl
    rw [hfresh] at hexchange
    cases hexchange

omit [DecidableEq Digest] in
theorem continues_answered {task : Nat ⊕ Nat} {incoming : Incoming} {answer : Option Answer}
    (hopen : s.exchanges task = some ⟨incoming, answer⟩) (answer' : Option Answer) :
    Continues s (s.setExchange task ⟨incoming, answer'⟩) := by
  intro task' incoming' answer'' hexchange
  by_cases htask : task' = task
  · subst htask
    rw [hopen] at hexchange
    cases hexchange
    exact ⟨answer', setExchange_self _ _ _⟩
  · exact ⟨answer'', (setExchange_of_ne htask _).trans hexchange⟩

theorem outcome_step {log : List (Pairing.Challenges.Event Digest)} {t : State config}
    {action : Service.Operations.Action config.service} {events : List (Event Digest)}
    (hinv : Service.Invariant.Inv log s.service)
    (h : Service.Operations.step s.service action = some (t.service, events)) {task : Nat ⊕ Nat}
    {body : Body} (hended : s.outcome task = some (.ok body)) :
    t.outcome task = some (.ok body) := by
  rcases task with x | x
  · obtain ⟨⟨request, stage⟩, hcall, hbody⟩ := Option.bind_eq_some_iff.mp hended
    have hfinished : ∃ device, stage = .finished (.ok (.device device)) := by
      unfold deviceOutcome at hbody
      split at hbody
      · rename_i device hcall
        exact ⟨device, congrArg Call.stage hcall⟩
      · cases hbody
      · cases hbody
    obtain ⟨device, rfl⟩ := hfinished
    rcases Service.CallSteps.step_settled hinv h hcall trivial with hsame | ⟨_, _, _, hclosing, -⟩
    · rw [State.outcome, hsame, Option.bind_some]
      exact hbody
    · cases hclosing
  · obtain ⟨call, hcall, hbody⟩ := Option.bind_eq_some_iff.mp hended
    have hsucceeded : Pairing.Contract.Succeeded call := by
      unfold pairingOutcome at hbody
      split at hbody
      · cases hbody
      · rename_i outcome
        cases outcome with
        | error error => cases hbody
        | ok challenge => exact ⟨challenge, rfl⟩
      · rename_i outcome
        cases outcome with
        | error error => cases hbody
        | ok credential => exact ⟨credential, rfl⟩
      · cases hbody
    have hsame : t.service.pairing.calls x = s.service.pairing.calls x := by
      rcases Service.Provenance.pairing_step h with ⟨hsame, -⟩ | ⟨pairingAction', -, hstep⟩
      · rw [hsame]
      · refine Pairing.Contract.step_others hinv.pairing hstep ?_
        rintro rfl
        exact Pairing.Contract.step_running hinv.pairing hstep hcall hsucceeded
    rw [State.outcome, hsame, hcall, Option.bind_some]
    exact hbody

omit [DecidableEq Digest] in
theorem Inv.initial : Inv (State.initial config) := by
  constructor
  · intro x arguments hx
    cases hx
  · intro x d stage hx
    cases hx
  · intro x incoming answer request hexchange
    cases hexchange
  · intro task incoming body hexchange
    cases hexchange

section Preservation

variable {t : State config} {log : List (Pairing.Challenges.Event Digest)}
  {action : Service.Operations.Action config.service} {events : List (Event Digest)}

omit [DecidableEq Digest] in
theorem Inv.asked_continues (hinv : Inv s) (hcontinues : Continues s t) {x : Nat}
    {arguments : Arguments} (hx : argumentsAt s.service.pairing x = some arguments) :
    ∃ incoming answer, t.exchanges (.inr x) = some ⟨incoming, answer⟩ ∧
      Asks config incoming arguments := by
  obtain ⟨incoming, answer, hexchange, hasks⟩ := hinv.asked x arguments hx
  obtain ⟨answer', hexchange'⟩ := hcontinues _ _ _ hexchange
  exact ⟨incoming, answer', hexchange', hasks⟩

omit [DecidableEq Digest] in
theorem Inv.revoking_continues (hinv : Inv s) (hcontinues : Continues s t) {x : Nat} {d : UUID}
    {stage : Service.Operations.Stage}
    (hx : s.service.calls x = some ⟨.revokeDevice d, stage⟩) :
    ∃ incoming answer, t.exchanges (.inl x) = some ⟨incoming, answer⟩ ∧
      admission config incoming = .ok (.call (.revokeDevice d)) := by
  obtain ⟨incoming, answer, hexchange, hadmission⟩ := hinv.revoking x d stage hx
  obtain ⟨answer', hexchange'⟩ := hcontinues _ _ _ hexchange
  exact ⟨incoming, answer', hexchange', hadmission⟩

omit [DecidableEq Digest] in
theorem Inv.still (hinv : Inv s) (hsame : t.service = s.service) (hcontinues : Continues s t)
    (hnew : ∀ task incoming answer, t.exchanges task = some ⟨incoming, answer⟩ →
      (∃ answer', s.exchanges task = some ⟨incoming, answer'⟩ ∧
        ∀ body, answer = some (.ok body) → s.outcome task = some (.ok body)) ∨
      ∃ error, admission config incoming = .error error ∧ answer = some error) : Inv t := by
  constructor
  · intro x arguments hx
    rw [hsame] at hx
    exact hinv.asked_continues hcontinues hx
  · intro x d stage hx
    rw [hsame] at hx
    exact hinv.revoking_continues hcontinues hx
  · intro x incoming answer request hexchange hadmission
    rw [hsame]
    rcases hnew _ _ _ hexchange with ⟨answer', hold, -⟩ | ⟨error, herror, -⟩
    · exact hinv.called x incoming answer' request hold hadmission
    · rw [hadmission] at herror
      cases herror
  · intro task incoming body hexchange
    have houtcome : t.outcome task = s.outcome task := by
      unfold State.outcome
      rw [hsame]
    rw [houtcome]
    rcases hnew _ _ _ hexchange with ⟨answer', -, hended⟩ | ⟨error, herror, hanswer⟩
    · exact hended body rfl
    · obtain rfl := Option.some.inj hanswer
      exact absurd herror (admission_ne_ok incoming body)

/-- A step of the service, if the calls that it enters are those of exchanges. -/
theorem Inv.serves (hinv : Inv s) (hservice : Service.Invariant.Inv log s.service)
    (h : Service.Operations.step s.service action = some (t.service, events))
    (hcontinues : Continues s t)
    (hasks : ∀ pairingAction' arguments, Service.Operations.pairingAction action =
        some pairingAction' → asks pairingAction' = some arguments →
      ∃ incoming answer, t.exchanges (.inr (Pairing.Challenges.actor pairingAction')) =
        some ⟨incoming, answer⟩ ∧ Asks config incoming arguments)
    (hstarts : ∀ x d, action = .start x (.revokeDevice d) →
      ∃ incoming answer, t.exchanges (.inl x) = some ⟨incoming, answer⟩ ∧
        admission config incoming = .ok (.call (.revokeDevice d)))
    (hnew : ∀ task incoming answer, t.exchanges task = some ⟨incoming, answer⟩ →
      s.exchanges task = some ⟨incoming, answer⟩ ∨ (answer = none ∧ ∀ x request, task = .inl x →
        admission config incoming = .ok (.call request) →
        ∃ stage, t.service.calls x = some ⟨request, stage⟩)) : Inv t := by
  constructor
  · intro x arguments hx
    rcases Service.Provenance.pairing_step h with ⟨hsame, -⟩ | ⟨pairingAction', haction, hstep⟩
    · rw [argumentsAt, hsame] at hx
      exact hinv.asked_continues hcontinues hx
    · rcases step_asked hstep hx with hold | ⟨-, rfl, hnew⟩
      · exact hinv.asked_continues hcontinues hold
      · exact hasks pairingAction' arguments haction hnew
  · intro x d stage hx
    rcases Service.CallSteps.step_request hservice h hx with ⟨stage₀, hold⟩ | hstart
    · exact hinv.revoking_continues hcontinues hold
    · exact hstarts x d hstart
  · intro x incoming answer request hexchange hadmission
    rcases hnew _ _ _ hexchange with hold | ⟨-, hentered⟩
    · obtain ⟨stage, hcall⟩ := hinv.called x incoming answer request hold hadmission
      exact Service.CallSteps.step_keeps hservice h hcall
    · exact hentered x request rfl hadmission
  · intro task incoming body hexchange
    rcases hnew _ _ _ hexchange with hold | ⟨hnone, -⟩
    · exact outcome_step hservice h (hinv.answered task incoming body hold)
    · cases hnone

theorem Inv.passes (hinv : Inv s) (hservice : Service.Invariant.Inv log s.service)
    {action : DeviceCommands.Action config} {api : DeviceCommands.State config}
    (hrouted : routed config action = false)
    (hstep : DeviceCommands.step config s.api action = some (api, events)) :
    Inv { s with api } := by
  have hcontinues : Continues s { s with api } := fun _ _ answer h => ⟨answer, h⟩
  rcases service_step hstep with ⟨hsame, -⟩ | ⟨action', hserves, haction⟩
  · refine hinv.still hsame hcontinues fun task incoming answer hexchange => ?_
    refine .inl ⟨answer, hexchange, ?_⟩
    rintro body rfl
    exact hinv.answered task incoming body hexchange
  · refine hinv.serves hservice hserves hcontinues ?_ ?_ fun _ _ _ h => .inl h
    · intro pairingAction' arguments hpairing hasks
      rcases haction with rfl | ⟨x, d, capability, name, arguments, rfl⟩
      · cases action' with
        | createPairing | pairDevice => cases hrouted
        | resumePairing | cancelPairing | advancePairing =>
            cases hpairing
            cases hasks
        | connections | start | resumeLock | cancelWaiting | perform | proceed | endClose =>
            cases hpairing
      · cases hpairing
    · rintro x d rfl
      rcases haction with rfl | ⟨x', d', capability, name, arguments, hstart⟩
      · cases hrouted
      · cases hstart

omit [DecidableEq Digest] in
theorem Inv.turnsAway (hinv : Inv s) {task : Nat ⊕ Nat} {incoming : Incoming} {answer : Answer}
    (hfresh : s.exchanges task = none) (hadmission : admission config incoming = .error answer) :
    Inv (s.setExchange task ⟨incoming, some answer⟩) := by
  refine hinv.still rfl (continues_fresh hfresh s.api _) ?_
  intro task' incoming' answer' hexchange
  rcases setExchange_exchanges hexchange with ⟨-, hnew⟩ | hold
  · cases hnew
    exact .inr ⟨answer, hadmission, rfl⟩
  · refine .inl ⟨answer', hold, ?_⟩
    rintro body rfl
    exact hinv.answered task' incoming' body hold

theorem Inv.admits (hinv : Inv s) (hservice : Service.Invariant.Inv log s.service) {x : Nat}
    {incoming : Incoming} {inputs : PairingInputs} {admitted : Admitted}
    {api : DeviceCommands.State config} (hfresh : s.exchanges (admitted.task x) = none)
    (hadmission : admission config incoming = .ok admitted)
    (hstep : DeviceCommands.step config s.api (.service (admitted.entry config x inputs)) =
      some (api, events)) :
    Inv (State.setExchange { s with api } (admitted.task x) ⟨incoming, none⟩) := by
  have hself := setExchange_self { s with api } (admitted.task x) ⟨incoming, none⟩
  cases DeviceCommands.step_does hstep with
  | serves _ service events _ hserves =>
      refine hinv.serves hservice hserves (continues_fresh hfresh _ _) ?_ ?_ ?_
      · intro pairingAction' arguments hpairing hasks
        cases admitted with
        | create granted =>
            cases hpairing
            cases hasks
            exact ⟨incoming, none, hself, hadmission⟩
        | claim pairingId secret deviceName =>
            cases hpairing
            cases hasks
            exact ⟨incoming, none, hself, hadmission⟩
        | call request => cases hpairing
      · intro x' d hstart
        cases admitted with
        | create | claim => cases hstart
        | call request =>
            cases hstart
            exact ⟨incoming, none, hself, hadmission⟩
      · intro task incoming' answer hexchange
        rcases setExchange_exchanges hexchange with ⟨htask, hnew⟩ | hold
        · cases hnew
          refine .inr ⟨rfl, ?_⟩
          rintro x' request rfl hadmission'
          rw [hadmission] at hadmission'
          cases hadmission'
          cases htask
          exact (Service.CallSteps.start_calls hserves).2
        · exact .inl hold

omit [DecidableEq Digest] in
theorem Inv.responds (hinv : Inv s) {task : Nat ⊕ Nat} (failure : Option Raised)
    {incoming : Incoming} {out : Except Raised Body}
    (hopen : s.exchanges task = some ⟨incoming, none⟩) (hended : s.outcome task = some out) :
    Inv (s.setExchange task ⟨incoming, some (answerOf failure out)⟩) := by
  refine hinv.still rfl (continues_answered hopen _) fun task' incoming' answer' hexchange => ?_
  rcases setExchange_exchanges hexchange with ⟨rfl, hnew⟩ | hold
  · cases hnew
    refine .inl ⟨none, hopen, ?_⟩
    intro body hbody
    cases out with
    | error error => cases error <;> cases hbody
    | ok body' =>
        cases failure with
        | some error => cases hbody
        | none =>
            cases hbody
            exact hended
  · refine .inl ⟨answer', hold, ?_⟩
    rintro body rfl
    exact hinv.answered task' incoming' body hold

end Preservation

theorem service_inv (hrun : Run (deviceRoutes config) (.initial config) history s) :
    ∃ steps, Run (service config.service) (.initial config.service) steps s.service ∧
      Service.Invariant.Inv (Service.Invariant.pairingLog steps) s.service := by
  obtain ⟨steps, hsteps, -⟩ := api_run hrun
  obtain ⟨served, hserved, -⟩ := DeviceCommands.service_run hsteps
  exact ⟨served, hserved, Service.Invariant.inv_of_run hserved⟩

theorem Inv.step {t : State config} {action : Action config} {events : List (Event Digest)}
    (hprev : Run (deviceRoutes config) (.initial config) history s) (hinv : Inv s)
    (h : step config s action = some (t, events)) : Inv t := by
  obtain ⟨steps, -, hservice⟩ := service_inv hprev
  cases step_does h with
  | passes action api events hrouted hstep => exact hinv.passes hservice hrouted hstep
  | turnsAway x incoming inputs answer hfresh hadmission =>
      exact hinv.turnsAway hfresh hadmission
  | admits x incoming inputs admitted api events hfresh hadmission hstep =>
      rw [task_of_admission x hadmission] at hfresh ⊢
      exact hinv.admits hservice hfresh hadmission hstep
  | responds task failure incoming out hopen hended => exact hinv.responds failure hopen hended

theorem inv_of_run (hrun : Run (deviceRoutes config) (.initial config) history s) : Inv s := by
  refine hrun.historyInvariant (fun _ s => Inv s) .initial ?_
  intro history s action t events hprev hinv h
  exact hinv.step hprev h

end Runs

end JarvisCore.Api.DeviceRoutes
