import JarvisCore.Api.Authority
import JarvisCore.Foundation.Moments
import JarvisCore.Service.Names

/-!
`GET /devices` beside the other routes and everything else in the process. The listing is not
one view of the devices: the table is read first, and the connections are looked at when the
database has answered.
-/

namespace JarvisCore.Api.DeviceViews

open JarvisCore.Api.Authority
open JarvisCore.Api.DeviceCommands (Config deviceErrorStatus)
open JarvisCore.Api.DeviceRoutes (DeviceResponse deviceRoutes)
open JarvisCore.Configuration.Settings
open JarvisCore.Configuration.TrustDomains
open JarvisCore.Domain.Errors
open JarvisCore.Domain.Models
open JarvisCore.Domain.Values
open JarvisCore.Foundation.Grouping
open JarvisCore.Foundation.Moments
open JarvisCore.Foundation.Text
open JarvisCore.Foundation.TransitionSystem
open JarvisCore.Pairing.Backends
open JarvisCore.Security.DeviceRecords
open JarvisCore.Security.DeviceTables
open JarvisCore.Service.Names
open JarvisCore.Service.Operations (Event readAnswer withRuntimeState)
open JarvisCore.Service.Revocation (Final)

variable {Digest : Type}

inductive Answer
  | ok (devices : List DeviceResponse)
  /-- From `device_error_handler`. -/
  | deviceError (statusCode : Nat) (detail : String)
  /-- 401 or 503, from `require_device_admin`. -/
  | refused (error : HTTPException)
  /-- An exception that no handler turns into an answer of its own. -/
  | failed (error : Raised)

inductive Stage
  /-- `registry.list_all`, and what the database has answered. -/
  | awaitingList (answer : Option (Except Raised (List Device)))
  | answered (answer : Answer)

structure Listing where
  credentials : Option HTTPAuthorizationCredentials
  stage : Stage

/-- What the route makes of the end of `list_devices`. The response may fail to render. -/
def answerOf (failure : Option Raised) : Except Raised (List Device) → Answer
  | .error (.device error) => .deviceError (deviceErrorStatus error) error.message
  | .error error => .failed error
  | .ok devices =>
      match failure with
      | some error => .failed error
      | none => .ok (devices.map .fromDomain)

variable (config : Config Digest)

/-- The key in `sorted`. -/
def listingKey (name : String) (id : UUID) : String ×ₗ String :=
  toLex (casefold config.caseTables name, id.text)

/-- `list_devices`, once the database has answered. No look at the manager suspends it. -/
def listDevices (manager : Manager.Operations.State) (devices : List Device) :
    Except Raised (List Device) :=
  (devices.mapM (withRuntimeState manager)).map
    (sortBy fun device => listingKey config device.name device.id)

structure State where
  routes : DeviceRoutes.State config
  listings : Nat → Option Listing

namespace State

def initial : State config := ⟨.initial config, fun _ => none⟩

variable {config}

def service (s : State config) : Service.Operations.State config.service := s.routes.service

def setListing (s : State config) (x : Nat) (listing : Listing) : State config :=
  { s with listings := Function.update s.listings x (some listing) }

end State

inductive Action
  /-- The other routes, and what else happens in the process. -/
  | routes (action : DeviceRoutes.Action config)
  | receive (x : Nat) (credentials : Option HTTPAuthorizationCredentials)
  /-- The database carries out the query, or fails. -/
  | perform (x : Nat) (outcome : AwaitOutcome)
  | respond (x : Nat) (failure : Option Raised)

variable [DecidableEq Digest]

def step (s : State config) : Action config → Option (State config × List (Event Digest))
  | .routes action =>
      match DeviceRoutes.step config s.routes action with
      | some (routes, events) => some ({ s with routes }, events)
      | none => none
  | .receive x credentials =>
      match s.listings x with
      | some _ => none
      | none =>
          match requireDeviceAdmin config.caseTables config.settings credentials with
          | .error error => some (s.setListing x ⟨credentials, .answered (.refused error)⟩, [])
          | .ok () => some (s.setListing x ⟨credentials, .awaitingList none⟩, [])
  | .perform x outcome =>
      match s.listings x with
      | some ⟨credentials, .awaitingList none⟩ =>
          let answer := readAnswer (s.service.tables.listAll config.service.dialect) outcome
          some (s.setListing x ⟨credentials, .awaitingList (some answer)⟩, [])
      | _ => none
  | .respond x failure =>
      match s.listings x with
      | some ⟨credentials, .awaitingList (some answer)⟩ =>
          let out := answer.bind (listDevices config s.service.manager)
          some (s.setListing x ⟨credentials, .answered (answerOf failure out)⟩, [])
      | _ => none

def deviceViews : System (State config) (Action config) (Event Digest) where
  start := .initial config
  step := step config

abbrev Step := Transition (State config) (Action config) (Event Digest)

section Steps

variable {config} {s t : State config} {action : Action config} {events : List (Event Digest)}

inductive Does (s : State config) : Action config → State config → List (Event Digest) → Prop
  | passes (action : DeviceRoutes.Action config) (routes : DeviceRoutes.State config)
      (events : List (Event Digest)) :
      DeviceRoutes.step config s.routes action = some (routes, events) →
      Does s (.routes action) { s with routes } events
  | refuses (x : Nat) (credentials : Option HTTPAuthorizationCredentials)
      (error : HTTPException) : s.listings x = none →
      Does s (.receive x credentials)
        (s.setListing x ⟨credentials, .answered (.refused error)⟩) []
  | admits (x : Nat) (credentials : Option HTTPAuthorizationCredentials) :
      s.listings x = none → IsAdmin config credentials →
      Does s (.receive x credentials) (s.setListing x ⟨credentials, .awaitingList none⟩) []
  | reads (x : Nat) (credentials : Option HTTPAuthorizationCredentials) (outcome : AwaitOutcome) :
      s.listings x = some ⟨credentials, .awaitingList none⟩ →
      Does s (.perform x outcome)
        (s.setListing x ⟨credentials, .awaitingList
          (some (readAnswer (s.service.tables.listAll config.service.dialect) outcome))⟩) []
  | responds (x : Nat) (credentials : Option HTTPAuthorizationCredentials)
      (answer : Except Raised (List Device)) (failure : Option Raised) :
      s.listings x = some ⟨credentials, .awaitingList (some answer)⟩ →
      Does s (.respond x failure)
        (s.setListing x ⟨credentials, .answered
          (answerOf failure (answer.bind (listDevices config s.service.manager)))⟩) []

theorem step_does (h : step config s action = some (t, events)) : Does s action t events := by
  cases action with
  | routes action =>
      simp only [step] at h
      split at h
      · rename_i routes served hstep
        cases h
        exact .passes action routes events hstep
      · cases h
  | receive x credentials =>
      simp only [step] at h
      split at h
      · cases h
      · rename_i hfresh
        split at h
        · rename_i error _
          cases h
          exact .refuses x credentials error hfresh
        · rename_i hadmin
          cases h
          exact .admits x credentials hfresh hadmin
  | perform x outcome =>
      simp only [step] at h
      split at h
      · rename_i credentials hlisting
        cases h
        exact .reads x credentials outcome hlisting
      · cases h
  | respond x failure =>
      simp only [step] at h
      split at h
      · rename_i credentials answer hlisting
        cases h
        exact .responds x credentials answer failure hlisting
      · cases h

omit [DecidableEq Digest] in
theorem setListing_listings {x y : Nat} {listing listing' : Listing}
    (h : (s.setListing y listing).listings x = some listing') :
    (x = y ∧ listing' = listing) ∨ s.listings x = some listing' := by
  simp only [State.setListing, Function.update_apply] at h
  split at h
  · rename_i hx
    exact .inl ⟨hx, (Option.some.inj h).symm⟩
  · exact .inr h

theorem service_step (h : step config s action = some (t, events)) :
    t.service = s.service ∨
      ∃ action, Service.Operations.step s.service action = some (t.service, events) := by
  cases step_does h with
  | refuses | admits | reads | responds => exact .inl rfl
  | passes action routes events hstep =>
      rcases DeviceRoutes.api_step hstep with ⟨hsame, -⟩ | ⟨apiAction, hapi⟩
      · exact .inl (congrArg DeviceCommands.State.service hsame)
      · rcases DeviceRoutes.service_step hapi with ⟨hsame, -⟩ | ⟨action', hserves, -⟩
        · exact .inl hsame
        · exact .inr ⟨action', hserves⟩

end Steps

section Runs

variable {config} {history earlier later : List (Step config)} {s t : State config}

theorem routes_run (hrun : Run (deviceViews config) (.initial config) history s) :
    ∃ steps, Run (deviceRoutes config) (.initial config) steps s.routes := by
  induction hrun with
  | nil => exact ⟨[], .nil⟩
  | @step history s action events t _ h ih =>
      obtain ⟨steps, hsteps⟩ := ih
      cases step_does h with
      | refuses | admits | reads | responds => exact ⟨steps, hsteps⟩
      | passes action routes events hstep =>
          exact ⟨_, .step action events routes hsteps hstep⟩

theorem service_run (hrun : Run (deviceViews config) (.initial config) history s) :
    ∃ steps, Run (Service.Operations.service config.service) (.initial config.service) steps
        s.service ∧ Service.Invariant.Inv (Service.Invariant.pairingLog steps) s.service := by
  obtain ⟨steps, hsteps⟩ := routes_run hrun
  exact DeviceRoutes.service_inv hsteps

/-- What the tables of a state have, the tables of a later state have as well. -/
structure Later (s t : State config) : Prop where
  grows : Grows s.service.tables t.service.tables
  names : Keeps s.service.tables t.service.tables

theorem later_of_run (hearlier : Run (deviceViews config) (.initial config) earlier s)
    (hlater : Run (deviceViews config) s later t) : Later s t := by
  refine Run.relates (fun s => ⟨.refl _, fun _ _ h => h⟩) ?_ ?_ hearlier hlater
  · rintro s t u ⟨hgrows, hnames⟩ ⟨hgrows', hnames'⟩
    exact
      { grows :=
          { grants := fun d granted h => hgrows'.grants d granted (hgrows.grants d granted h)
            revoked := fun d h => hgrows'.revoked d (hgrows.revoked d h)
            stripped := fun d h => hgrows'.stripped d (hgrows.stripped d h) }
        names := fun d name h => hnames' d name (hnames d name h) }
  · intro history s action t events hrun h
    obtain ⟨steps, hsteps, hinv⟩ := service_run hrun
    rcases service_step h with hsame | ⟨action', hserves⟩
    · constructor
      · rw [hsame]
        exact .refl _
      · rw [hsame]
        exact fun _ _ h => h
    · exact ⟨(Service.Invariant.step_tables hinv hserves).1,
        (step_names hinv (named_of_run hsteps) hserves).1⟩

def Interrupted (history : List (Step config)) (x : Nat) : Prop :=
  ∃ u ∈ history, ∃ error applied, u.action = .perform x (.interrupted error applied)

def Unrendered (history : List (Step config)) (x : Nat) : Prop :=
  ∃ u ∈ history, ∃ error, u.action = .respond x (some error)

omit [DecidableEq Digest] in
theorem Interrupted.cons {x : Nat} (h : Interrupted history x) (u : Step config) :
    Interrupted (u :: history) x := by
  obtain ⟨v, hv, haction⟩ := h
  exact ⟨v, List.mem_cons_of_mem u hv, haction⟩

omit [DecidableEq Digest] in
theorem Unrendered.cons {x : Nat} (h : Unrendered history x) (u : Step config) :
    Unrendered (u :: history) x := by
  obtain ⟨v, hv, haction⟩ := h
  exact ⟨v, List.mem_cons_of_mem u hv, haction⟩

/-- The entries come from the table of the one state and the connections of the other. -/
def Composed (read shown : State config) (entries : List DeviceResponse) : Prop :=
  ∃ devices hydrated, read.service.tables.listAll config.service.dialect = .ok devices ∧
    devices.mapM (withRuntimeState shown.service.manager) = .ok hydrated ∧
    entries = (sortBy (fun device => listingKey config device.name device.id) hydrated).map
      .fromDomain

def Open (s : State config) (x : Nat) : Prop :=
  ∃ credentials answer, s.listings x = some ⟨credentials, .awaitingList answer⟩

/-- The moments behind the stage of a listing, which was received after the first of them. -/
def Traced (history : List (Step config)) (s : State config) (x : Nat) : Stage → Prop
  | .awaitingList none => ∃ received,
      Passes (deviceViews config) (.initial config) [received] history s ∧
      received.listings x = none
  | .awaitingList (some (.ok devices)) => ∃ received read,
      Passes (deviceViews config) (.initial config) [read, received] history s ∧
      received.listings x = none ∧
      read.service.tables.listAll config.service.dialect = .ok devices
  | .answered (.ok entries) => ∃ received read shown,
      Passes (deviceViews config) (.initial config) [shown, read, received] history s ∧
      received.listings x = none ∧ Open shown x ∧ Composed read shown entries
  | .awaitingList (some (.error _)) | .answered (.deviceError _ _) => Interrupted history x
  | .answered (.failed _) => Interrupted history x ∨ Unrendered history x
  | .answered (.refused _) => True

theorem Traced.step {x : Nat} {stage : Stage} {action : Action config}
    {events : List (Event Digest)} (htraced : Traced history s x stage)
    (h : step config s action = some (t, events)) :
    Traced (⟨s, action, events, t⟩ :: history) t x stage := by
  have hfire : (deviceViews config).step s action = some (t, events) := h
  rcases stage with (_ | error | devices) | (entries | ⟨_, _⟩ | error | error)
  · obtain ⟨received, hpasses, hfresh⟩ := htraced
    exact ⟨received, hpasses.step hfire, hfresh⟩
  · exact Interrupted.cons htraced _
  · obtain ⟨received, read, hpasses, hrest⟩ := htraced
    exact ⟨received, read, hpasses.step hfire, hrest⟩
  · obtain ⟨received, read, shown, hpasses, hrest⟩ := htraced
    exact ⟨received, read, shown, hpasses.step hfire, hrest⟩
  · exact Interrupted.cons htraced _
  · trivial
  · rcases htraced with hinterrupted | hunrendered
    · exact .inl (hinterrupted.cons _)
    · exact .inr (hunrendered.cons _)

/-- What a listing has come to is traced, and only an administrator's is not turned away. -/
def Inv (history : List (Step config)) (s : State config) : Prop :=
  ∀ x listing, s.listings x = some listing → Traced history s x listing.stage ∧
    (IsAdmin config listing.credentials ∨ ∃ error, listing.stage = .answered (.refused error))

theorem traced_of_error {x : Nat} (h : Interrupted history x) (failure : Option Raised)
    (error : Raised) : Traced history s x (.answered (answerOf failure (.error error))) := by
  cases error with
  | device => exact h
  | _ => exact .inl h

omit [DecidableEq Digest] in
/-- No connection makes a device a revoked one, so the view of a device is well formed. -/
theorem exists_withRuntimeState {manager : Manager.Operations.State}
    (hlive : ∀ d k, manager.connections.lookup d = some k → k.status ≠ .revoked)
    (device : Device) : ∃ seen, withRuntimeState manager device = .ok seen := by
  unfold withRuntimeState
  split
  · exact ⟨device, rfl⟩
  · rename_i hstatus
    have hname : 0 < (strip device.name).length ∧ (strip device.name).length ≤ 120 := by
      rw [device.name_normalized]
      exact device.name_length
    have hrevoked {status : DeviceStatus} (h : status ≠ .revoked) :
        status = .revoked ↔ device.revokedAt.isSome :=
      ⟨fun heq => absurd heq h, fun hsome => absurd (device.revoked_iff.mpr hsome) hstatus⟩
    split
    · exact Device.exists_make _ _ _ _ _ hname (hrevoked (by decide))
    · rename_i connection hstate
      obtain ⟨k, hk, rfl⟩ := Option.map_eq_some_iff.mp hstate
      exact Device.exists_make _ _ _ _ _ hname (hrevoked (hlive _ k hk))

omit [DecidableEq Digest] in
theorem exists_listDevices {manager : Manager.Operations.State}
    (hlive : ∀ d k, manager.connections.lookup d = some k → k.status ≠ .revoked)
    (devices : List Device) : ∃ hydrated, devices.mapM (withRuntimeState manager) = .ok hydrated ∧
      listDevices config manager devices =
        .ok (sortBy (fun device => listingKey config device.name device.id) hydrated) := by
  obtain ⟨hydrated, hhydrated⟩ := exists_mapM fun device (_ : device ∈ devices) =>
    exists_withRuntimeState hlive device
  refine ⟨hydrated, hhydrated, ?_⟩
  unfold listDevices
  rw [hhydrated]
  rfl

theorem Inv.step {action : Action config} {events : List (Event Digest)}
    (hprev : Run (deviceViews config) (.initial config) history s) (hinv : Inv history s)
    (h : step config s action = some (t, events)) :
    Inv (⟨s, action, events, t⟩ :: history) t := by
  have hold : ∀ x listing, s.listings x = some listing →
      Traced (⟨s, action, events, t⟩ :: history) t x listing.stage ∧
        (IsAdmin config listing.credentials ∨
          ∃ error, listing.stage = .answered (.refused error)) := by
    intro x listing hlisting
    obtain ⟨htraced, hadmin⟩ := hinv x listing hlisting
    exact ⟨htraced.step h, hadmin⟩
  have hfire : (deviceViews config).step s action = some (t, events) := h
  have hfirst : Passes (deviceViews config) (.initial config) [] history s := hprev
  have hmark : Passes (deviceViews config) (.initial config) [s]
      (⟨s, action, events, t⟩ :: history) t := hfirst.mark.step hfire
  obtain ⟨steps, -, hservice⟩ := service_run hprev
  intro x listing hlisting
  have hread : ∀ received, Passes (deviceViews config) (.initial config) [received] history s →
      received.listings x = none →
      Traced (⟨s, action, events, t⟩ :: history) t x
        (.awaitingList (some (s.service.tables.listAll config.service.dialect))) := by
    intro received hpasses hfresh
    obtain ⟨devices, hdevices⟩ := exists_listAll config.service.dialect hservice.durable
    rw [hdevices]
    exact ⟨received, s, hpasses.mark.step hfire, hfresh, hdevices⟩
  cases step_does h with
  | passes => exact hold x listing hlisting
  | refuses y credentials error =>
      rcases setListing_listings hlisting with ⟨rfl, rfl⟩ | hsame
      · exact ⟨trivial, .inr ⟨error, rfl⟩⟩
      · exact hold x listing hsame
  | admits y credentials hfresh hadmin =>
      rcases setListing_listings hlisting with ⟨rfl, rfl⟩ | hsame
      · exact ⟨⟨s, hmark, hfresh⟩, .inl hadmin⟩
      · exact hold x listing hsame
  | reads y credentials outcome hopen =>
      rcases setListing_listings hlisting with ⟨rfl, rfl⟩ | hsame
      · obtain ⟨⟨received, hpasses, hfresh⟩, hadmin⟩ := hinv x _ hopen
        refine ⟨?_, hadmin.imp_right fun ⟨error, herror⟩ => by cases herror⟩
        cases outcome with
        | interrupted error applied =>
            exact ⟨_, List.mem_cons_self, error, applied, rfl⟩
        | completed =>
            exact hread received hpasses hfresh
      · exact hold x listing hsame
  | responds y credentials answer failure hopen =>
      rcases setListing_listings hlisting with ⟨rfl, rfl⟩ | hsame
      · obtain ⟨htraced, hadmin⟩ := hinv x _ hopen
        refine ⟨?_, .inl (hadmin.resolve_right fun ⟨error, herror⟩ => by cases herror)⟩
        cases answer with
        | error error => exact traced_of_error (Interrupted.cons htraced _) failure error
        | ok devices =>
            obtain ⟨received, read, hpasses, hfresh, hdevices⟩ := htraced
            obtain ⟨hydrated, hhydrated, hlisted⟩ := exists_listDevices
              (fun d k hk => (hservice.manager.connections d k hk).1) devices
            show Traced _ _ _ (.answered (answerOf failure (listDevices config _ devices)))
            rw [hlisted]
            cases failure with
            | some error => exact .inr ⟨_, List.mem_cons_self, error, rfl⟩
            | none =>
                exact ⟨received, read, s, hpasses.mark.step hfire, hfresh, ⟨_, _, hopen⟩,
                  devices, hydrated, hdevices, hhydrated, rfl⟩
      · exact hold x listing hsame

theorem inv_of_run (hrun : Run (deviceViews config) (.initial config) history s) :
    Inv history s := by
  refine hrun.historyInvariant Inv ?_ ?_
  · intro x listing hlisting
    cases hlisting
  · intro history s action t events hprev hinv h
    exact hinv.step hprev h

end Runs

section Entries

variable {config}

/-- The entry shows the connection of its device, or that it has none. -/
def ShowsRuntime (manager : Manager.Operations.State) (e : DeviceResponse) : Prop :=
  match manager.connections.lookup e.id with
  | none => e.status = .offline ∧ e.advertisedCapabilities = []
  | some k => e.status = k.status ∧
      e.advertisedCapabilities = sortedValues k.advertisedCapabilities ∧
      e.lastSeenAt = some k.lastSeenAt

/-- What the listing tells of the table as it was read, and of the connections as they were
when they were looked at. -/
structure TrueListing (received read shown : State config) (entries : List DeviceResponse) :
    Prop where
  complete : ∀ d, (read.service.tables.devices.lookup d).isSome ↔ ∃ e ∈ entries, e.id = d
  distinct : (entries.map DeviceResponse.id).Nodup
  ordered : entries.Pairwise fun e e' =>
    listingKey config e.name e.id ≤ listingKey config e'.name e'.id
  /-- An administrator asked for the pairing, with these grants, and its claim gave the name. -/
  registered : ∀ e ∈ entries, ∃ x y granted, PairedBy read.routes x y granted e.name ∧
    HasGrants read.service.tables e.id granted ∧ e.grantedCapabilities = sortedValues granted
  revoked : ∀ e ∈ entries, e.status = .revoked ↔ Revoked read.service.tables e.id
  live : ∀ e ∈ entries, e.status ≠ .revoked → ShowsRuntime shown.service.manager e
  /-- A credential that had been handed out is that of a device in the list. -/
  paired : ∀ y response, Credentialed received.routes y response →
    ∃ e ∈ entries, e.id = response.device.id ∧ e.name = response.device.name
  /-- A revocation that had been confirmed shows. -/
  confirmed : ∀ x d body, AsksRevocation received.routes x d (some (.ok body)) →
    ∃ e ∈ entries, e.id = d ∧ e.status = .revoked
  /-- One that was confirmed in between leaves nothing but an offline device to show. -/
  unreachable : ∀ x d body, AsksRevocation shown.routes x d (some (.ok body)) →
    ∀ e ∈ entries, e.id = d → e.status = .revoked ∨ e.status = .offline

variable {read shown : State config} {entries : List DeviceResponse}

omit [DecidableEq Digest] in
theorem withRuntimeState_eq_ok {manager : Manager.Operations.State} {device seen : Device}
    (h : withRuntimeState manager device = .ok seen) :
    (device.status = .revoked ∧ seen = device) ∨
      (device.status ≠ .revoked ∧ seen.id = device.id ∧ seen.name = device.name ∧
        seen.grantedCapabilities = device.grantedCapabilities ∧
        ShowsRuntime manager (.fromDomain seen)) := by
  unfold withRuntimeState at h
  split at h
  · rename_i hstatus
    cases h
    exact .inl ⟨hstatus, rfl⟩
  · rename_i hstatus
    right
    cases hlookup : manager.connections.lookup device.id with
    | none =>
        rw [Manager.Operations.getState, hlookup] at h
        obtain ⟨hid, hname, hgranted, -, hoffline, hadvertised, -⟩ := Device.make_eq_ok h
        refine ⟨hstatus, hid, hname.trans device.name_normalized, hgranted, ?_⟩
        have hnone : manager.connections.lookup (DeviceResponse.fromDomain seen).id = none :=
          (congrArg manager.connections.lookup hid).trans hlookup
        unfold ShowsRuntime
        rw [hnone]
        refine ⟨hoffline, ?_⟩
        show sortedValues seen.advertisedCapabilities = []
        rw [hadvertised]
        rfl
    | some k =>
        rw [Manager.Operations.getState, hlookup] at h
        obtain ⟨hid, hname, hgranted, -, hlive, hadvertised, hseen, -⟩ := Device.make_eq_ok h
        refine ⟨hstatus, hid, hname.trans device.name_normalized, hgranted, ?_⟩
        have hsome : manager.connections.lookup (DeviceResponse.fromDomain seen).id = some k :=
          (congrArg manager.connections.lookup hid).trans hlookup
        unfold ShowsRuntime
        rw [hsome]
        exact ⟨hlive, congrArg sortedValues hadvertised, hseen⟩

omit [DecidableEq Digest] in
theorem seen_eq {manager : Manager.Operations.State} {device seen : Device}
    (h : withRuntimeState manager device = .ok seen) : seen.id = device.id ∧
      seen.name = device.name ∧ seen.grantedCapabilities = device.grantedCapabilities := by
  rcases withRuntimeState_eq_ok h with ⟨-, rfl⟩ | ⟨-, hid, hname, hgranted, -⟩
  · exact ⟨rfl, rfl, rfl⟩
  · exact ⟨hid, hname, hgranted⟩

omit [DecidableEq Digest] in
theorem ShowsRuntime.status_ne {manager : Manager.Operations.State} {e : DeviceResponse}
    (h : ShowsRuntime manager e)
    (hlive : ∀ d k, manager.connections.lookup d = some k → k.status ≠ .revoked) :
    e.status ≠ .revoked := by
  unfold ShowsRuntime at h
  split at h
  · rw [h.1]
    decide
  · rename_i k hk
    rw [h.1]
    exact hlive _ k hk

omit [DecidableEq Digest] in
theorem Composed.entry (h : Composed read shown entries) {e : DeviceResponse} (he : e ∈ entries) :
    ∃ device seen, read.service.tables.get config.service.dialect device.id = .ok (some device) ∧
      withRuntimeState shown.service.manager device = .ok seen ∧ e = .fromDomain seen := by
  obtain ⟨devices, hydrated, hdevices, hhydrated, rfl⟩ := h
  obtain ⟨seen, hseen, rfl⟩ := List.mem_map.mp he
  obtain ⟨device, hdevice, hview⟩ := mem_of_mapM hhydrated ((sortBy_perm _ _).mem_iff.mp hseen)
  exact ⟨device, seen, (mem_listAll hdevices).mp hdevice, hview, rfl⟩

omit [DecidableEq Digest] in
theorem Composed.exists_entry (h : Composed read shown entries) {d : UUID}
    (hdurable : Durable read.service.tables)
    (hd : (read.service.tables.devices.lookup d).isSome) : ∃ e ∈ entries, e.id = d := by
  obtain ⟨devices, hydrated, hdevices, hhydrated, rfl⟩ := h
  obtain ⟨device, hget⟩ := exists_get config.service.dialect hdurable hd
  obtain ⟨rfl, -⟩ := get_eq_some hdurable hget
  obtain ⟨seen, hseen, hview⟩ := exists_of_mapM hhydrated ((mem_listAll hdevices).mpr hget)
  have hmem := (sortBy_perm (fun device : Device => listingKey config device.name device.id)
    hydrated).mem_iff.mpr hseen
  exact ⟨.fromDomain seen, List.mem_map_of_mem hmem, (seen_eq hview).1⟩

omit [DecidableEq Digest] in
theorem Composed.distinct (h : Composed read shown entries) :
    (entries.map DeviceResponse.id).Nodup := by
  obtain ⟨devices, hydrated, hdevices, hhydrated, rfl⟩ := h
  have hids : hydrated.map Device.id = devices.map Device.id :=
    map_of_mapM (fun _ _ hview => (seen_eq hview).1) hhydrated
  have hperm := (sortBy_perm (fun device : Device => listingKey config device.name device.id)
    hydrated).map Device.id
  rw [List.map_map]
  refine hperm.nodup_iff.mpr ?_
  rw [hids]
  exact nodup_listAll hdevices

omit [DecidableEq Digest] in
theorem Composed.ordered (h : Composed read shown entries) : entries.Pairwise fun e e' =>
    listingKey config e.name e.id ≤ listingKey config e'.name e'.id := by
  obtain ⟨devices, hydrated, -, -, rfl⟩ := h
  exact List.pairwise_map.mpr (sortBy_pairwise _ hydrated)

omit [DecidableEq Digest] in
theorem Composed.exists_named (h : Composed read shown entries) {d : UUID} {name : String}
    (hdurable : Durable read.service.tables) (hname : HasName read.service.tables d name) :
    ∃ e ∈ entries, e.id = d ∧ e.name = name := by
  have hsome : (read.service.tables.devices.lookup d).isSome := by
    obtain ⟨row, hrow, -⟩ := hname
    rw [hrow]
    rfl
  obtain ⟨e, he, hid⟩ := h.exists_entry hdurable hsome
  refine ⟨e, he, hid, ?_⟩
  obtain ⟨device, seen, hget, hview, rfl⟩ := h.entry he
  have hread : HasName read.service.tables device.id device.name := hasName_of_get hdurable hget
  rw [show device.id = d from (seen_eq hview).1.symm.trans hid] at hread
  exact (seen_eq hview).2.1.trans (hname.unique hread)

omit [DecidableEq Digest] in
theorem Composed.status (h : Composed read shown entries) {e : DeviceResponse} (he : e ∈ entries)
    (hdurable : Durable read.service.tables) :
    (Revoked read.service.tables e.id ∧ e.status = .revoked) ∨
      (¬Revoked read.service.tables e.id ∧ ShowsRuntime shown.service.manager e) := by
  obtain ⟨device, seen, hget, hview, rfl⟩ := h.entry he
  have hrevoked := (get_eq_some hdurable hget).2.2
  rcases withRuntimeState_eq_ok hview with ⟨hstatus, rfl⟩ | ⟨hstatus, hid, -, -, hshows⟩
  · exact .inl ⟨hrevoked.mp hstatus, hstatus⟩
  · refine .inr ⟨?_, hshows⟩
    show ¬Revoked _ seen.id
    rw [hid]
    exact fun h => hstatus (hrevoked.mpr h)

variable {history earlier : List (Step config)} {s received : State config}

theorem registered_of_get (hrun : Run (deviceViews config) (.initial config) history s)
    {device : Device}
    (hget : s.service.tables.get config.service.dialect device.id = .ok (some device)) :
    ∃ x y, PairedBy s.routes x y device.grantedCapabilities device.name ∧
      HasGrants s.service.tables device.id device.grantedCapabilities := by
  obtain ⟨steps, hsteps⟩ := routes_run hrun
  obtain ⟨served, hserved, hinv⟩ := DeviceRoutes.service_inv hsteps
  obtain ⟨x, y, granted, name, hpresents, hgrants, hnamed⟩ :=
    Service.Provenance.registered_presents hserved (isSome_of_get hget)
  obtain ⟨hpaired, hnormalized⟩ := pairedBy_of_presents (DeviceRoutes.inv_of_run hsteps) hpresents
  obtain ⟨-, hread, -⟩ := get_eq_some hinv.durable hget
  obtain rfl := hread.unique hgrants
  have hname : HasName s.service.tables device.id device.name := hasName_of_get hinv.durable hget
  obtain rfl : name = device.name :=
    hnormalized.symm.trans (hname.unique (registered_named hserved hnamed))
  exact ⟨x, y, hpaired, hgrants⟩

theorem hasName_of_credentialed {routes : DeviceRoutes.State config}
    {steps : List (DeviceRoutes.Step config)}
    (hrun : Run (deviceRoutes config) (.initial config) steps routes) {y : Nat}
    {response : DeviceRoutes.PairDeviceResponse} (h : Credentialed routes y response) :
    HasName routes.service.tables response.device.id response.device.name := by
  obtain ⟨served, hserved, -⟩ := DeviceRoutes.service_inv hrun
  obtain ⟨call, credential, hcall, hreturned, rfl⟩ := h.claimed (DeviceRoutes.inv_of_run hrun)
  obtain ⟨registration, rows, ⟨u, hu, hcommits⟩, rfl, -⟩ :=
    Service.Provenance.returned_commits hserved hcall hreturned
  exact registered_named hserved ⟨u, hu, y, registration, rows, hcommits, rfl, rfl⟩

theorem Composed.registered (h : Composed read shown entries)
    (hrun : Run (deviceViews config) (.initial config) history read) {e : DeviceResponse}
    (he : e ∈ entries) : ∃ x y granted, PairedBy read.routes x y granted e.name ∧
      HasGrants read.service.tables e.id granted ∧
      e.grantedCapabilities = sortedValues granted := by
  obtain ⟨device, seen, hget, hview, rfl⟩ := h.entry he
  obtain ⟨hid, hname, hgranted⟩ := seen_eq hview
  obtain ⟨x, y, hpaired, hgrants⟩ := registered_of_get hrun hget
  refine ⟨x, y, device.grantedCapabilities, ?_, ?_, congrArg sortedValues hgranted⟩
  · show PairedBy _ x y _ seen.name
    rw [hname]
    exact hpaired
  · show HasGrants _ seen.id _
    rw [hid]
    exact hgrants

theorem trueListing_of_composed
    (hpasses : Passes (deviceViews config) (.initial config) [shown, read, received] history s)
    (h : Composed read shown entries) : TrueListing received read shown entries := by
  obtain ⟨_, _, hshown, -⟩ := hpasses.split
  obtain ⟨_, _, hread, -⟩ := hshown.split
  obtain ⟨_, _, hreceived, hlater⟩ := hread.split
  have hgrown : Later received read := later_of_run hreceived.run hlater
  obtain ⟨_, -, hinv⟩ := service_run hread.run
  obtain ⟨_, -, hinv'⟩ := service_run hshown.run
  obtain ⟨_, hroutes⟩ := routes_run hreceived.run
  obtain ⟨_, hroutes'⟩ := routes_run hshown.run
  have hrevoked : ∀ e ∈ entries, e.status = .revoked ↔ Revoked read.service.tables e.id := by
    intro e he
    rcases h.status he hinv.durable with ⟨hrevoked, hstatus⟩ | ⟨hrevoked, hshows⟩
    · exact iff_of_true hstatus hrevoked
    · refine iff_of_false (hshows.status_ne ?_) hrevoked
      exact fun d k hk => (hinv'.manager.connections d k hk).1
  have hlive : ∀ e ∈ entries, e.status ≠ .revoked → ShowsRuntime shown.service.manager e := by
    intro e he hstatus
    rcases h.status he hinv.durable with ⟨-, hstatus'⟩ | ⟨-, hshows⟩
    · exact absurd hstatus' hstatus
    · exact hshows
  refine
    { complete := ?_
      distinct := h.distinct
      ordered := h.ordered
      registered := fun e he => h.registered hread.run he
      revoked := hrevoked
      live := hlive
      paired := ?_
      confirmed := ?_
      unreachable := ?_ }
  · intro d
    constructor
    · exact fun hd => h.exists_entry hinv.durable hd
    · rintro ⟨e, he, rfl⟩
      obtain ⟨device, seen, hget, hview, rfl⟩ := h.entry he
      show (read.service.tables.devices.lookup seen.id).isSome = true
      rw [(seen_eq hview).1]
      exact isSome_of_get hget
  · intro y response hcredentialed
    have hname := hasName_of_credentialed hroutes hcredentialed
    exact h.exists_named hinv.durable (hgrown.names _ _ hname)
  · intro x d body hasks
    have hfinal : Final d received.service := confirmed_final hroutes hasks
    obtain ⟨row, hrow, hsome⟩ := hgrown.grows.revoked d hfinal.revoked
    obtain ⟨e, he, rfl⟩ := h.exists_entry hinv.durable (by rw [hrow]; rfl)
    exact ⟨e, he, rfl, (hrevoked e he).mpr ⟨row, hrow, hsome⟩⟩
  · rintro x d body hasks e he rfl
    have hfinal : Final e.id shown.service := confirmed_final hroutes' hasks
    rcases h.status he hinv.durable with ⟨-, hstatus⟩ | ⟨-, hshows⟩
    · exact .inl hstatus
    · unfold ShowsRuntime at hshows
      rw [hfinal.offline] at hshows
      exact .inr hshows.1

/-- What the answers to the requests for the list of devices tell. -/
structure Listed (history : List (Step config)) (s : State config) : Prop where
  /-- A list shows the table at one moment, and the connections at a later one, while the
  request was open. -/
  truthful : ∀ x credentials entries,
    s.listings x = some ⟨credentials, .answered (.ok entries)⟩ →
      IsAdmin config credentials ∧ ∃ received read shown,
        Passes (deviceViews config) (.initial config) [shown, read, received] history s ∧
        received.listings x = none ∧ Open shown x ∧ TrueListing received read shown entries
  /-- A request that was let in fails only if the database or the rendering does. -/
  failures : ∀ x credentials answer, s.listings x = some ⟨credentials, .answered answer⟩ →
    (∃ entries, answer = .ok entries) ∨ (∃ error, answer = .refused error) ∨
      Interrupted history x ∨ Unrendered history x

/-- Every list of devices is complete, in order, and true of a moment while it was asked for. -/
theorem listings_are_true (hrun : Run (deviceViews config) (.initial config) history s) :
    Listed history s := by
  have hinv := inv_of_run hrun
  constructor
  · intro x credentials entries hlisting
    obtain ⟨⟨received, read, shown, hpasses, hfresh, hopen, hcomposed⟩, hadmin⟩ :=
      hinv x _ hlisting
    have hadmin' : IsAdmin config credentials :=
      hadmin.resolve_right fun ⟨error, herror⟩ => by cases herror
    exact ⟨hadmin', received, read, shown, hpasses, hfresh, hopen,
      trueListing_of_composed hpasses hcomposed⟩
  · intro x credentials answer hlisting
    obtain ⟨htraced, -⟩ := hinv x _ hlisting
    cases answer with
    | ok entries => exact .inl ⟨entries, rfl⟩
    | refused error => exact .inr (.inl ⟨error, rfl⟩)
    | deviceError => exact .inr (.inr (.inl htraced))
    | failed => exact .inr (.inr htraced)

end Entries

section Samples

open JarvisCore.Api.DeviceCommands (sampleApi)

/-- A device is paired, gets a command and is revoked; then the devices are listed. -/
def sampleListing : List (Action sampleApi) :=
  sampleRequests.map .routes ++
    [.receive 0 sampleCredentials, .perform 0 .completed, .respond 0 none]

def showsRevoked (s : State sampleApi) : Bool :=
  match s.listings 0 with
  | some ⟨_, .answered (.ok [e])⟩ => e.name = "Desk" && e.status = .revoked
  | _ => false

theorem listings_are_true_revoked :
    ∃ history s, Run (deviceViews sampleApi) (.initial sampleApi) history s ∧
      showsRevoked s = true ∧ Listed history s := by
  obtain ⟨history, s, hrun, hshows⟩ := exists_run_of_replay (S := deviceViews sampleApi)
    (s := .initial sampleApi) sampleListing (fun _ s => showsRevoked s) (by decide +kernel)
  exact ⟨history, s, hrun, hshows, listings_are_true hrun⟩

end Samples

end JarvisCore.Api.DeviceViews
