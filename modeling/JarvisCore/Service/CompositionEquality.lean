import JarvisCore.Security.StoreAgreement
import JarvisCore.Service.Effects
import JarvisCore.Service.SequentialPairing

namespace JarvisCore.Service.CompositionEquality

open JarvisCore.Domain.Values
open JarvisCore.Domain.Errors
open JarvisCore.Domain.Models
open JarvisCore.Foundation.AsyncIO
open JarvisCore.Foundation.Dictionary
open JarvisCore.Foundation.Grouping
open JarvisCore.Foundation.Lockstep
open JarvisCore.Manager.Operations (disconnectDevice getState)
open JarvisCore.Pairing.Backends
open JarvisCore.Pairing.Challenges
open JarvisCore.Security.Credentials
open JarvisCore.Security.DeviceTables
open JarvisCore.Security.InMemoryStores
open JarvisCore.Security.StoreAgreement
open JarvisCore.Service.Compositions
open JarvisCore.Service.Effects (withRuntimeState_id)
open JarvisCore.Service.Operations (revokedDevice withRuntimeState)
open JarvisCore.Service.SequentialPairing

variable {Digest : Type}

/-- Both return the same or both raise. -/
def SameResult {α : Type} : Except Raised α → Except Raised α → Prop
  | .ok a, .ok a' => a = a'
  | .error _, .error _ => True
  | _, _ => False

/-- Both calls come to an end, with the same result or with an exception each. -/
def SameReply (reply reply' : Reply) : Prop :=
  ∃ result result', reply = some result ∧ reply' = some result' ∧ SameResult result result'

theorem SameResult.refl {α : Type} (result : Except Raised α) : SameResult result result := by
  cases result with
  | error error => trivial
  | ok a => rfl

theorem SameResult.map {α β : Type} {result result' : Except Raised α}
    (h : SameResult result result') (f : α → β) : SameResult (result.map f) (result'.map f) := by
  cases result with
  | error error =>
      cases result' with
      | error error' => trivial
      | ok a' => exact h.elim
  | ok a =>
      cases result' with
      | error error' => exact h.elim
      | ok a' => exact congrArg f h

theorem SameReply.of_same {result result' : Except Raised Value} (h : SameResult result result') :
    SameReply (some result) (some result') := ⟨result, result', rfl, rfl, h⟩

/-- Two compositions whose stores give the same answers, as long as every device that is
registered has an identifier of its own. -/
structure Alike (C D : Composition Digest) where
  Agree : C.backend.Store → D.backend.Store → Prop
  Registered : C.backend.Store → UUID → Prop
  readClock : ∀ clock, C.backend.readClock ⟨clock, some 0⟩ = .ok ⟨clock, 0⟩ ∧
    D.backend.readClock ⟨clock, some 0⟩ = .ok ⟨clock, 0⟩
  empty : Agree C.empty D.empty ∧ ∀ d, ¬ Registered C.empty d
  get : ∀ {s t}, Agree s t → ∀ d, ∃ found, C.get s d = .ok found ∧ D.get t d = .ok found
  listAll : ∀ {s t}, Agree s t → ∃ devices devices', C.listAll s = .ok devices ∧
    D.listAll t = .ok devices' ∧ devices.Perm devices' ∧
      ∀ a ∈ devices, ∀ b ∈ devices, a.id = b.id → a = b
  authenticate : ∀ {s t}, Agree s t → ∀ token, C.authenticate s token = D.authenticate t token
  revoke : ∀ {s t}, Agree s t → ∀ d, Agree (C.revoke s d) (D.revoke t d) ∧
    ∀ d', Registered (C.revoke s d) d' → Registered s d'
  save : ∀ {s t}, Agree s t → ∀ {d device clock revoked}, C.get s d = .ok (some device) →
    revokedDevice device ⟨clock, some 0⟩ = .ok revoked →
      ∃ s' t', C.save (C.revoke s d) revoked = .ok s' ∧ D.save (D.revoke t d) revoked = .ok t' ∧
        Agree s' t' ∧ ∀ d', Registered s' d' → Registered s d'
  register : ∀ {s t}, Agree s t → ∀ (fresh : Fresh) name granted clock,
    ¬ Registered s fresh.deviceId →
      ∃ s' t' result result',
        register C.backend C.completed (C.setup fresh ⟨clock, some 0⟩) name granted ⟨clock, 0⟩ s =
            some (s', result) ∧
          register D.backend D.completed (D.setup fresh ⟨clock, some 0⟩) name granted ⟨clock, 0⟩
              t = some (t', result') ∧
            Agree s' t' ∧ SameResult result result' ∧
              ∀ d, Registered s' d → Registered s d ∨ d = fresh.deviceId

/-- The identifier that a call would give a new device. -/
def newDeviceId (call : Call) : Option UUID :=
  match call.request with
  | .pairDevice _ _ _ fresh => some fresh.deviceId
  | _ => none

variable {C D : Composition Digest} (A : Alike C D)

/-- The two services before a call, after `earlier` calls. -/
structure Related (earlier : List Call) (s : State C) (t : State D) : Prop where
  idle_left : s.pairing.lock = .free ∧ ∀ x, s.calls ≤ x → s.pairing.calls x = none
  idle_right : t.pairing.lock = .free ∧ ∀ x, t.calls ≤ x → t.pairing.calls x = none
  pairings : s.pairing.pairings = t.pairing.pairings
  manager : s.manager = t.manager
  calls : s.calls = t.calls
  stores : A.Agree s.store t.store
  registered : ∀ d, A.Registered s.store d → d ∈ earlier.filterMap newDeviceId

theorem consumed_congr {α : Type} {result result' : Except Raised α}
    (h : SameResult result result') (pairingId : UUID)
    (pairings : Dict UUID (PairingRecord Digest)) :
    consumed pairingId pairings result' = consumed pairingId pairings result := by
  cases result with
  | error error =>
      cases result' with
      | error error' => rfl
      | ok a' => exact h.elim
  | ok a =>
      cases result' with
      | error error' => exact h.elim
      | ok a' => rfl

namespace Related

variable {A} {earlier : List Call} {s : State C} {t : State D} {settings : Settings Digest}

theorem initial : Related A [] (State.initial C) (State.initial D) where
  idle_left := ⟨rfl, fun _ _ => rfl⟩
  idle_right := ⟨rfl, fun _ _ => rfl⟩
  pairings := rfl
  manager := rfl
  calls := rfl
  stores := A.empty.1
  registered d hd := absurd hd (A.empty.2 d)

theorem unchanged (h : Related A earlier s t) (call : Call) : Related A (call :: earlier) s t :=
  { h with
    registered := fun d hd => by
      obtain ⟨call', hcall', hid⟩ := List.mem_filterMap.mp (h.registered d hd)
      exact List.mem_filterMap.mpr ⟨call', List.mem_cons_of_mem call hcall', hid⟩ }

theorem setStore (h : Related A earlier s t) {store : C.backend.Store} {store' : D.backend.Store}
    (hagree : A.Agree store store') (hregistered : ∀ d, A.Registered store d → A.Registered s.store d) :
    Related A earlier (s.setStore store) (t.setStore store') :=
  { h with
    stores := hagree
    registered := fun d hd => h.registered d (hregistered d hd) }

section Pairing

variable [DecidableEq Digest]

theorem pair (h : Related A earlier s t) (call : Call) {action : Nat → Action C.backend}
    {action' : Nat → Action D.backend} {pairings : Dict UUID (PairingRecord Digest)}
    {store : C.backend.Store} {store' : D.backend.Store} {reply reply' : Except Raised Value}
    (hleft : Completes s.pairing s.calls
      (runPairing settings.pairing C.completed s.calls (action s.calls) s.pairing) pairings store
      reply)
    (hright : Completes t.pairing t.calls
      (runPairing settings.pairing D.completed t.calls (action' t.calls) t.pairing) pairings
      store' reply')
    (hagree : A.Agree store store')
    (hregistered : ∀ d, A.Registered store d →
      A.Registered s.store d ∨ d ∈ newDeviceId call)
    (hreply : SameResult reply reply') :
    Related A (call :: earlier) (Compositions.pair settings s action).1
        (Compositions.pair settings t action').1 ∧
      SameReply (Compositions.pair settings s action).2
        (Compositions.pair settings t action').2 := by
  obtain ⟨last, hlast, hout⟩ := hleft.calls_eq
  obtain ⟨last', hlast', hout'⟩ := hright.calls_eq
  have hfree : ∀ {B : Backend} {calls calls' : Nat → Option (PairingCall Digest B)} {n : Nat}
      {call : PairingCall Digest B}, (∀ x, n ≤ x → calls x = none) →
      calls' = Function.update calls n (some call) → ∀ x, n + 1 ≤ x → calls' x = none := by
    intro B calls calls' n call hnone hcalls' x hx
    rw [hcalls', Function.update_of_ne (by omega)]
    exact hnone x (by omega)
  constructor
  · refine ⟨⟨hleft.lock_eq, hfree h.idle_left.2 hlast⟩,
      ⟨hright.lock_eq, hfree h.idle_right.2 hlast'⟩, ?_, h.manager,
      congrArg (· + 1) h.calls, ?_, ?_⟩
    · exact hleft.pairings_eq.trans hright.pairings_eq.symm
    · show A.Agree (runPairing _ _ _ _ _).store (runPairing _ _ _ _ _).store
      rw [hleft.store_eq, hright.store_eq]
      exact hagree
    · intro d hd
      have hd' : A.Registered store d := hleft.store_eq ▸ hd
      rcases hregistered d hd' with hold | hnew
      · exact (h.unchanged call).registered d hold
      · exact List.mem_filterMap.mpr ⟨call, List.mem_cons_self, hnew⟩
  · refine ⟨reply, reply', ?_, ?_, hreply⟩
    · simp only [Compositions.pair, hlast, Function.update_self, Option.bind_some, hout]
    · simp only [Compositions.pair, hlast', Function.update_self, Option.bind_some, hout']

theorem createPairing (h : Related A earlier s t) (granted : Finset DeviceCapability)
    (pairingId : UUID) (secret : String) (clock : Int) :
    let call : Call := ⟨.createPairing granted pairingId secret, clock⟩
    Related A (call :: earlier) (answer settings s call).1 (answer settings t call).1 ∧
      SameReply (answer settings s call).2 (answer settings t call).2 := by
  intro call
  have hleft := runPairing_create settings.pairing C.completed pairingId secret h.idle_left.1
    (h.idle_left.2 _ le_rfl) granted settings.pairingTtl call.reading
  have hright := runPairing_create settings.pairing D.completed pairingId secret h.idle_right.1
    (h.idle_right.2 _ le_rfl) granted settings.pairingTtl call.reading
  have hsame : created settings.pairing t.calls granted settings.pairingTtl pairingId secret
      call.reading t.pairing.pairings =
    created settings.pairing s.calls granted settings.pairingTtl pairingId secret
      call.reading s.pairing.pairings := by rw [h.calls, h.pairings]
  rw [hsame] at hright
  exact h.pair call hleft hright h.stores (fun d hd => .inl hd) (.refl _)

theorem pairDevice (h : Related A earlier s t) (pairingId : UUID) (secret name : String)
    (fresh : Fresh) (clock : Int) (hfresh : fresh.deviceId ∉ earlier.filterMap newDeviceId) :
    let call : Call := ⟨.pairDevice pairingId secret name fresh, clock⟩
    Related A (call :: earlier) (answer settings s call).1 (answer settings t call).1 ∧
      SameReply (answer settings s call).2 (answer settings t call).2 := by
  intro call
  obtain ⟨hreads, hreads'⟩ := A.readClock clock
  cases hchecked : (checked settings.pairing pairingId secret ⟨clock, 0⟩ s.pairing.pairings).2 with
  | none =>
      have hchecked' := hchecked
      rw [h.pairings] at hchecked'
      have hleft := runPairing_refused settings.pairing C.completed pairingId secret
        h.idle_left.1 (h.idle_left.2 _ le_rfl) name (C.setup fresh call.reading) hreads hchecked
      have hright := runPairing_refused settings.pairing D.completed pairingId secret
        h.idle_right.1 (h.idle_right.2 _ le_rfl) name (D.setup fresh call.reading) hreads' hchecked'
      rw [← h.pairings] at hright
      exact h.pair call hleft hright h.stores (fun d hd => .inl hd) trivial
  | some record =>
      have hchecked' := hchecked
      rw [h.pairings] at hchecked'
      have hnew : ¬ A.Registered s.store fresh.deviceId := fun hd => hfresh (h.registered _ hd)
      obtain ⟨store, store', result, result', hregister, hregister', hagree, hresult, honly⟩ :=
        A.register h.stores fresh name record.grantedCapabilities clock hnew
      have hleft := runPairing_register settings.pairing C.completed pairingId secret
        h.idle_left.1 (h.idle_left.2 _ le_rfl) name _ hreads hchecked hregister
      have hright := runPairing_register settings.pairing D.completed pairingId secret
        h.idle_right.1 (h.idle_right.2 _ le_rfl) name _ hreads' hchecked' hregister'
      rw [← h.pairings, consumed_congr hresult] at hright
      refine h.pair call hleft hright hagree ?_ (hresult.map _)
      intro d hd
      rcases honly d hd with hold | rfl
      · exact .inl hold
      · exact .inr rfl

end Pairing

theorem authenticate (h : Related A earlier s t) (token : String) :
    Compositions.authenticate s token = Compositions.authenticate t token := by
  unfold Compositions.authenticate
  rw [A.authenticate h.stores token, h.manager]
  cases D.authenticate t.store token with
  | none => rfl
  | some d =>
      obtain ⟨found, hleft, hright⟩ := A.get h.stores d
      simp only [hleft, hright]

theorem getDevice (h : Related A earlier s t) (d : UUID) :
    Compositions.getDevice s d = Compositions.getDevice t d := by
  obtain ⟨found, hleft, hright⟩ := A.get h.stores d
  simp only [Compositions.getDevice, hleft, hright, h.manager]

theorem listDevices (h : Related A earlier s t) :
    SameResult (Compositions.listDevices settings s) (Compositions.listDevices settings t) := by
  obtain ⟨devices, devices', hleft, hright, hperm, hid⟩ := A.listAll h.stores
  simp only [Compositions.listDevices, hleft, hright, h.manager]
  cases hhydrated : devices.mapM (withRuntimeState t.manager) with
  | error error =>
      cases hhydrated' : devices'.mapM (withRuntimeState t.manager) with
      | error error' => trivial
      | ok hydrated' =>
          obtain ⟨hydrated, hok, -⟩ := mapM_perm hperm.symm hhydrated'
          rw [hhydrated] at hok
          cases hok
  | ok hydrated =>
      obtain ⟨hydrated', hhydrated', hperm'⟩ := mapM_perm hperm hhydrated
      rw [hhydrated']
      show Value.devices _ = Value.devices _
      congr 1
      apply sortBy_eq_of_perm _ hperm'
      intro a ha b hb hkey
      have htext : a.id.text = b.id.text := congrArg Prod.snd (toLex.injective hkey)
      obtain ⟨stored, hstored, hseen⟩ := mem_of_mapM hhydrated ha
      obtain ⟨stored', hstored', hseen'⟩ := mem_of_mapM hhydrated hb
      have hsame : stored = stored' := by
        apply hid stored hstored stored' hstored'
        rw [← withRuntimeState_id hseen, ← withRuntimeState_id hseen']
        exact text_injective htext
      rw [hsame, hseen'] at hseen
      exact (Except.ok.inj hseen).symm

theorem revokeDevice (h : Related A earlier s t) (d : UUID) (clock : Int) :
    Related A earlier (Compositions.revokeDevice s d ⟨clock, some 0⟩).1
        (Compositions.revokeDevice t d ⟨clock, some 0⟩).1 ∧
      SameResult (Compositions.revokeDevice s d ⟨clock, some 0⟩).2
        (Compositions.revokeDevice t d ⟨clock, some 0⟩).2 := by
  obtain ⟨found, hleft, hright⟩ := A.get h.stores d
  obtain ⟨hrevoked, hkept⟩ := A.revoke h.stores d
  have hstripped := h.setStore hrevoked hkept
  unfold Compositions.revokeDevice
  rw [hleft, hright]
  cases found with
  | none => exact ⟨h, trivial⟩
  | some device =>
      simp only
      split
      · exact ⟨{ h with manager := by simp [disconnectRevoked, h.manager] }, rfl⟩
      cases hdevice : revokedDevice device ⟨clock, some 0⟩ with
      | error error => exact ⟨hstripped, trivial⟩
      | ok revoked =>
          obtain ⟨store, store', hsave, hsave', hagree, hregistered⟩ :=
            A.save h.stores hleft hdevice
          simp only [hsave, hsave']
          have hsaved := h.setStore hagree hregistered
          exact ⟨{ hsaved with manager := by simp [disconnectRevoked, hsaved.manager] }, rfl⟩

theorem step [DecidableEq Digest] (h : Related A earlier s t) (call : Call)
    (hfresh : ∀ d ∈ newDeviceId call, d ∉ earlier.filterMap newDeviceId) :
    Related A (call :: earlier) (answer settings s call).1 (answer settings t call).1 ∧
      SameReply (answer settings s call).2 (answer settings t call).2 := by
  obtain ⟨request, clock⟩ := call
  cases request with
  | createPairing granted pairingId secret => exact h.createPairing granted pairingId secret clock
  | pairDevice pairingId secret name fresh =>
      exact h.pairDevice pairingId secret name fresh clock (hfresh fresh.deviceId rfl)
  | authenticate token =>
      refine ⟨h.unchanged _, .of_same ?_⟩
      rw [h.authenticate token]
      exact .refl _
  | getDevice d =>
      refine ⟨h.unchanged _, .of_same ?_⟩
      rw [h.getDevice d]
      exact .refl _
  | listDevices => exact ⟨h.unchanged _, .of_same h.listDevices⟩
  | revokeDevice d =>
      obtain ⟨hrelated, hsame⟩ := h.revokeDevice d clock
      exact ⟨hrelated.unchanged _, .of_same hsame⟩

end Related

theorem replies_alike [DecidableEq Digest] (A : Alike C D) (settings : Settings Digest)
    (calls : List Call) (hfresh : (calls.filterMap newDeviceId).Nodup) :
    List.Forall₂ SameReply ((service settings C).replies (State.initial C) calls)
      ((service settings D).replies (State.initial D) calls) := by
  have hmeets : Meets (fun earlier call =>
      ∀ d ∈ newDeviceId call, d ∉ earlier.filterMap newDeviceId) [] calls :=
    meets_of_nodup newDeviceId hfresh (by simp)
  refine replies_agree (M := service settings C) (N := service settings D) (Related A) SameReply
    ?_ Related.initial hmeets
  intro earlier s t call hrelated hcondition
  exact hrelated.step call hcondition

section Stores

variable (codec : DeviceCredentialCodec Digest)

/-- With a UTC clock both pairings build the same device, or raise the same exception. -/
theorem newDevice_utc (id : UUID) (name : String) (granted : Finset DeviceCapability)
    (clock : Int) : InMemory.newDevice id name granted ⟨clock, some 0⟩ =
      Device.make id name granted ⟨clock, 0⟩ .offline ∅ none none := by
  have hutc : requireUtc ⟨clock, some 0⟩ "paired_at" = .ok ⟨clock, 0⟩ := rfl
  unfold InMemory.newDevice
  rw [hutc]
  split
  · rfl
  · rename_i hname
    rw [Device.make, dif_neg hname]

theorem plain_of_make {id : UUID} {name : String} {granted : Finset DeviceCapability}
    {clock : Int} {device : Device}
    (h : Device.make id name granted ⟨clock, 0⟩ .offline ∅ none none = .ok device) :
    Plain device := by
  obtain ⟨-, -, -, hpaired, hstatus, hadvertised, hseen, hrevoked⟩ := Device.make_eq_ok h
  refine ⟨by rw [hpaired], ?_, hadvertised, hseen, ?_⟩
  · rw [hstatus, hrevoked]
    rfl
  · rw [hrevoked]
    simp

theorem plain_of_revoked {device revoked : Device} {clock : Int} (h : Plain device)
    (hrevoked : revokedDevice device ⟨clock, some 0⟩ = .ok revoked) :
    revoked.id = device.id ∧ Plain revoked := by
  obtain ⟨hid, -, -, hpaired, hstatus, hadvertised, hseen, htime⟩ := Device.make_eq_ok hrevoked
  refine ⟨hid, by rw [hpaired, h.pairedAt], ?_, hadvertised, hseen.trans h.lastSeen, ?_⟩
  · rw [hstatus, htime]
    rfl
  · rw [htime]
    rintro _ ⟨⟩
    rfl

theorem start_inMemory (setup : InMemory.Setup) (name : String)
    (granted : Finset DeviceCapability) (now : AwareDatetime) (stores : Stores Digest) :
    (inMemory codec).start setup name granted now stores =
      InMemory.start codec setup name granted now stores := by
  simp only [inMemory]

theorem start_sql (setup : Sql.Setup) (name : String) (granted : Finset DeviceCapability)
    (now : AwareDatetime) (tables : Tables Digest) :
    (sql codec).start setup name granted now tables =
      Sql.start codec setup name granted now tables := by
  simp only [sql]

variable {stores : Stores Digest} {tables : Tables Digest}

theorem complete_inMemory {device : Device} {token : String} {added : Stores Digest}
    (hadd : stores.add device = .ok added) :
    complete (inMemory codec) AwaitOutcome.completed 3 (⟨device, token⟩ : InMemory.Adding) stores =
      some (added, .ok token) := by
  apply complete_returned
  show some (InMemory.resume ⟨device, token⟩ .completed stores) = _
  simp only [InMemory.resume, hadd]
  rfl

/-- The flush finds the identifier free, so the transaction reaches its commit. -/
theorem complete_sql (rows : Sql.Rows Digest) (hfree : tables.holdsDevice rows.device.id = false) :
    complete (sql codec) AwaitOutcome.completed 3 (Sql.Stage.flushing rows) tables =
      match Sql.commit rows tables with
      | some committed => some (committed, .ok rows.issued.token)
      | none => some (tables, .error Sql.integrityError) := by
  have hflush : (sql codec).resume (Sql.Stage.flushing rows) AwaitOutcome.completed tables =
      some (tables, .suspended (Sql.Stage.committing rows)) := by
    show some (Sql.resume (.flushing rows) .completed tables) = _
    simp only [Sql.resume, hfree]
    rfl
  have hcommit : (sql codec).resume (Sql.Stage.committing rows) AwaitOutcome.completed tables =
      some (Sql.resume (.committing rows) .completed tables) := rfl
  rw [complete_suspended hflush]
  cases hcommitted : Sql.commit rows tables with
  | none =>
      simp only [Sql.resume, hcommitted] at hcommit
      rw [complete_suspended hcommit]
      exact complete_raised rfl
  | some committed =>
      simp only [Sql.resume, hcommitted] at hcommit
      rw [complete_suspended hcommit]
      exact complete_returned rfl

theorem register_agree (h : StoresAgree stores tables) (fresh : Fresh) (name : String)
    (granted : Finset DeviceCapability) (clock : Int)
    (hnew : ¬ (stores.devices.lookup fresh.deviceId).isSome) :
    ∃ stores' tables' result result',
      register (inMemory codec) AwaitOutcome.completed
          ⟨fresh.deviceId, ⟨clock, some 0⟩, fresh.credentialId, fresh.tokenSecret⟩ name granted
          ⟨clock, 0⟩ stores = some (stores', result) ∧
        register (sql codec) AwaitOutcome.completed
            ⟨fresh.deviceId, fresh.credentialId, fresh.tokenSecret⟩ name granted ⟨clock, 0⟩
            tables = some (tables', result') ∧
          StoresAgree stores' tables' ∧ SameResult result result' ∧
            ∀ d, (stores'.devices.lookup d).isSome →
              (stores.devices.lookup d).isSome ∨ d = fresh.deviceId := by
  have hleft := start_inMemory codec
    ⟨fresh.deviceId, ⟨clock, some 0⟩, fresh.credentialId, fresh.tokenSecret⟩ name granted
    ⟨clock, 0⟩ stores
  have hright := start_sql codec ⟨fresh.deviceId, fresh.credentialId, fresh.tokenSecret⟩ name
    granted ⟨clock, 0⟩ tables
  simp only [InMemory.start, newDevice_utc] at hleft
  simp only [Sql.start] at hright
  cases hdevice : Device.make fresh.deviceId name granted ⟨clock, 0⟩ .offline ∅ none none with
  | error error =>
      simp only [hdevice] at hleft hright
      exact ⟨_, _, _, _, register_of_error hleft, register_of_error hright, h, trivial,
        fun d hd => .inl hd⟩
  | ok device =>
      simp only [hdevice] at hleft hright
      cases hissued : codec.issue fresh.credentialId fresh.tokenSecret with
      | error error =>
          simp only [hissued] at hleft hright
          exact ⟨_, _, _, _, register_of_error hleft, register_of_error hright, h, trivial,
            fun d hd => .inl hd⟩
      | ok issued =>
          simp only [hissued] at hleft hright
          have hid := (Device.make_eq_ok hdevice).1
          have hlookup : stores.devices.lookup device.id = none := by
            rw [hid]
            exact Option.not_isSome_iff_eq_none.mp hnew
          have hholds : tables.holdsDevice device.id = false := by
            rw [Tables.holdsDevice, h.rows, hlookup]
            rfl
          rcases h.register hlookup issued ⟨clock, 0⟩ (plain_of_make hdevice) with
            ⟨error, hissue, hregister⟩ |
              ⟨rotated, added, tables', hissue, hadd, hregister, hagree, honly⟩
          · have hcommit : Sql.commit ⟨device, issued, ⟨clock, 0⟩⟩ tables = none := hregister
            have hcomplete := complete_sql codec ⟨device, issued, ⟨clock, 0⟩⟩ hholds
            rw [hcommit] at hcomplete
            simp only [hissue] at hleft
            exact ⟨_, _, _, _, register_of_error hleft, register_of_ok hright hcomplete, h, trivial,
              fun d hd => .inl hd⟩
          · have hcommit : Sql.commit ⟨device, issued, ⟨clock, 0⟩⟩ tables = some tables' := hregister
            have hcomplete := complete_sql codec ⟨device, issued, ⟨clock, 0⟩⟩ hholds
            rw [hcommit] at hcomplete
            simp only [hissue] at hleft
            exact ⟨_, _, _, _, register_of_ok hleft (complete_inMemory codec hadd),
              register_of_ok hright hcomplete, hagree, rfl, hid ▸ honly⟩

variable [DecidableEq Digest]

/-- The in-memory stores and the tables give the same answers. -/
def storesAlike (dialect : Dialect) :
    Alike (inMemoryResources codec) (hiveResources codec dialect) where
  Agree := StoresAgree
  Registered (stores : Stores Digest) d := (stores.devices.lookup d).isSome
  readClock clock := ⟨rfl, rfl⟩
  empty := by
    refine ⟨StoresAgree.empty, ?_⟩
    intro d hd
    cases hd
  get h d := ⟨_, rfl, StoresAgree.get h dialect d⟩
  listAll h := by
    obtain ⟨devices, hdevices, hperm⟩ := StoresAgree.listAll h dialect
    exact ⟨_, devices, rfl, hdevices, hperm, StoresAgree.listAll_id h⟩
  authenticate h token := (StoresAgree.authenticate h codec token).symm
  revoke h d := ⟨StoresAgree.revoke h d, fun _ hd => hd⟩
  save := by
    intro stores tables h d device clock revoked hget hrevoked
    have hstored : Stores.get stores d = some device := Except.ok.inj hget
    obtain ⟨hid, hplain⟩ := StoresAgree.plain h d device hstored
    obtain ⟨hrevokedId, hrevokedPlain⟩ := plain_of_revoked hplain hrevoked
    have hget' : (Stores.revoke stores d).get revoked.id = some device := by
      rw [hrevokedId, hid]
      exact hstored
    exact (StoresAgree.revoke h d).save hget' hrevokedPlain
  register h fresh name granted clock hnew := register_agree codec h fresh name granted clock hnew

/-- The service of the test composition and that of the production composition answer every
list of calls alike. -/
theorem compositions_agree (dialect : Dialect) (settings : Settings Digest) (calls : List Call)
    (hfresh : (calls.filterMap newDeviceId).Nodup) :
    List.Forall₂ SameReply
      ((service settings (inMemoryResources codec)).replies (State.initial _) calls)
      ((service settings (hiveResources codec dialect)).replies (State.initial _) calls) :=
  replies_alike (storesAlike codec dialect) settings calls hfresh

section Sample

open DeviceCredentialCodec (sampleCodec)

def sampleSettings : Settings String where
  pairing := ⟨fun secret => secret, 4, by decide⟩
  pairingTtl := 300
  casefold := String.toLower

/-- A pairing with a wrong secret, then with the right one, and a revocation. -/
def sampleCalls : List Call :=
  [⟨.createPairing {.files} ⟨1⟩ "0123456789abcdef", 0⟩,
    ⟨.pairDevice ⟨1⟩ "fedcba9876543210" "Desk" ⟨⟨2⟩, ⟨3⟩, "0123456789abcdef"⟩, 10⟩,
    ⟨.pairDevice ⟨1⟩ "0123456789abcdef" "Desk" ⟨⟨4⟩, ⟨5⟩, "0123456789abcdef"⟩, 20⟩,
    ⟨.listDevices, 30⟩, ⟨.revokeDevice ⟨4⟩, 40⟩, ⟨.getDevice ⟨4⟩, 50⟩]

theorem compositions_agree_sample :
    List.Forall₂ SameReply
      ((service sampleSettings (inMemoryResources sampleCodec)).replies (State.initial _)
        sampleCalls)
      ((service sampleSettings (hiveResources sampleCodec .sqlite)).replies (State.initial _)
        sampleCalls) :=
  compositions_agree sampleCodec .sqlite sampleSettings sampleCalls (by decide)

end Sample

end Stores

end JarvisCore.Service.CompositionEquality
