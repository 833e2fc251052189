import Mathlib.Data.Prod.Lex
import JarvisCore.Domain.Models
import JarvisCore.Foundation.Dictionary
import JarvisCore.Foundation.Grouping
import JarvisCore.Security.Credentials

/-!
The tables `devices` and `device_credentials`, and the operations that
`SqlAlchemyDeviceRegistry` and `SqlAlchemyDeviceIdentity` run on them. Each runs
in one transaction, so it is one function of the committed rows.
-/

namespace JarvisCore.Security.DeviceTables

open JarvisCore.Domain.Values
open JarvisCore.Domain.Errors
open JarvisCore.Domain.Models
open JarvisCore.Foundation.Dictionary
open JarvisCore.Foundation.Grouping (sortBy)
open JarvisCore.Foundation.Text
open JarvisCore.Security.Credentials

/-- What a `DateTime(timezone=True)` column gives back: PostgreSQL the instant,
SQLite the wall-clock fields. -/
inductive Dialect
  | postgresql
  | sqlite
  deriving DecidableEq

def Dialect.readBack : Dialect → AwareDatetime → Datetime
  | .postgresql, value => ⟨value.instant, some 0⟩
  | .sqlite, value => ⟨value.wall, none⟩

/-- `_as_utc` of a time whose instant has fields in UTC. `DurableProjection` has the rest. -/
def asUtc (value : Datetime) : AwareDatetime :=
  match value.utcoffset with
  | none => ⟨value.wall, 0⟩
  | some offset => ⟨value.wall - offset, 0⟩

structure DeviceRow where
  name : String
  grantedCapabilities : List String
  pairedAt : AwareDatetime
  revokedAt : Option AwareDatetime

structure CredentialRow (Digest : Type) where
  deviceId : UUID
  tokenDigest : Digest
  createdAt : AwareDatetime

structure Tables (Digest : Type) where
  devices : Dict UUID DeviceRow
  credentials : Dict UUID (CredentialRow Digest)

def Tables.empty {Digest : Type} : Tables Digest := ⟨∅, ∅⟩

/-- The values in the order in which `sorted` puts them. -/
def sortedValues (capabilities : Finset DeviceCapability) : List String :=
  ([.files, .openApp, .system].filter (· ∈ capabilities)).map DeviceCapability.value

def capabilityOfValue (value : String) : Except Raised DeviceCapability :=
  if value = "open_app" then .ok .openApp
  else if value = "files" then .ok .files
  else if value = "system" then .ok .system
  else .error (.valueError ("'" ++ value ++ "' is not a valid DeviceCapability"))

/-- `durable_values`, which are also the columns of `record_from_domain`. -/
def durableValues (device : Device) : DeviceRow where
  name := device.name
  grantedCapabilities := sortedValues device.grantedCapabilities
  pairedAt := device.pairedAt
  revokedAt := device.revokedAt

def readStatus (revokedAt : Option AwareDatetime) : DeviceStatus :=
  if revokedAt.isSome then .revoked else .offline

def toDomain (dialect : Dialect) (id : UUID) (row : DeviceRow) : Except Raised Device :=
  match row.grantedCapabilities.mapM capabilityOfValue with
  | .error error => .error error
  | .ok granted =>
      Device.make id row.name granted.toFinset (asUtc (dialect.readBack row.pairedAt))
        (readStatus row.revokedAt) ∅ none
        (row.revokedAt.map fun value => asUtc (dialect.readBack value))

theorem capabilityOfValue_value (c : DeviceCapability) : capabilityOfValue c.value = .ok c := by
  cases c <;> decide

theorem mapM_sortedValues (capabilities : Finset DeviceCapability) :
    (sortedValues capabilities).mapM capabilityOfValue =
      .ok ([.files, .openApp, .system].filter (· ∈ capabilities)) := by
  generalize hl : [DeviceCapability.files, .openApp, .system].filter (· ∈ capabilities) = l
  rw [sortedValues, hl]
  clear hl
  induction l with
  | nil => rfl
  | cons c l ih =>
      rw [List.map_cons, List.mapM_cons, capabilityOfValue_value]
      show (l.map DeviceCapability.value).mapM capabilityOfValue >>= _ = _
      rw [ih]
      rfl

theorem toFinset_sorted (capabilities : Finset DeviceCapability) :
    ([.files, .openApp, .system].filter (· ∈ capabilities) : List DeviceCapability).toFinset =
      capabilities := by
  ext c
  cases c <;> simp

theorem readStatus_iff (dialect : Dialect) (revokedAt : Option AwareDatetime) :
    readStatus revokedAt = .revoked ↔
      (revokedAt.map fun value => asUtc (dialect.readBack value)).isSome := by
  cases revokedAt <;> simp [readStatus]

theorem exists_toDomain (dialect : Dialect) (device : Device) :
    ∃ read, toDomain dialect device.id (durableValues device) = .ok read ∧
      read.id = device.id ∧ read.name = device.name ∧
      read.grantedCapabilities = device.grantedCapabilities ∧
      read.pairedAt = asUtc (dialect.readBack device.pairedAt) ∧
      read.status = readStatus device.revokedAt ∧ read.advertisedCapabilities = ∅ ∧
      read.lastSeenAt = none ∧
      read.revokedAt = device.revokedAt.map fun value => asUtc (dialect.readBack value) := by
  have hname : 0 < (strip device.name).length ∧ (strip device.name).length ≤ 120 := by
    rw [device.name_normalized]
    exact device.name_length
  obtain ⟨read, hread⟩ := Device.exists_make device.id device.grantedCapabilities ∅
    (asUtc (dialect.readBack device.pairedAt)) none hname (readStatus_iff dialect device.revokedAt)
  obtain ⟨hid, hstripped, hrest⟩ := Device.make_eq_ok hread
  simp only [toDomain, durableValues, mapM_sortedValues, toFinset_sorted]
  exact ⟨read, hread, hid, hstripped.trans device.name_normalized, hrest⟩

/-- A stored device reads back with its identity, its grants and its revocation. -/
theorem toDomain_durableValues (dialect : Dialect) (device : Device) :
    ∃ read, toDomain dialect device.id (durableValues device) = .ok read ∧
      read.id = device.id ∧ read.name = device.name ∧
      read.grantedCapabilities = device.grantedCapabilities ∧
      (read.status = .revoked ↔ device.status = .revoked) ∧
      read.advertisedCapabilities = ∅ := by
  obtain ⟨read, hread, hid, hname, hgranted, -, hstatus, hadvertised, -⟩ :=
    exists_toDomain dialect device
  refine ⟨read, hread, hid, hname, hgranted, ?_, hadvertised⟩
  rw [hstatus, device.revoked_iff]
  cases device.revokedAt <;> simp [readStatus]

variable {Digest : Type}

namespace Tables

def get (dialect : Dialect) (tables : Tables Digest) (deviceId : UUID) :
    Except Raised (Option Device) :=
  match tables.devices.lookup deviceId with
  | none => .ok none
  | some row =>
      match toDomain dialect deviceId row with
      | .ok device => .ok (some device)
      | .error error => .error error

/-- `registry.list_all`. The rows come in the order of the column and of the identifier. -/
def listAll (dialect : Dialect) (tables : Tables Digest) : Except Raised (List Device) :=
  let rows := sortBy (fun e => toLex ((dialect.readBack e.2.pairedAt).wall, e.1.int))
    tables.devices.entries
  rows.mapM fun e => toDomain dialect e.1 e.2

/-- `registry.add`: an `IntegrityError` of the insert becomes a `ValueError`. -/
def add (tables : Tables Digest) (device : Device) : Except Raised (Tables Digest) :=
  if (tables.devices.lookup device.id).isSome then
    .error (.valueError ("Device '" ++ device.id.text ++ "' is already registered."))
  else .ok { tables with devices := tables.devices.insert device.id (durableValues device) }

def save (tables : Tables Digest) (device : Device) : Except Raised (Tables Digest) :=
  match tables.devices.lookup device.id with
  | none => .error (.device (.deviceNotFound device.id))
  | some _ =>
      .ok { tables with devices := tables.devices.insert device.id (durableValues device) }

def revoke (tables : Tables Digest) (deviceId : UUID) : Tables Digest :=
  { tables with credentials := Dict.filter (fun _ c => c.deviceId ≠ deviceId) tables.credentials }

def authenticate [DecidableEq Digest] (codec : DeviceCredentialCodec Digest)
    (tables : Tables Digest) (token : String) : Option UUID :=
  match codec.parseTokenId token with
  | none => none
  | some credentialId =>
      match tables.credentials.lookup credentialId with
      | none => none
      | some record =>
          if codec.matchesDigest token record.tokenDigest then some record.deviceId else none

/-- The insert of a device alone would violate the primary key. -/
def holdsDevice (tables : Tables Digest) (deviceId : UUID) : Bool :=
  (tables.devices.lookup deviceId).isSome

/-- `identity.issue`. The upsert replaces the row of the device; the primary key must be
free of other devices' rows, and the foreign key asks for the device row. -/
def issue (tables : Tables Digest) (deviceId : UUID) (issued : IssuedDeviceCredential Digest)
    (clock : Datetime) : Except Raised (Tables Digest) :=
  match clock.toAware? with
  | none => .error (.valueError "credential clock must return a timezone-aware value")
  | some createdAt =>
      let others := (tables.revoke deviceId).credentials
      if (others.lookup issued.id).isSome ∨ ¬ tables.holdsDevice deviceId then
        .error (.foreign "IntegrityError")
      else
        .ok
          { tables with
            credentials := others.insert issued.id
              { deviceId, tokenDigest := issued.digest, createdAt } }

/-- The commit of a new device with its credential: the primary keys and the unique
`device_id` must be free. The foreign key is satisfied by the device row. -/
def register (tables : Tables Digest) (device : Device) (issued : IssuedDeviceCredential Digest)
    (createdAt : AwareDatetime) : Option (Tables Digest) :=
  if tables.holdsDevice device.id ∨ (tables.credentials.lookup issued.id).isSome ∨
      tables.credentials.entries.any (fun e => e.2.deviceId = device.id) then none
  else
    some
      { devices := tables.devices.insert device.id (durableValues device)
        credentials := tables.credentials.insert issued.id
          { deviceId := device.id, tokenDigest := issued.digest, createdAt } }

theorem revoke_lookup (tables : Tables Digest) (deviceId c : UUID) :
    (tables.revoke deviceId).credentials.lookup c =
      (tables.credentials.lookup c).filter (fun r => r.deviceId ≠ deviceId) :=
  Dict.lookup_filter_eq _ _ _

theorem issue_eq_ok {tables tables' : Tables Digest} {deviceId : UUID}
    {issued : IssuedDeviceCredential Digest} {clock : Datetime}
    (h : tables.issue deviceId issued clock = .ok tables') :
    tables'.devices = tables.devices ∧
      (∀ r, tables.credentials.lookup issued.id = some r → r.deviceId = deviceId) ∧
      ∃ createdAt, ∀ c, tables'.credentials.lookup c =
        if c = issued.id then some ⟨deviceId, issued.digest, createdAt⟩
        else (tables.credentials.lookup c).filter (fun r => r.deviceId ≠ deviceId) := by
  unfold issue at h
  split at h
  · cases h
  rename_i createdAt _
  dsimp only at h
  split at h
  · cases h
  rename_i hfree
  rw [not_or, Option.not_isSome_iff_eq_none, revoke_lookup] at hfree
  cases h
  refine ⟨rfl, ?_, createdAt, ?_⟩
  · intro r hr
    by_contra hne
    rw [hr] at hfree
    simp [hne] at hfree
  · intro c
    rw [Dict.lookup_insert_eq, revoke_lookup]

theorem authenticate_eq_some [DecidableEq Digest] (codec : DeviceCredentialCodec Digest)
    {tables : Tables Digest} {token : String} {d : UUID} :
    tables.authenticate codec token = some d ↔
      ∃ c, codec.parseTokenId token = some c ∧
        (tables.credentials.lookup c).map (fun r => (r.deviceId, r.tokenDigest)) =
          some (d, codec.digest token) := by
  unfold authenticate
  cases codec.parseTokenId token with
  | none => simp
  | some c =>
      simp only [Option.some.injEq, exists_eq_left']
      cases tables.credentials.lookup c with
      | none => simp
      | some r => simp [DeviceCredentialCodec.matchesDigest, and_comm]

theorem register_eq_some {tables tables' : Tables Digest} {device : Device}
    {issued : IssuedDeviceCredential Digest} {createdAt : AwareDatetime}
    (h : tables.register device issued createdAt = some tables') :
    tables.devices.lookup device.id = none ∧ tables.credentials.lookup issued.id = none ∧
      (∀ c r, tables.credentials.lookup c = some r → r.deviceId ≠ device.id) ∧
      tables'.devices = tables.devices.insert device.id (durableValues device) ∧
      tables'.credentials = tables.credentials.insert issued.id
        { deviceId := device.id, tokenDigest := issued.digest, createdAt } := by
  unfold register at h
  split at h
  · cases h
  · rename_i hfree
    simp only [holdsDevice, not_or, Bool.not_eq_true, Option.isSome_eq_false_iff,
      Option.isNone_iff_eq_none] at hfree
    obtain ⟨hdevice, hcredential, hunique⟩ := hfree
    cases h
    refine ⟨hdevice, hcredential, ?_, rfl, rfl⟩
    intro c r hr hd
    have hmem := Dict.lookup_eq_some_iff.mp hr
    have hfalse := List.any_eq_false.mp hunique _ hmem
    simp [hd] at hfalse

end Tables

end JarvisCore.Security.DeviceTables
