import JarvisCore.Pairing.Contract
import JarvisCore.Security.DeviceTables
import JarvisCore.Security.InMemoryStores

namespace JarvisCore.Pairing.Backends

open JarvisCore.Domain.Values
open JarvisCore.Domain.Errors
open JarvisCore.Domain.Models
open JarvisCore.Foundation.AsyncIO
open JarvisCore.Foundation.Dictionary
open JarvisCore.Foundation.Text
open JarvisCore.Foundation.TransitionSystem
open JarvisCore.Pairing.Challenges
open JarvisCore.Pairing.Contract
open JarvisCore.Security.Credentials
open JarvisCore.Security.DeviceTables
open JarvisCore.Security.InMemoryStores

variable {Digest : Type}

/-- How an await of a store or of its database ends: normally, or with an exception, before
or after the awaited operation has taken effect. -/
inductive AwaitOutcome
  | completed
  | interrupted (error : Raised) (applied : Bool)

namespace InMemory

/-- What the factories and the second reading of the clock yield. -/
structure Setup where
  deviceId : UUID
  pairedAt : Datetime
  credentialId : UUID
  tokenSecret : String

/-- The claim is suspended in `devices.add`. -/
structure Adding where
  device : Device
  token : String

/-- `Device(id, name, granted_capabilities, paired_at)`. -/
def newDevice (id : UUID) (name : String) (granted : Finset DeviceCapability)
    (pairedAt : Datetime) : Except Raised Device :=
  if 0 < (strip name).length ∧ (strip name).length ≤ 120 then
    match requireUtc pairedAt "paired_at" with
    | .error error => .error error
    | .ok pairedAt => Device.make id name granted pairedAt .offline ∅ none none
  else .error (.valueError "device name must contain 1 to 120 characters")

def readClock (clock : Datetime) : Except Raised AwareDatetime :=
  match clock.toAware? with
  | some now => .ok now
  | none => .error (.typeError "can't compare offset-naive and offset-aware datetimes")

def start (codec : DeviceCredentialCodec Digest) (setup : Setup) (name : String)
    (granted : Finset DeviceCapability) (_now : AwareDatetime) (stores : Stores Digest) :
    Stores Digest × Except Raised (Device × Adding) :=
  match newDevice setup.deviceId name granted setup.pairedAt with
  | .error error => (stores, .error error)
  | .ok device =>
      match codec.issue setup.credentialId setup.tokenSecret with
      | .error error => (stores, .error error)
      | .ok issued =>
          match stores.issue device.id issued with
          | .error error => (stores, .error error)
          | .ok stores => (stores, .ok (device, ⟨device, issued.token⟩))

/-- The handler of `except BaseException`. -/
def rollBack (stores : Stores Digest) (deviceId : UUID) : Stores Digest :=
  (stores.revoke deviceId).remove deviceId

def resume (stage : Adding) (outcome : AwaitOutcome) (stores : Stores Digest) :
    Stores Digest × Resumption Adding :=
  match outcome, stores.add stage.device with
  | .completed, .ok stored => (stored, .returned stage.token)
  | .completed, .error error => (rollBack stores stage.device.id, .raised error)
  | .interrupted error true, .ok stored => (rollBack stored stage.device.id, .raised error)
  | .interrupted error _, _ => (rollBack stores stage.device.id, .raised error)

theorem newDevice_granted {id : UUID} {name : String} {granted : Finset DeviceCapability}
    {pairedAt : Datetime} {device : Device} (h : newDevice id name granted pairedAt = .ok device) :
    device.id = id ∧ device.grantedCapabilities = granted := by
  unfold newDevice at h
  split at h
  · split at h
    · cases h
    · obtain ⟨hid, -, hgranted, -⟩ := Device.make_eq_ok h
      exact ⟨hid, hgranted⟩
  · cases h

end InMemory

/-- `InMemoryDevicePairing`. -/
def inMemory (codec : DeviceCredentialCodec Digest) : Backend where
  Store := Stores Digest
  Setup := InMemory.Setup
  Stage := InMemory.Adding
  Input := AwaitOutcome
  readClock := InMemory.readClock
  start := InMemory.start codec
  resume stage outcome stores := some (InMemory.resume stage outcome stores)
  start_granted setup name granted now stores stores' device stage h := by
    unfold InMemory.start at h
    split at h
    · cases h
    rename_i hdevice
    split at h
    · cases h
    split at h
    · cases h
    · cases h
      exact (InMemory.newDevice_granted hdevice).2

namespace Sql

structure Setup where
  deviceId : UUID
  credentialId : UUID
  tokenSecret : String

/-- The rows that the transaction is to write. -/
structure Rows (Digest : Type) where
  device : Device
  issued : IssuedDeviceCredential Digest
  createdAt : AwareDatetime

/-- The await at which a claim is suspended. -/
inductive Stage (Digest : Type)
  | flushing (rows : Rows Digest)
  | committing (rows : Rows Digest)
  /-- The transaction is committed; the session is being closed. -/
  | closing (rows : Rows Digest)
  /-- The transaction is rolled back and the session is being closed. -/
  | aborting (error : Raised)

def integrityError : Raised := .foreign "IntegrityError"

def readClock (clock : Datetime) : Except Raised AwareDatetime :=
  match clock.toAware? with
  | some now => .ok now
  | none => .error (.valueError "pairing clock must return a timezone-aware value")

def start (codec : DeviceCredentialCodec Digest) (setup : Setup) (name : String)
    (granted : Finset DeviceCapability) (now : AwareDatetime) (tables : Tables Digest) :
    Tables Digest × Except Raised (Device × Stage Digest) :=
  match Device.make setup.deviceId name granted now .offline ∅ none none with
  | .error error => (tables, .error error)
  | .ok device =>
      match codec.issue setup.credentialId setup.tokenSecret with
      | .error error => (tables, .error error)
      | .ok issued => (tables, .ok (device, .flushing ⟨device, issued, now⟩))

/-- The commit takes effect as a whole, or a constraint fails and nothing does. -/
def commit (rows : Rows Digest) (tables : Tables Digest) : Option (Tables Digest) :=
  tables.register rows.device rows.issued rows.createdAt

def resume (stage : Stage Digest) (outcome : AwaitOutcome) (tables : Tables Digest) :
    Tables Digest × Resumption (Stage Digest) :=
  match stage, outcome with
  | .flushing rows, .completed =>
      if tables.holdsDevice rows.device.id then (tables, .suspended (.aborting integrityError))
      else (tables, .suspended (.committing rows))
  | .flushing _, .interrupted error _ => (tables, .suspended (.aborting error))
  | .committing rows, .completed =>
      match commit rows tables with
      | some committed => (committed, .suspended (.closing rows))
      | none => (tables, .suspended (.aborting integrityError))
  | .committing rows, .interrupted error applied =>
      match applied, commit rows tables with
      | true, some committed => (committed, .suspended (.aborting error))
      | _, _ => (tables, .suspended (.aborting error))
  | .closing rows, .completed => (tables, .returned rows.issued.token)
  | .closing _, .interrupted error _ => (tables, .raised error)
  | .aborting error, .completed => (tables, .raised error)
  | .aborting _, .interrupted error _ => (tables, .raised error)

end Sql

/-- `SqlAlchemyDevicePairing`. -/
def sql (codec : DeviceCredentialCodec Digest) : Backend where
  Store := Tables Digest
  Setup := Sql.Setup
  Stage := Sql.Stage Digest
  Input := AwaitOutcome
  readClock := Sql.readClock
  start := Sql.start codec
  resume stage outcome tables := some (Sql.resume stage outcome tables)
  start_granted setup name granted now tables tables' device stage h := by
    unfold Sql.start at h
    split at h
    · cases h
    rename_i hdevice
    split at h
    · cases h
    · cases h
      exact (Device.make_eq_ok hdevice).2.2.1

/-- Both implementations keep their challenges one-time, bounded and time-limited. -/
theorem pairing_challenges_one_time [DecidableEq Digest] (config : Config Digest)
    (codec : DeviceCredentialCodec Digest) (stores : Stores Digest) (tables : Tables Digest) :
    OneTime (B := inMemory codec) config stores ∧ OneTime (B := sql codec) config tables :=
  ⟨oneTime (B := inMemory codec) config stores, oneTime (B := sql codec) config tables⟩

end JarvisCore.Pairing.Backends
