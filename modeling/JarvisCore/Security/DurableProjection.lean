import JarvisCore.Security.DeviceTables

/-!
What a device that went through the table `devices` still has. PostgreSQL keeps
instants; SQLite keeps the wall-clock fields, which `_as_utc` takes for UTC. Here
`_as_utc` raises where the instant of a time lies outside the years of a `datetime`.
-/

namespace JarvisCore.Security.DurableProjection

open JarvisCore.Domain.Values
open JarvisCore.Domain.Errors
open JarvisCore.Domain.Models
open JarvisCore.Foundation.Dictionary
open JarvisCore.Foundation.Text
open JarvisCore.Security.DeviceTables hiding asUtc toDomain

/-- The fields of a `datetime` in microseconds from `datetime.min`, which end with the
day 9999-12-31. -/
def inRange (wall : Int) : Bool := 0 ≤ wall && wall < 3652059 * 86400000000

/-- `_as_utc`. `astimezone` overflows when the instant has no fields in UTC. -/
def asUtc (value : Datetime) : Except Raised AwareDatetime :=
  match value.utcoffset with
  | none => .ok ⟨value.wall, 0⟩
  | some offset =>
      if inRange (value.wall - offset) then .ok ⟨value.wall - offset, 0⟩
      else .error (.foreign "OverflowError")

def toDomain (dialect : Dialect) (id : UUID) (row : DeviceRow) : Except Raised Device :=
  match row.revokedAt.mapM fun value => asUtc (dialect.readBack value) with
  | .error error => .error error
  | .ok revokedAt =>
      match row.grantedCapabilities.mapM capabilityOfValue with
      | .error error => .error error
      | .ok granted =>
          match asUtc (dialect.readBack row.pairedAt) with
          | .error error => .error error
          | .ok pairedAt =>
              Device.make id row.name granted.toFinset pairedAt (readStatus row.revokedAt) ∅ none
                revokedAt

def get {Digest : Type} (dialect : Dialect) (tables : Tables Digest) (deviceId : UUID) :
    Except Raised (Option Device) :=
  match tables.devices.lookup deviceId with
  | none => .ok none
  | some row => (toDomain dialect deviceId row).map some

/-- The durable part of a device: times count as instants, and the runtime state is
gone. -/
structure Projects (device read : Device) : Prop where
  id : read.id = device.id
  name : read.name = device.name
  granted : read.grantedCapabilities = device.grantedCapabilities
  pairedAt : read.pairedAt.instant = device.pairedAt.instant
  revokedAt : read.revokedAt.map AwareDatetime.instant =
    device.revokedAt.map AwareDatetime.instant
  status : read.status = if device.status = .revoked then .revoked else .offline
  advertised : read.advertisedCapabilities = ∅
  lastSeen : read.lastSeenAt = none

/-- The instant comes back: PostgreSQL keeps it, and it has fields in UTC; or SQLite has
dropped the offset zero. -/
def Keeps (dialect : Dialect) (value : AwareDatetime) : Prop :=
  match dialect with
  | .postgresql => inRange value.instant = true
  | .sqlite => value.utcoffset = 0

instance (dialect : Dialect) (value : AwareDatetime) : Decidable (Keeps dialect value) :=
  match dialect with
  | .postgresql => inferInstanceAs (Decidable (inRange value.instant = true))
  | .sqlite => inferInstanceAs (Decidable (value.utcoffset = 0))

def KeepsTimes (dialect : Dialect) (device : Device) : Prop :=
  Keeps dialect device.pairedAt ∧ ∀ revokedAt ∈ device.revokedAt, Keeps dialect revokedAt

/-- `to_domain(record_from_domain(device))` through the database. -/
def RoundTrips (dialect : Dialect) (device : Device) : Prop :=
  ∃ read, toDomain dialect device.id (durableValues device) = .ok read ∧ Projects device read

theorem asUtc_eq_ok {value : Datetime} {read : AwareDatetime} (h : asUtc value = .ok read) :
    DeviceTables.asUtc value = read := by
  unfold asUtc at h
  unfold DeviceTables.asUtc
  cases hoffset : value.utcoffset with
  | none =>
      rw [hoffset] at h
      exact Except.ok.inj h
  | some offset =>
      rw [hoffset] at h
      dsimp only at h
      split at h
      · exact Except.ok.inj h
      · cases h

/-- A row that is read here is read as the same device in `DeviceTables`, whose `_as_utc` never
raises. -/
theorem toDomain_of_ok {dialect : Dialect} {id : UUID} {row : DeviceRow} {read : Device}
    (h : toDomain dialect id row = .ok read) : DeviceTables.toDomain dialect id row = .ok read := by
  unfold toDomain at h
  split at h
  · cases h
  rename_i revokedAt hrevokedAt
  split at h
  · cases h
  rename_i granted hgranted
  split at h
  · cases h
  rename_i pairedAt hpairedAt
  have hrevoked : row.revokedAt.map (fun value => DeviceTables.asUtc (dialect.readBack value)) =
      revokedAt := by
    cases hstored : row.revokedAt with
    | none =>
        rw [hstored] at hrevokedAt
        exact Except.ok.inj hrevokedAt
    | some value =>
        rw [hstored, Option.mapM_some] at hrevokedAt
        cases hread : asUtc (dialect.readBack value) with
        | error error =>
            rw [hread] at hrevokedAt
            cases hrevokedAt
        | ok read =>
            rw [hread] at hrevokedAt
            cases hrevokedAt
            rw [Option.map_some, asUtc_eq_ok hread]
  unfold DeviceTables.toDomain
  rw [hgranted, asUtc_eq_ok hpairedAt, hrevoked]
  exact h

theorem asUtc_readBack (dialect : Dialect) (value : AwareDatetime) :
    (∃ read, asUtc (dialect.readBack value) = .ok read ∧ read.instant = value.instant) ↔
      Keeps dialect value := by
  cases dialect with
  | postgresql =>
      simp only [Dialect.readBack, asUtc, Keeps, Int.sub_zero]
      split
      · rename_i hrange
        exact iff_of_true ⟨_, rfl, by simp [AwareDatetime.instant]⟩ hrange
      · rename_i hrange
        exact iff_of_false (by simp) hrange
  | sqlite =>
      simp only [Dialect.readBack, asUtc, Keeps, Except.ok.injEq, exists_eq_left',
        AwareDatetime.instant]
      omega

theorem mapM_asUtc_readBack (dialect : Dialect) (value : Option AwareDatetime) :
    (∃ read, (value.mapM fun value => asUtc (dialect.readBack value)) = .ok read ∧
      read.map AwareDatetime.instant = value.map AwareDatetime.instant) ↔
        ∀ time ∈ value, Keeps dialect time := by
  cases value with
  | none => exact iff_of_true ⟨none, rfl, rfl⟩ fun _ h => nomatch h
  | some time =>
      simp only [Option.mem_def, Option.some.injEq, forall_eq', Option.mapM_some,
        ← asUtc_readBack dialect time]
      cases asUtc (dialect.readBack time) with
      | error error => exact iff_of_false (fun ⟨_, h, _⟩ => nomatch h) fun ⟨_, h, _⟩ => nomatch h
      | ok read =>
          constructor
          · rintro ⟨_, ⟨⟩, hinstant⟩
            exact ⟨read, rfl, Option.some.inj hinstant⟩
          · rintro ⟨_, ⟨⟩, hinstant⟩
            exact ⟨some read, rfl, congrArg some hinstant⟩

theorem toDomain_eq_ok {dialect : Dialect} {device read : Device}
    (h : toDomain dialect device.id (durableValues device) = .ok read) :
    read.id = device.id ∧ read.name = device.name ∧
      read.grantedCapabilities = device.grantedCapabilities ∧
      asUtc (dialect.readBack device.pairedAt) = .ok read.pairedAt ∧
      read.status = readStatus device.revokedAt ∧ read.advertisedCapabilities = ∅ ∧
      read.lastSeenAt = none ∧
      (device.revokedAt.mapM fun value => asUtc (dialect.readBack value)) = .ok read.revokedAt := by
  simp only [toDomain, durableValues, mapM_sortedValues, toFinset_sorted] at h
  split at h
  · cases h
  rename_i revokedAt hrevokedAt
  split at h
  · cases h
  rename_i pairedAt hpairedAt
  obtain ⟨hid, hname, hgranted, hpaired, hstatus, hadvertised, hseen, hrevoked⟩ :=
    Device.make_eq_ok h
  exact ⟨hid, hname.trans device.name_normalized, hgranted, hpaired ▸ hpairedAt, hstatus,
    hadvertised, hseen, hrevoked ▸ hrevokedAt⟩

theorem exists_read {dialect : Dialect} {device : Device} {pairedAt : AwareDatetime}
    {revokedAt : Option AwareDatetime}
    (hpairedAt : asUtc (dialect.readBack device.pairedAt) = .ok pairedAt)
    (hrevokedAt : (device.revokedAt.mapM fun value => asUtc (dialect.readBack value)) =
      .ok revokedAt) :
    ∃ read, toDomain dialect device.id (durableValues device) = .ok read := by
  have hname : 0 < (strip device.name).length ∧ (strip device.name).length ≤ 120 := by
    rw [device.name_normalized]
    exact device.name_length
  have hstatus : readStatus device.revokedAt = .revoked ↔ revokedAt.isSome := by
    cases hstored : device.revokedAt with
    | none =>
        rw [hstored] at hrevokedAt
        cases hrevokedAt
        simp [readStatus]
    | some value =>
        rw [hstored, Option.mapM_some] at hrevokedAt
        cases hread : asUtc (dialect.readBack value) with
        | error error =>
            rw [hread] at hrevokedAt
            cases hrevokedAt
        | ok read =>
            rw [hread] at hrevokedAt
            cases hrevokedAt
            simp [readStatus]
  simp only [toDomain, durableValues, mapM_sortedValues, toFinset_sorted, hpairedAt, hrevokedAt]
  exact Device.exists_make device.id device.grantedCapabilities ∅ pairedAt none hname hstatus

theorem readStatus_eq (device : Device) :
    readStatus device.revokedAt = if device.status = .revoked then .revoked else .offline := by
  unfold readStatus
  rw [if_congr device.revoked_iff.symm rfl rfl]

theorem roundTrips_iff (dialect : Dialect) (device : Device) :
    RoundTrips dialect device ↔ KeepsTimes dialect device := by
  unfold KeepsTimes
  rw [← asUtc_readBack, ← mapM_asUtc_readBack]
  constructor
  · rintro ⟨read, hread, h⟩
    obtain ⟨-, -, -, hpaired, -, -, -, hrevoked⟩ := toDomain_eq_ok hread
    exact ⟨⟨read.pairedAt, hpaired, h.pairedAt⟩, ⟨read.revokedAt, hrevoked, h.revokedAt⟩⟩
  · rintro ⟨⟨pairedAt, hpairedAt, hpaired⟩, ⟨revokedAt, hrevokedAt, hrevoked⟩⟩
    obtain ⟨read, hread⟩ := exists_read hpairedAt hrevokedAt
    obtain ⟨hid, hname, hgranted, hreadPaired, hstatus, hadvertised, hseen, hreadRevoked⟩ :=
      toDomain_eq_ok hread
    obtain rfl : pairedAt = read.pairedAt := Except.ok.inj (hpairedAt.symm.trans hreadPaired)
    obtain rfl : revokedAt = read.revokedAt := Except.ok.inj (hrevokedAt.symm.trans hreadRevoked)
    exact ⟨read, hread, hid, hname, hgranted, hpaired, hrevoked,
      hstatus.trans (readStatus_eq device), hadvertised, hseen⟩

variable {Digest : Type}

/-- `save` after `add`, whatever else the tables hold. -/
def SavedReadsBack (Digest : Type) (dialect : Dialect) (device modified : Device) : Prop :=
  ∀ tables added : Tables Digest, tables.add device = .ok added →
    ∃ saved read, added.save modified = .ok saved ∧
      get dialect saved modified.id = .ok (some read) ∧ Projects modified read

theorem get_of_lookup {tables : Tables Digest} {dialect : Dialect} {device : Device}
    (h : tables.devices.lookup device.id = some (durableValues device)) (read : Device) :
    get dialect tables device.id = .ok (some read) ↔
      toDomain dialect device.id (durableValues device) = .ok read := by
  unfold get
  rw [h]
  dsimp only
  cases toDomain dialect device.id (durableValues device) with
  | error error => simp [Except.map]
  | ok device => simp [Except.map]

theorem save_added {tables added : Tables Digest} {device modified : Device}
    (hadd : tables.add device = .ok added) (hid : modified.id = device.id) :
    ∃ saved, added.save modified = .ok saved ∧
      saved.devices.lookup modified.id = some (durableValues modified) := by
  have hstored : added.devices.lookup modified.id = some (durableValues device) := by
    unfold Tables.add at hadd
    split at hadd
    · cases hadd
    · cases hadd
      rw [hid]
      exact AList.lookup_insert _
  unfold Tables.save
  rw [hstored]
  exact ⟨_, rfl, AList.lookup_insert _⟩

theorem savedReadsBack_iff (dialect : Dialect) {device modified : Device}
    (hid : modified.id = device.id) :
    SavedReadsBack Digest dialect device modified ↔ RoundTrips dialect modified := by
  constructor
  · intro h
    have hadd : Tables.empty.add device = .ok
        (⟨(∅ : Dict UUID DeviceRow).insert device.id (durableValues device), ∅⟩ : Tables Digest) :=
      rfl
    obtain ⟨saved, read, hsave, hget, hprojects⟩ := h _ _ hadd
    obtain ⟨saved', hsave', hlookup⟩ := save_added hadd hid
    obtain rfl : saved = saved' := by
      rw [hsave] at hsave'
      cases hsave'
      rfl
    exact ⟨read, (get_of_lookup hlookup read).mp hget, hprojects⟩
  · rintro ⟨read, hread, hprojects⟩ tables added hadd
    obtain ⟨saved, hsave, hlookup⟩ := save_added hadd hid
    exact ⟨saved, read, hsave, (get_of_lookup hlookup read).mpr hread, hprojects⟩

/-- A device and a later version of it go through the database exactly when the column
gives the instants of both back. -/
theorem durable_round_trip_iff (dialect : Dialect) (device modified : Device)
    (hid : modified.id = device.id) :
    RoundTrips dialect device ∧ SavedReadsBack Digest dialect device modified ↔
      KeepsTimes dialect device ∧ KeepsTimes dialect modified := by
  rw [savedReadsBack_iff dialect hid, roundTrips_iff, roundTrips_iff]

section Samples

/-- Midnight, 2026-01-01. -/
def sampleMidnight : Int := 63902822400000000

/-- Two hours, in microseconds. -/
def sampleOffset : Int := 7200000000

/-- Paired two hours after midnight, on a clock two hours ahead of UTC. -/
def sampleDevice : Device where
  id := ⟨7⟩
  name := "Desk"
  grantedCapabilities := {.files}
  pairedAt := ⟨sampleMidnight + sampleOffset, sampleOffset⟩
  status := .online
  advertisedCapabilities := {.files}
  lastSeenAt := some ⟨sampleMidnight, 0⟩
  revokedAt := none
  name_normalized := by decide
  name_length := by decide
  revoked_iff := by decide

def sampleRevoked : Device :=
  { sampleDevice with
    status := .revoked
    revokedAt := some ⟨sampleMidnight, 0⟩
    revoked_iff := by decide }

theorem durable_round_trip_revoked :
    RoundTrips .postgresql sampleDevice ∧
      SavedReadsBack String .postgresql sampleDevice sampleRevoked := by
  refine (durable_round_trip_iff .postgresql sampleDevice sampleRevoked rfl).mpr ?_
  refine ⟨⟨by decide, fun _ hnone => nomatch hnone⟩, ⟨by decide, ?_⟩⟩
  rintro _ ⟨⟩
  decide

/-- SQLite gives the device back as paired two hours later than it was. -/
theorem offset_dropped :
    (∃ read, toDomain .sqlite sampleDevice.id (durableValues sampleDevice) = .ok read ∧
      read.pairedAt.instant = sampleMidnight + sampleOffset) ∧
    sampleDevice.pairedAt.instant = sampleMidnight ∧ ¬ RoundTrips .sqlite sampleDevice := by
  obtain ⟨read, hread⟩ := @exists_read .sqlite sampleDevice _ none rfl rfl
  obtain ⟨-, -, -, hpaired, -⟩ := toDomain_eq_ok hread
  refine ⟨⟨read, hread, ?_⟩, by decide, ?_⟩
  · rw [← Except.ok.inj hpaired]
    decide
  · intro h
    exact absurd ((roundTrips_iff .sqlite sampleDevice).mp h).1 (by decide)

/-- On that clock the first two hours of the year 1 have no fields in UTC. -/
example : ¬ Keeps .postgresql ⟨0, sampleOffset⟩ := by decide

end Samples

end JarvisCore.Security.DurableProjection
