import JarvisCore.Security.DeviceTables

namespace JarvisCore.Security.DeviceRecords

open JarvisCore.Domain.Values
open JarvisCore.Domain.Errors
open JarvisCore.Domain.Models
open JarvisCore.Foundation.Dictionary
open JarvisCore.Foundation.Grouping
open JarvisCore.Security.Credentials
open JarvisCore.Security.DeviceTables

variable {Digest : Type} {tables tables' : Tables Digest}

/-- Every row has been written for a device. -/
def Durable (tables : Tables Digest) : Prop :=
  ∀ d row, tables.devices.lookup d = some row →
    ∃ device : Device, device.id = d ∧ row = durableValues device

/-- The grants that the record of a device has had since it was written. -/
def HasGrants (tables : Tables Digest) (d : UUID) (granted : Finset DeviceCapability) : Prop :=
  ∃ device : Device, device.id = d ∧ device.grantedCapabilities = granted ∧
    tables.devices.lookup d = some (durableValues device)

def Revoked (tables : Tables Digest) (d : UUID) : Prop :=
  ∃ row, tables.devices.lookup d = some row ∧ row.revokedAt.isSome

/-- The device is registered and has no credential any more. -/
structure Stripped (tables : Tables Digest) (d : UUID) : Prop where
  registered : (tables.devices.lookup d).isSome
  none_left : ∀ c r, tables.credentials.lookup c = some r → r.deviceId ≠ d

/-- What no operation of the service takes back. -/
structure Grows (tables tables' : Tables Digest) : Prop where
  grants : ∀ d granted, HasGrants tables d granted → HasGrants tables' d granted
  revoked : ∀ d, Revoked tables d → Revoked tables' d
  stripped : ∀ d, Stripped tables d → Stripped tables' d

theorem Grows.refl (tables : Tables Digest) : Grows tables tables :=
  ⟨fun _ _ h => h, fun _ h => h, fun _ h => h⟩

theorem HasGrants.unique {d : UUID} {granted granted' : Finset DeviceCapability}
    (h : HasGrants tables d granted) (h' : HasGrants tables d granted') : granted' = granted := by
  obtain ⟨device, rfl, rfl, hrow⟩ := h
  obtain ⟨device', hid, rfl, hrow'⟩ := h'
  have hsame : durableValues device' = durableValues device :=
    Option.some.inj (hrow'.symm.trans hrow)
  obtain ⟨read, hread, -, -, hgranted, -⟩ := toDomain_durableValues .postgresql device
  obtain ⟨read', hread', -, -, hgranted', -⟩ := toDomain_durableValues .postgresql device'
  rw [hsame, hid, hread] at hread'
  obtain rfl : read = read' := Except.ok.inj hread'
  rw [← hgranted', hgranted]

theorem get_eq_some {dialect : Dialect} {d : UUID} {device : Device} (hdurable : Durable tables)
    (h : tables.get dialect d = .ok (some device)) :
    device.id = d ∧ HasGrants tables d device.grantedCapabilities ∧
      (device.status = .revoked ↔ Revoked tables d) := by
  unfold Tables.get at h
  split at h
  · cases h
  rename_i row hrow
  obtain ⟨written, rfl, rfl⟩ := hdurable d row hrow
  obtain ⟨read, hread, hid, -, hgranted, hstatus, -⟩ := toDomain_durableValues dialect written
  rw [hread] at h
  obtain rfl := Option.some.inj (Except.ok.inj h)
  refine ⟨hid, ⟨written, rfl, hgranted.symm, hrow⟩, ?_⟩
  rw [hstatus, written.revoked_iff]
  constructor
  · intro hrevoked
    exact ⟨_, hrow, hrevoked⟩
  · rintro ⟨row, hrow', hrevoked⟩
    rw [hrow] at hrow'
    obtain rfl := Option.some.inj hrow'
    exact hrevoked

theorem exists_get (dialect : Dialect) {d : UUID} (hdurable : Durable tables)
    (h : (tables.devices.lookup d).isSome) :
    ∃ device, tables.get dialect d = .ok (some device) := by
  obtain ⟨row, hrow⟩ := Option.isSome_iff_exists.mp h
  obtain ⟨written, rfl, rfl⟩ := hdurable d row hrow
  obtain ⟨read, hread, -⟩ := toDomain_durableValues dialect written
  refine ⟨read, ?_⟩
  simp only [Tables.get, hrow, hread]

theorem isSome_of_get {dialect : Dialect} {d : UUID} {device : Device}
    (h : tables.get dialect d = .ok (some device)) : (tables.devices.lookup d).isSome := by
  unfold Tables.get at h
  split at h
  · cases h
  · rename_i row hrow
    rw [hrow]
    rfl

theorem get_of_revoked (dialect : Dialect) {d : UUID} (hdurable : Durable tables)
    (h : Revoked tables d) :
    ∃ device, tables.get dialect d = .ok (some device) ∧ device.status = .revoked := by
  obtain ⟨row, hrow, hrevoked⟩ := h
  obtain ⟨written, rfl, rfl⟩ := hdurable d row hrow
  obtain ⟨read, hread, -, -, -, hstatus, -⟩ := toDomain_durableValues dialect written
  refine ⟨read, ?_, hstatus.mpr (written.revoked_iff.mpr hrevoked)⟩
  simp only [Tables.get, hrow, hread]

section Listing

variable {dialect : Dialect} {devices : List Device}

theorem toDomain_id {d : UUID} {row : DeviceRow} {device : Device}
    (h : toDomain dialect d row = .ok device) : device.id = d := by
  unfold toDomain at h
  split at h
  · cases h
  · exact (Device.make_eq_ok h).1

theorem exists_listAll (dialect : Dialect) (hdurable : Durable tables) :
    ∃ devices, tables.listAll dialect = .ok devices := by
  refine exists_mapM fun e he => ?_
  have hrow := Dict.lookup_eq_some_iff.mpr ((sortBy_perm _ _).mem_iff.mp he)
  obtain ⟨written, hid, hwritten⟩ := hdurable e.1 e.2 hrow
  obtain ⟨read, hread, -⟩ := toDomain_durableValues dialect written
  rw [← hid, hwritten]
  exact ⟨read, hread⟩

theorem mem_listAll (h : tables.listAll dialect = .ok devices) {device : Device} :
    device ∈ devices ↔ tables.get dialect device.id = .ok (some device) := by
  constructor
  · intro hmem
    obtain ⟨⟨d, row⟩, he, hdomain⟩ := mem_of_mapM h hmem
    have hrow := Dict.lookup_eq_some_iff.mpr ((sortBy_perm _ _).mem_iff.mp he)
    obtain rfl : device.id = d := toDomain_id hdomain
    simp only [Tables.get, hrow, hdomain]
  · intro hget
    unfold Tables.get at hget
    split at hget
    · cases hget
    · rename_i row hrow
      have hentry := (sortBy_perm (fun e : Sigma fun _ : UUID => DeviceRow =>
        toLex ((dialect.readBack e.2.pairedAt).wall, e.1.int)) _).mem_iff.mpr
        (Dict.lookup_eq_some_iff.mp hrow)
      obtain ⟨device', hmem, hdomain⟩ := exists_of_mapM h hentry
      dsimp only at hdomain
      rw [hdomain] at hget
      cases hget
      exact hmem

theorem nodup_listAll (h : tables.listAll dialect = .ok devices) :
    (devices.map Device.id).Nodup := by
  have hkeys : devices.map Device.id = _ :=
    map_of_mapM (fun (e : Sigma fun _ : UUID => DeviceRow) _ hdomain => toDomain_id hdomain) h
  rw [hkeys]
  exact ((sortBy_perm _ _).map _).nodup_iff.mpr tables.devices.nodupKeys

end Listing

theorem authenticate_ne [DecidableEq Digest] (codec : DeviceCredentialCodec Digest) {d : UUID}
    (h : Stripped tables d) (token : String) : tables.authenticate codec token ≠ some d := by
  unfold Tables.authenticate
  split
  · simp
  split
  · simp
  rename_i c r hr
  split
  · intro hd
    exact h.none_left _ r hr (Option.some.inj hd)
  · simp

theorem Durable.empty : Durable (Tables.empty : Tables Digest) := by
  intro d row hrow
  cases hrow

section Revoke

variable (d : UUID)

theorem revoke_grows : Grows tables (tables.revoke d) := by
  refine ⟨fun _ _ h => h, fun _ h => h, ?_⟩
  intro d' h
  refine ⟨h.registered, ?_⟩
  intro c r hr
  exact h.none_left c r (Dict.lookup_filter_eq_some_iff.mp hr).1

theorem revoke_durable (h : Durable tables) : Durable (tables.revoke d) := h

theorem revoke_stripped (h : (tables.devices.lookup d).isSome) : Stripped (tables.revoke d) d := by
  refine ⟨h, ?_⟩
  intro c r hr
  exact of_decide_eq_true (Dict.lookup_filter_eq_some_iff.mp hr).2

end Revoke

section Save

variable {device : Device} (hsave : tables.save device = .ok tables')
include hsave

theorem save_eq : tables' =
    { tables with devices := tables.devices.insert device.id (durableValues device) } := by
  unfold Tables.save at hsave
  split at hsave
  · cases hsave
  · exact (Except.ok.inj hsave).symm

theorem save_lookup (d : UUID) : tables'.devices.lookup d =
    if d = device.id then some (durableValues device) else tables.devices.lookup d := by
  rw [save_eq hsave]
  exact Dict.lookup_insert_eq _ _ _ _

theorem save_durable (h : Durable tables) : Durable tables' := by
  intro d row hrow
  rw [save_lookup hsave] at hrow
  split at hrow
  · rename_i hd
    cases hrow
    exact ⟨device, hd.symm, rfl⟩
  · exact h d row hrow

theorem save_grows (hgrants : HasGrants tables device.id device.grantedCapabilities)
    (hrevoked : device.status = .revoked) :
    Grows tables tables' ∧ Revoked tables' device.id := by
  have hself : tables'.devices.lookup device.id = some (durableValues device) := by
    rw [save_lookup hsave, if_pos rfl]
  have hnow : Revoked tables' device.id := ⟨_, hself, device.revoked_iff.mp hrevoked⟩
  refine ⟨⟨?_, ?_, ?_⟩, hnow⟩
  · intro d granted h
    by_cases hd : d = device.id
    · subst hd
      obtain rfl := hgrants.unique h
      exact ⟨device, rfl, rfl, hself⟩
    · obtain ⟨known, hid, hgranted, hrow⟩ := h
      refine ⟨known, hid, hgranted, ?_⟩
      rw [save_lookup hsave, if_neg hd, hrow]
  · rintro d ⟨row, hrow, h⟩
    by_cases hd : d = device.id
    · exact hd ▸ hnow
    · refine ⟨row, ?_, h⟩
      rw [save_lookup hsave, if_neg hd, hrow]
  · rintro d ⟨hregistered, hnone⟩
    refine ⟨?_, ?_⟩
    · rw [save_lookup hsave]
      split
      · rfl
      · exact hregistered
    · rw [save_eq hsave]
      exact hnone

theorem save_revoked_iff {d : UUID} (hd : d ≠ device.id) :
    Revoked tables' d ↔ Revoked tables d := by
  simp only [Revoked, save_lookup hsave, if_neg hd]

end Save

section Register

variable {device : Device} {issued : IssuedDeviceCredential Digest} {createdAt : AwareDatetime}
  (hregister : tables.register device issued createdAt = some tables')
include hregister

theorem register_lookup (d : UUID) : tables'.devices.lookup d =
    if d = device.id then some (durableValues device) else tables.devices.lookup d := by
  obtain ⟨-, -, -, hdevices, -⟩ := Tables.register_eq_some hregister
  rw [hdevices, Dict.lookup_insert_eq]

theorem register_durable (h : Durable tables) : Durable tables' := by
  intro d row hrow
  rw [register_lookup hregister] at hrow
  split at hrow
  · rename_i hd
    cases hrow
    exact ⟨device, hd.symm, rfl⟩
  · exact h d row hrow

theorem register_new : tables.devices.lookup device.id = none :=
  (Tables.register_eq_some hregister).1

/-- A registered device is a new one, so the records of the others are as before. -/
theorem register_of_isSome {d : UUID} (h : (tables.devices.lookup d).isSome) :
    tables'.devices.lookup d = tables.devices.lookup d := by
  rw [register_lookup hregister, if_neg]
  rintro rfl
  rw [register_new hregister] at h
  cases h

theorem register_hasGrants : HasGrants tables' device.id device.grantedCapabilities := by
  refine ⟨device, rfl, rfl, ?_⟩
  rw [register_lookup hregister, if_pos rfl]

theorem register_grows : Grows tables tables' := by
  refine ⟨?_, ?_, ?_⟩
  · rintro d granted ⟨known, hid, hgranted, hrow⟩
    refine ⟨known, hid, hgranted, ?_⟩
    rw [register_of_isSome hregister (by rw [hrow]; rfl), hrow]
  · rintro d ⟨row, hrow, h⟩
    refine ⟨row, ?_, h⟩
    rw [register_of_isSome hregister (by rw [hrow]; rfl), hrow]
  · rintro d ⟨hregistered, hnone⟩
    refine ⟨by rwa [register_of_isSome hregister hregistered], ?_⟩
    intro c r hr
    obtain ⟨-, -, -, -, hcredentials⟩ := Tables.register_eq_some hregister
    rw [hcredentials, Dict.lookup_insert_eq] at hr
    split at hr
    · cases hr
      rintro rfl
      rw [register_new hregister] at hregistered
      cases hregistered
    · exact hnone c r hr

theorem register_revoked_iff (hrevoked : device.revokedAt = none) (d : UUID) :
    Revoked tables' d ↔ Revoked tables d := by
  constructor
  · rintro ⟨row, hrow, h⟩
    rw [register_lookup hregister] at hrow
    split at hrow
    · cases hrow
      rw [show (durableValues device).revokedAt = none from hrevoked] at h
      cases h
    · exact ⟨row, hrow, h⟩
  · exact (register_grows hregister).revoked d

end Register

end JarvisCore.Security.DeviceRecords
