import JarvisCore.Security.CredentialHistory

namespace JarvisCore.Security.StoreAgreement

open JarvisCore.Domain.Values
open JarvisCore.Domain.Errors
open JarvisCore.Domain.Models
open JarvisCore.Foundation.Dictionary
open JarvisCore.Foundation.Grouping
open JarvisCore.Security.CredentialHistory
open JarvisCore.Security.Credentials
open JarvisCore.Security.DeviceTables
open JarvisCore.Security.InMemoryStores

/-- The device has UTC times and nothing that its row leaves out. -/
structure Plain (device : Device) : Prop where
  pairedAt : device.pairedAt.utcoffset = 0
  status : device.status = readStatus device.revokedAt
  advertised : device.advertisedCapabilities = ∅
  lastSeen : device.lastSeenAt = none
  revokedAt : ∀ revokedAt ∈ device.revokedAt, revokedAt.utcoffset = 0

theorem device_ext {device device' : Device} (hid : device.id = device'.id)
    (hname : device.name = device'.name)
    (hgranted : device.grantedCapabilities = device'.grantedCapabilities)
    (hpaired : device.pairedAt = device'.pairedAt) (hstatus : device.status = device'.status)
    (hadvertised : device.advertisedCapabilities = device'.advertisedCapabilities)
    (hseen : device.lastSeenAt = device'.lastSeenAt)
    (hrevoked : device.revokedAt = device'.revokedAt) : device = device' := by
  cases device
  cases device'
  simp only at hid hname hgranted hpaired hstatus hadvertised hseen hrevoked
  subst hid hname hgranted hpaired hstatus hadvertised hseen hrevoked
  rfl

theorem asUtc_readBack (dialect : Dialect) {value : AwareDatetime} (h : value.utcoffset = 0) :
    asUtc (dialect.readBack value) = value := by
  obtain ⟨wall, offset⟩ := value
  have hzero : offset = 0 := h
  subst hzero
  cases dialect with
  | postgresql => simp [Dialect.readBack, asUtc, AwareDatetime.instant]
  | sqlite => rfl

theorem Plain.toDomain (dialect : Dialect) {device : Device} (h : Plain device) :
    toDomain dialect device.id (durableValues device) = .ok device := by
  obtain ⟨read, hread, hid, hname, hgranted, hpaired, hstatus, hadvertised, hseen, hrevoked⟩ :=
    exists_toDomain dialect device
  rw [hread]
  congr 1
  apply device_ext hid hname hgranted
  · rw [hpaired, asUtc_readBack dialect h.pairedAt]
  · rw [hstatus, h.status]
  · rw [hadvertised, h.advertised]
  · rw [hseen, h.lastSeen]
  · rw [hrevoked]
    cases hvalue : device.revokedAt with
    | none => rfl
    | some value =>
        have hutc := asUtc_readBack dialect (h.revokedAt value hvalue)
        rw [Option.map_some, hutc]

/-- What is registered in the one store is registered in the other, and so is what
authenticates. -/
structure StoresAgree {Digest : Type} (stores : Stores Digest) (tables : Tables Digest) : Prop where
  rows : ∀ d, tables.devices.lookup d = (stores.devices.lookup d).map durableValues
  plain : ∀ d device, stores.devices.lookup d = some device → device.id = d ∧ Plain device
  consistent : Consistent stores
  kept : ∀ c, keptRows tables c = keptRecords stores c
  owners : ∀ c r, stores.credentials.lookup c = some r → (stores.devices.lookup r.deviceId).isSome

variable {Digest : Type} {stores : Stores Digest} {tables : Tables Digest}

namespace StoresAgree

theorem empty : StoresAgree (Stores.empty : Stores Digest) Tables.empty where
  rows _ := rfl
  plain d device h := by cases h
  consistent := by
    constructor
    · intro c r h
      cases h
    · intro d tokens h
      cases h
  kept _ := rfl
  owners c r h := by cases h

theorem get (h : StoresAgree stores tables) (dialect : Dialect) (d : UUID) :
    tables.get dialect d = .ok (stores.get d) := by
  unfold Tables.get
  rw [h.rows d]
  cases hdevice : stores.devices.lookup d with
  | none => simp [Stores.get, hdevice]
  | some device =>
      obtain ⟨rfl, hplain⟩ := h.plain d device hdevice
      simp only [Option.map_some, hplain.toDomain dialect, Stores.get, hdevice]

theorem authenticate [DecidableEq Digest] (h : StoresAgree stores tables)
    (codec : DeviceCredentialCodec Digest) (token : String) :
    tables.authenticate codec token = stores.authenticate codec token := by
  apply Option.ext
  intro d
  rw [Tables.authenticate_eq_some, Stores.authenticate_eq_some]
  constructor
  · rintro ⟨c, hparse, hkept⟩
    exact ⟨c, hparse, (h.kept c).symm.trans hkept⟩
  · rintro ⟨c, hparse, hkept⟩
    exact ⟨c, hparse, (h.kept c).trans hkept⟩

theorem revoke (h : StoresAgree stores tables) (d : UUID) :
    StoresAgree (stores.revoke d) (tables.revoke d) where
  rows := h.rows
  plain := h.plain
  consistent := h.consistent.revoke d
  kept c := by
    have hrows : keptRows (tables.revoke d) c = (keptRows tables c).filter (·.1 ≠ d) :=
      (congrArg _ (Tables.revoke_lookup tables d c)).trans (filter_rows d _)
    have hrecords : keptRecords (stores.revoke d) c = (keptRecords stores c).filter (·.1 ≠ d) :=
      (congrArg _ (h.consistent.lookup_revoke d c)).trans (filter_records d _)
    rw [hrows, hrecords, h.kept c]
  owners c r hr := by
    rw [h.consistent.lookup_revoke, Option.filter_eq_some_iff] at hr
    exact h.owners c r hr.1

theorem save (h : StoresAgree stores tables) {device saved : Device}
    (hget : stores.get saved.id = some device) (hplain : Plain saved) :
    ∃ stores' tables', stores.save saved = .ok stores' ∧ tables.save saved = .ok tables' ∧
      StoresAgree stores' tables' ∧
      ∀ d, (stores'.devices.lookup d).isSome → (stores.devices.lookup d).isSome := by
  have hlookup : stores.devices.lookup saved.id = some device := hget
  have hrow : tables.devices.lookup saved.id = some (durableValues device) := by
    rw [h.rows, hlookup]
    rfl
  have hstill : ∀ d, (stores.devices.lookup d).isSome →
      ((stores.devices.insert saved.id saved).lookup d).isSome := by
    intro d hd
    rw [Dict.lookup_insert_eq]
    split
    · rfl
    · exact hd
  refine ⟨{ stores with devices := stores.devices.insert saved.id saved },
    { tables with devices := tables.devices.insert saved.id (durableValues saved) },
    by rw [Stores.save, hlookup], by rw [Tables.save, hrow], ?_, ?_⟩
  · refine ⟨?_, ?_, ⟨h.consistent.listed, h.consistent.single⟩, h.kept, ?_⟩
    · intro d
      simp only [Dict.lookup_insert_eq, h.rows]
      split <;> rfl
    · intro d found hfound
      rw [Dict.lookup_insert_eq] at hfound
      split at hfound
      · rename_i hd
        cases hfound
        exact ⟨hd.symm, hplain⟩
      · exact h.plain d found hfound
    · intro c r hr
      exact hstill _ (h.owners c r hr)
  · intro d hd
    rw [Dict.lookup_insert_eq] at hd
    split at hd
    · rename_i hsame
      rw [hsame, hlookup]
      rfl
    · exact hd

theorem entries_perm (h : StoresAgree stores tables) :
    tables.devices.entries.Perm
      (stores.devices.entries.map fun e : Sigma fun _ : UUID => Device =>
        ⟨e.1, durableValues e.2⟩) := by
  have hkeys : (stores.devices.entries.map fun e =>
      (⟨e.1, durableValues e.2⟩ : Sigma fun _ : UUID => DeviceRow)).NodupKeys :=
    List.NodupKeys.map₂ (fun _ => durableValues) _ stores.devices.nodupKeys
  apply List.lookup_ext tables.devices.nodupKeys hkeys
  intro d row
  rw [List.mem_dlookup_iff hkeys]
  have hrow : row ∈ tables.devices.lookup d ↔ row ∈ (stores.devices.lookup d).map durableValues := by
    rw [h.rows d]
  refine hrow.trans ?_
  rw [Option.mem_map, List.mem_map]
  constructor
  · rintro ⟨device, hdevice, rfl⟩
    exact ⟨⟨d, device⟩, Dict.lookup_eq_some_iff.mp hdevice, rfl⟩
  · rintro ⟨⟨d', device⟩, he, heq⟩
    cases heq
    exact ⟨device, Dict.lookup_eq_some_iff.mpr he, rfl⟩

theorem listAll (h : StoresAgree stores tables) (dialect : Dialect) :
    ∃ devices, tables.listAll dialect = .ok devices ∧ stores.listAll.Perm devices := by
  have hread : ∀ e ∈ stores.devices.entries,
      toDomain dialect e.1 (durableValues e.2) = .ok e.2 := by
    rintro ⟨d, device⟩ he
    obtain ⟨hid, hplain⟩ := h.plain d device (Dict.lookup_eq_some_iff.mpr he)
    have hdomain := hplain.toDomain dialect
    rw [hid] at hdomain
    exact hdomain
  have hvalues := mapM_map_eq_ok (f := fun e : Sigma fun _ : UUID => DeviceRow =>
    toDomain dialect e.1 e.2) (g := fun e : Sigma fun _ : UUID => Device =>
      ⟨e.1, durableValues e.2⟩) hread
  have hsorted := (sortBy_perm (fun e : Sigma fun _ : UUID => DeviceRow =>
    toLex ((dialect.readBack e.2.pairedAt).wall, e.1.int)) tables.devices.entries).trans
      h.entries_perm
  obtain ⟨devices, hdevices, hperm⟩ := mapM_perm hsorted.symm hvalues
  exact ⟨devices, hdevices, (sortBy_perm _ _).trans hperm⟩

theorem listAll_id (h : StoresAgree stores tables) :
    ∀ a ∈ stores.listAll, ∀ b ∈ stores.listAll, a.id = b.id → a = b := by
  have hlookup : ∀ a ∈ stores.listAll, stores.devices.lookup a.id = some a := by
    intro a ha
    obtain ⟨d, hd⟩ := Dict.mem_values.mp ((sortBy_perm _ _).mem_iff.mp ha)
    rw [(h.plain d a hd).1]
    exact hd
  intro a ha b hb hid
  have heq := hlookup a ha
  rw [hid, hlookup b hb] at heq
  exact (Option.some.inj heq).symm

section Register

variable {device : Device} {issued : IssuedDeviceCredential Digest}
  (h : StoresAgree stores tables) (hnew : stores.devices.lookup device.id = none)

include h hnew in
theorem deviceId_ne : ∀ c r, stores.credentials.lookup c = some r → r.deviceId ≠ device.id := by
  intro c r hr hd
  have howner := h.owners c r hr
  rw [hd, hnew] at howner
  cases howner

include h in
theorem register_of_taken (createdAt : AwareDatetime) {error : Raised}
    (hissue : stores.issue device.id issued = .error error) :
    tables.register device issued createdAt = none := by
  have htaken : (stores.credentials.lookup issued.id).isSome := by
    unfold Stores.issue at hissue
    split at hissue
    · assumption
    · cases hissue
  have hkept := congrArg Option.isSome (h.kept issued.id)
  have hrow : (tables.credentials.lookup issued.id).isSome := by
    simpa [keptRows, keptRecords] using hkept.trans (Option.isSome_map.trans htaken)
  rw [Tables.register, if_pos (Or.inr (Or.inl hrow))]

include h hnew in
theorem register_of_free (createdAt : AwareDatetime)
    (hfree : stores.credentials.lookup issued.id = none) :
    tables.register device issued createdAt = some
      ⟨tables.devices.insert device.id (durableValues device),
        tables.credentials.insert issued.id ⟨device.id, issued.digest, createdAt⟩⟩ := by
  have hholds : tables.holdsDevice device.id = false := by
    rw [Tables.holdsDevice, h.rows, hnew]
    rfl
  have hrow : tables.credentials.lookup issued.id = none := by
    have hkept := h.kept issued.id
    rw [keptRecords, hfree] at hkept
    exact Option.map_eq_none_iff.mp hkept
  have hunused : tables.credentials.entries.any (fun e => e.2.deviceId = device.id) = false := by
    rw [List.any_eq_false]
    intro e he hd
    have hkept := h.kept e.1
    rw [keptRows, Dict.lookup_eq_some_iff.mpr he] at hkept
    obtain ⟨r, hr, heq⟩ := Option.map_eq_some_iff.mp hkept.symm
    exact h.deviceId_ne hnew e.1 r hr ((congrArg Prod.fst heq).trans (of_decide_eq_true hd))
  rw [Tables.register, hholds, hrow, hunused]
  rfl

include h hnew in
theorem registered (createdAt : AwareDatetime) (hplain : Plain device) {rotated : Stores Digest}
    (hdevices : rotated.devices = stores.devices) (hconsistent : Consistent rotated)
    (hlookup : ∀ c, rotated.credentials.lookup c =
      if c = issued.id then some ⟨device.id, issued.digest⟩
      else (stores.credentials.lookup c).filter (fun r => r.deviceId ≠ device.id)) :
    StoresAgree { rotated with devices := rotated.devices.insert device.id device }
      ⟨tables.devices.insert device.id (durableValues device),
        tables.credentials.insert issued.id ⟨device.id, issued.digest, createdAt⟩⟩ := by
  refine ⟨?_, ?_, ⟨hconsistent.listed, hconsistent.single⟩, ?_, ?_⟩
  · intro d
    simp only [Dict.lookup_insert_eq, hdevices, h.rows]
    split <;> rfl
  · intro d found hfound
    rw [Dict.lookup_insert_eq, hdevices] at hfound
    split at hfound
    · rename_i hd
      cases hfound
      exact ⟨hd.symm, hplain⟩
    · exact h.plain d found hfound
  · intro c
    have hothers : (stores.credentials.lookup c).filter (fun r => r.deviceId ≠ device.id) =
        stores.credentials.lookup c := by
      cases hr : stores.credentials.lookup c with
      | none => rfl
      | some r => simp [h.deviceId_ne hnew c r hr]
    simp only [keptRows, keptRecords, Dict.lookup_insert_eq, hlookup c, hothers]
    split
    · rfl
    · exact h.kept c
  · intro c r hr
    rw [hlookup] at hr
    rw [Dict.lookup_insert_eq, hdevices]
    split at hr
    · cases hr
      simp
    · split
      · rfl
      · exact h.owners c r (Option.filter_eq_some_iff.mp hr).1

include h hnew in
/-- Registering a new device: the credential first and the device after it in the one
store, both rows at once in the other. -/
theorem register (issued : IssuedDeviceCredential Digest) (createdAt : AwareDatetime)
    (hplain : Plain device) :
    (∃ error, stores.issue device.id issued = .error error ∧
        tables.register device issued createdAt = none) ∨
      ∃ rotated added tables', stores.issue device.id issued = .ok rotated ∧
        rotated.add device = .ok added ∧
        tables.register device issued createdAt = some tables' ∧ StoresAgree added tables' ∧
        ∀ d, (added.devices.lookup d).isSome →
          (stores.devices.lookup d).isSome ∨ d = device.id := by
  cases hissue : stores.issue device.id issued with
  | error error => exact .inl ⟨error, rfl, h.register_of_taken createdAt hissue⟩
  | ok rotated =>
      right
      obtain ⟨hconsistent, hfree, hlookup⟩ := h.consistent.issue hissue
      have hdevices : rotated.devices = stores.devices := by
        unfold Stores.issue at hissue
        split at hissue
        · cases hissue
        · cases hissue
          rfl
      have hadd : rotated.add device =
          .ok { rotated with devices := rotated.devices.insert device.id device } := by
        rw [Stores.add, hdevices, hnew]
        rfl
      refine ⟨rotated, _, _, rfl, hadd, h.register_of_free hnew createdAt hfree,
        h.registered hnew createdAt hplain hdevices hconsistent hlookup, ?_⟩
      intro d hd
      rw [Dict.lookup_insert_eq, hdevices] at hd
      split at hd
      · right
        assumption
      · exact .inl hd

end Register

end StoresAgree

end JarvisCore.Security.StoreAgreement
