import JarvisCore.Service.Provenance

namespace JarvisCore.Service.Names

open JarvisCore.Domain.Errors
open JarvisCore.Domain.Models
open JarvisCore.Domain.Values
open JarvisCore.Foundation.TransitionSystem
open JarvisCore.Security.DeviceRecords
open JarvisCore.Security.DeviceTables
open JarvisCore.Service.CallSteps
open JarvisCore.Service.Effects
open JarvisCore.Service.GrantContainment
open JarvisCore.Service.Invariant
open JarvisCore.Service.Operations
open JarvisCore.Service.Provenance

variable {Digest : Type}

section Tables

variable {tables tables' : Tables Digest}

def HasName (tables : Tables Digest) (d : UUID) (name : String) : Prop :=
  ∃ row, tables.devices.lookup d = some row ∧ row.name = name

def Keeps (tables tables' : Tables Digest) : Prop :=
  ∀ d name, HasName tables d name → HasName tables' d name

theorem HasName.unique {d : UUID} {name name' : String} (h : HasName tables d name)
    (h' : HasName tables d name') : name' = name := by
  obtain ⟨row, hrow, rfl⟩ := h
  obtain ⟨row', hrow', rfl⟩ := h'
  rw [hrow] at hrow'
  cases hrow'
  rfl

theorem hasName_of_get {dialect : Dialect} {d : UUID} {device : Device} (hdurable : Durable tables)
    (h : tables.get dialect d = .ok (some device)) : HasName tables d device.name := by
  unfold Tables.get at h
  split at h
  · cases h
  · rename_i row hrow
    obtain ⟨written, rfl, rfl⟩ := hdurable d row hrow
    obtain ⟨read, hread, -, hname, -⟩ := toDomain_durableValues dialect written
    rw [hread] at h
    cases h
    exact ⟨_, hrow, hname.symm⟩

theorem Keeps.revoke (d : UUID) : Keeps tables (tables.revoke d) := fun _ _ h => h

theorem Keeps.save {device : Device} (hsave : tables.save device = .ok tables')
    (hname : HasName tables device.id device.name) : Keeps tables tables' := by
  rintro d name h
  by_cases hd : d = device.id
  · subst hd
    refine ⟨durableValues device, ?_, hname.unique h ▸ rfl⟩
    rw [save_lookup hsave, if_pos rfl]
  · obtain ⟨row, hrow, rfl⟩ := h
    refine ⟨row, ?_, rfl⟩
    rw [save_lookup hsave, if_neg hd, hrow]

end Tables

/-- What a call holds of a device has the name of the device. -/
def Knows (tables : Tables Digest) : Stage → Prop
  | .awaitingGet d (some (.ok (some device))) => HasName tables d device.name
  | .awaitingRevoke d device _ | .awaitingSave d device _ => HasName tables d device.name
  | _ => True

theorem Knows.keeps {tables tables' : Tables Digest} {stage : Stage} (h : Knows tables stage)
    (hkeeps : Keeps tables tables') : Knows tables' stage := by
  unfold Knows at h ⊢
  split
  · exact hkeeps _ _ h
  · exact hkeeps _ _ h
  · exact hkeeps _ _ h
  · trivial

theorem revokedDevice_name {device device' : Device} {clock : Datetime}
    (h : revokedDevice device clock = .ok device') : device'.name = device.name := by
  unfold revokedDevice at h
  split at h
  · cases h
  · rw [(Device.make_eq_ok h).2.1, device.name_normalized]

variable [DecidableEq Digest] {config : Config Digest}

/-- Every call holds devices with their names. -/
def Named (s : State config) : Prop :=
  ∀ x call, s.calls x = some call → Knows s.tables call.stage

section Steps

variable {log : List (Pairing.Challenges.Event Digest)} {s t : State config}
  {action : Action config} {events : List (Event Digest)}

omit [DecidableEq Digest] in
theorem Named.keeps (hnamed : Named s) (hcalls : t.calls = s.calls)
    (hkeeps : Keeps s.tables t.tables) : Named t := by
  intro x call hx
  rw [hcalls] at hx
  exact (hnamed x call hx).keeps hkeeps

omit [DecidableEq Digest] in
theorem Named.update (hnamed : Named s) (hkeeps : Keeps s.tables t.tables) {x : Nat} {call : Call}
    (hcalls : t.calls = Function.update s.calls x (some call)) (hcall : Knows t.tables call.stage) :
    Named t := by
  intro y call' hy
  rw [hcalls] at hy
  by_cases hyx : y = x
  · subst hyx
    rw [Function.update_self] at hy
    cases hy
    exact hcall
  · rw [Function.update_of_ne hyx] at hy
    exact (hnamed y call' hy).keeps hkeeps

omit [DecidableEq Digest] in
theorem Named.proceeds (hnamed : Named s) {x : Nat} {request : Request} {stage : Stage}
    {r : Result config} (hcall : s.calls x = some ⟨request, stage⟩)
    (h : Proceeds s x request stage r) : Named r.1 := by
  have hknows := hnamed x _ hcall
  have hkeeps : Keeps s.tables r.1.tables := by
    rw [State.tables, State.tables, proceeds_pairing h]
    exact fun _ _ h => h
  have concludes {value : Value} {manager : Manager.Operations.State}
      {events : List Manager.Operations.TransportCall} {r : Result config}
      (h : Concludes s x request value manager events r) : Named r.1 := by
    rcases h with ⟨-, rfl⟩ | ⟨transport, code, reason, -, rfl⟩
    · refine hnamed.update ?_ (finish_update _ _ _ _) trivial
      rw [State.tables, State.tables, finish_pairing]
      exact fun _ _ h => h
    · exact hnamed.update (fun _ _ h => h) rfl trivial
  cases h with
  | refuses | reads | activates => exact hnamed.update hkeeps (finish_update _ _ _ _) trivial
  | identifies | executes => exact hnamed.update hkeeps rfl trivial
  | strips d d' device => exact hnamed.update hkeeps rfl hknows
  | saves d device device' clock hdevice =>
      refine hnamed.update hkeeps rfl ?_
      show HasName s.tables d device'.name
      rw [revokedDevice_name hdevice]
      exact hknows
  | disconnects _ _ _ _ _ _ _ _ _ _ hconcludes => exact concludes hconcludes
  | connects _ _ _ _ _ _ _ _ _ _ _ _ _ hconcludes => exact concludes hconcludes

theorem step_names (hinv : Inv log s) (hnamed : Named s)
    (h : step s action = some (t, events)) : Keeps s.tables t.tables ∧ Named t := by
  cases step_effect h with
  | pairs _ pairingAction' pairing events _ hstep =>
      have hkeeps : Keeps s.tables (State.tables { s with pairing }) := by
        rcases hinv.pairs_store hstep with hsame | ⟨registration, rows, hcommits, -⟩
        · rw [show State.tables { s with pairing } = s.tables from hsame]
          exact fun _ _ h => h
        · have hcommit : s.tables.register rows.device rows.issued rows.createdAt =
              some pairing.store := hcommits.committed
          rintro d name ⟨row, hrow, hname⟩
          refine ⟨row, ?_, hname⟩
          exact (register_of_isSome hcommit (by rw [hrow]; rfl)).trans hrow
      exact ⟨hkeeps, hnamed.keeps rfl hkeeps⟩
  | passes => exact ⟨fun _ _ h => h, hnamed.keeps rfl fun _ _ h => h⟩
  | begins x request stage _ hbegins =>
      refine ⟨fun _ _ h => h, hnamed.update (fun _ _ h => h) rfl ?_⟩
      cases hbegins <;> trivial
  | queues => exact ⟨fun _ _ h => h, hnamed.update (fun _ _ h => h) rfl trivial⟩
  | enters => exact ⟨fun _ _ h => h, hnamed.update (fun _ _ h => h) rfl trivial⟩
  | leaves _ x request cancelled stage lock _ _ _ hstage =>
      refine ⟨fun _ _ h => h, hnamed.update (fun _ _ h => h) rfl ?_⟩
      rcases hstage with rfl | rfl <;> trivial
  | performs x request stage stage' tables outcome hcall hperforms =>
      have hknows := hnamed x _ hcall
      have hok := hinv.calls x _ hcall
      suffices hkeeps : Keeps s.tables tables ∧ Knows tables stage' from
        ⟨hkeeps.1, hnamed.update hkeeps.1 rfl hkeeps.2⟩
      cases hperforms with
      | authenticates => exact ⟨fun _ _ h => h, trivial⟩
      | gets d answer hanswer =>
          refine ⟨fun _ _ h => h, ?_⟩
          rcases answer with error | (- | device)
          · trivial
          · trivial
          · exact hasName_of_get hinv.durable (hanswer device rfl)
      | revokes d device answer _ hanswer =>
          rcases hanswer with rfl | ⟨rfl, -⟩
          · exact ⟨Keeps.revoke d, hknows⟩
          · exact ⟨fun _ _ h => h, hknows⟩
      | saves d device answer _ hanswer =>
          rcases hanswer with hsave | ⟨rfl, -⟩
          · obtain ⟨-, rfl, -⟩ := hok.saving d device none rfl
            have hkeeps := Keeps.save hsave hknows
            exact ⟨hkeeps, hkeeps _ _ hknows⟩
          · exact ⟨fun _ _ h => h, hknows⟩
  | proceeds x request stage r inputs hcall hproceeds =>
      refine ⟨?_, hnamed.proceeds hcall hproceeds⟩
      rw [State.tables, State.tables, proceeds_pairing hproceeds]
      exact fun _ _ h => h
  | closes x request value outcome failure hcall =>
      have hkeeps : Keeps s.tables (finish s x request outcome).tables := by
        rw [State.tables, State.tables, finish_pairing]
        exact fun _ _ h => h
      exact ⟨hkeeps, hnamed.update hkeeps (finish_update _ _ _ _) trivial⟩

end Steps

section Runs

variable {history earlier later : List (Step config)} {s t : State config}

theorem named_of_run (hrun : Run (service config) (.initial config) history s) : Named s := by
  refine hrun.historyInvariant (fun _ s => Named s) ?_ ?_
  · intro x call hx
    cases hx
  · intro history s action t events hprev hnamed h
    exact (step_names (inv_of_run hprev) hnamed h).2

theorem names_kept (hearlier : Run (service config) (.initial config) earlier s)
    (hlater : Run (service config) s later t) : Keeps s.tables t.tables := by
  induction hlater with
  | nil => exact fun _ _ h => h
  | step action events t hlater h ih =>
      have hrun := hearlier.append hlater
      intro d name hname
      exact (step_names (inv_of_run hrun) (named_of_run hrun) h).1 d name (ih d name hname)

/-- A registered device has the name under which a claim presented its pairing. -/
theorem registered_named (hrun : Run (service config) (.initial config) history s) {d : UUID}
    {name : String} (h : RegisteredAs history d name) : HasName s.tables d name := by
  obtain ⟨u, hu, y, registration, rows, ⟨action, -, hcommits⟩, rfl, rfl⟩ := h
  obtain ⟨later, earlier, -, hearlier, hstep, hlater⟩ := hrun.exists_of_mem hu
  have hcommit : u.source.tables.register rows.device rows.issued rows.createdAt =
      some u.target.tables := hcommits.committed
  refine names_kept (hearlier.append (.step u.action u.events u.target .nil hstep)) hlater _ _ ?_
  refine ⟨durableValues rows.device, ?_, rfl⟩
  rw [register_lookup hcommit, if_pos rfl]

end Runs

end JarvisCore.Service.Names
