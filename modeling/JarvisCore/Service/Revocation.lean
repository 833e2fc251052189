import JarvisCore.Service.CallSteps
import JarvisCore.Service.GrantContainment

namespace JarvisCore.Service.Revocation

open JarvisCore.Domain.Values
open JarvisCore.Domain.Errors
open JarvisCore.Domain.Models
open JarvisCore.Foundation.Dictionary
open JarvisCore.Foundation.TransitionSystem
open JarvisCore.Manager.Connections (step_connection step_dispatches)
open JarvisCore.Pairing.Backends
open JarvisCore.Security.DeviceTables
open JarvisCore.Security.DeviceRecords
open JarvisCore.Service.Operations
open JarvisCore.Service.Effects
open JarvisCore.Service.Invariant
open JarvisCore.Service.CallSteps

variable {Digest : Type} {config : Config Digest} [DecidableEq Digest]

section Steps

variable {log : List (Pairing.Challenges.Event Digest)} {s t : State config}

/-- The device is revoked and offline, and no call is about to connect it. -/
structure Final (d : UUID) (s : State config) : Prop where
  revoked : Revoked s.tables d
  offline : s.manager.connections.lookup d = none
  unconnected : ∀ x transport value,
    s.calls x ≠ some ⟨.connectDevice d transport, .awaitingClose value⟩

omit [DecidableEq Digest] in
theorem revoked_of_connecting {tables : Tables Digest} {owner : Option Nat} {x transport : Nat}
    {d : UUID} {device : Device} (hok : CallOk tables owner x
      ⟨.connectDevice d transport, .awaitingGet d (some (.ok (some device)))⟩)
    (hrevoked : Revoked tables d) : device.status = .revoked :=
  hok.fresh d d transport device rfl rfl hrevoked

theorem Final.offline_step {d : UUID} (hfinal : Final d s) (hinv : Inv log s)
    {action : Action config} {events : List (Event Digest)}
    (h : step s action = some (t, events)) : t.manager.connections.lookup d = none := by
  rcases step_manager hinv h with ⟨hsame, -⟩ | ⟨managerAction, haction, -, hstep⟩
  · rw [hsame]
    exact hfinal.offline
  · have hoffline := hfinal.offline
    have hconnection := step_connection hstep d
    cases hconnection with
    | kept _ hsame => rw [hsame, hoffline]
    | dropped _ hnone => exact hnone
    | connected k hk =>
        cases haction with
        | passes hpassed => cases hpassed
        | connects x _ d' transport device sessionId now hcall hstatus =>
            obtain rfl := (hinv.calls x _ hcall).target d _ rfl d' rfl
            exact absurd (revoked_of_connecting (hinv.calls x _ hcall) hfinal.revoked) hstatus
    | activated k k' _ hk =>
        rw [hoffline] at hk
        cases hk
    | touched k hk =>
        rw [hoffline] at hk
        cases hk

theorem Final.step {d : UUID} (hfinal : Final d s) (hinv : Inv log s) {action : Action config}
    {events : List (Event Digest)} (h : Operations.step s action = some (t, events)) :
    Final d t where
  revoked := (step_tables hinv h).1.revoked d hfinal.revoked
  offline := hfinal.offline_step hinv h
  unconnected x transport value hx := by
    rcases step_concluding hinv h hx trivial with hsame | ⟨value', hclosing, -⟩ | hfound
    · exact hfinal.unconnected x transport value hsame
    · exact hfinal.unconnected x transport value' hclosing
    · cases hfound with
      | connects _ _ device _ _ _ hcall hstatus =>
          exact hstatus (revoked_of_connecting (hinv.calls x _ hcall) hfinal.revoked)

theorem final_of_found {d : UUID} (hinv : Inv log s) {action : Action config}
    {events : List (Event Digest)} (h : Operations.step s action = some (t, events)) {x : Nat}
    {stage : Stage} (hfound : Found s t action x (.revokeDevice d) stage) : Final d t := by
  cases hfound with
  | views _ _ _ _ hviews => exact hviews.elim
  | revokes _ stage₀ _ hcall hsection hrevoked hoffline =>
      have howner := (hinv.calls x _ hcall).owned rfl hsection
      have other {y transport : Nat} {stage : Stage}
          (hy : s.calls y = some ⟨.connectDevice d transport, stage⟩) (hsection : InSection stage) :
          False := by
        have howner' := (hinv.calls y _ hy).owned rfl hsection
        obtain rfl : x = y := Option.some.inj (howner.symm.trans howner')
        rw [hcall] at hy
        cases hy
      refine ⟨(step_tables hinv h).1.revoked d hrevoked, hoffline, ?_⟩
      intro y transport value hy
      rcases step_concluding hinv h hy trivial with hsame | ⟨value', hclosing, -⟩ | hfound
      · exact other hsame trivial
      · exact other hclosing trivial
      · cases hfound with
        | connects _ _ device _ _ _ hcall' => exact other hcall' trivial

end Steps

section Runs

variable {earlier later : List (Step config)} {s₀ s : State config}

theorem final_of_concluding (hrun : Run (service config) (.initial config) earlier s) {x : Nat}
    {d : UUID} {stage : Stage} (hcall : s.calls x = some ⟨.revokeDevice d, stage⟩)
    (hstage : Concluding stage) : Final d s := by
  induction hrun generalizing stage with
  | nil => cases hcall
  | @step history s action events t hprev h ih =>
      have hinv := inv_of_run hprev
      rcases step_concluding hinv h hcall hstage with hsame | ⟨value, hclosing, -⟩ | hfound
      · exact (ih hsame hstage).step hinv h
      · exact (ih hclosing trivial).step hinv h
      · exact final_of_found hinv h hfound

theorem underLock_of_closing (hrun : Run (service config) (.initial config) earlier s) {x : Nat}
    {request : Request} {value : Value} (hcall : s.calls x = some ⟨request, .awaitingClose value⟩) :
    request.underLock = true := by
  induction hrun generalizing value with
  | nil => cases hcall
  | @step history s action events t hprev h ih =>
      rcases step_concluding (inv_of_run hprev) h hcall trivial with hsame | ⟨value', hsame, -⟩ | hfound
      · exact ih hsame
      · exact ih hsame
      · cases hfound <;> rfl

/-- What never changes again once a `revoke_device` call has returned: `s` is a later
state than `s₀`. -/
structure Finality (d : UUID) (s₀ s : State config) (later : List (Step config)) : Prop where
  registry : ∃ device, s.tables.get config.dialect d = .ok (some device) ∧ device.status = .revoked
  tokens : ∀ token, s.tables.authenticate config.codec token ≠ some d
  offline : s.manager.connections.lookup d = none
  /-- Every read that is made from now on tells that the device is revoked. -/
  read : ∀ x request device,
    s.calls x = some ⟨request, .awaitingGet d (some (.ok (some device)))⟩ →
      device.status ≠ .revoked →
      s₀.calls x = some ⟨request, .awaitingGet d (some (.ok (some device)))⟩
  connect : ∀ x transport value,
    s.calls x = some ⟨.connectDevice d transport, .finished (.ok value)⟩ →
      s₀.calls x = some ⟨.connectDevice d transport, .finished (.ok value)⟩
  activate : ∀ x sessionId advertised value,
    s.calls x = some ⟨.activateDevice d sessionId advertised, .finished (.ok value)⟩ →
      s₀.calls x = some ⟨.activateDevice d sessionId advertised, .finished (.ok value)⟩
  /-- Only an `authenticate` call that had read the record before can still return the
  device. -/
  authenticate : ∀ x token seen,
    s.calls x = some ⟨.authenticate token, .finished (.ok (.device seen))⟩ → seen.id = d →
      s₀.calls x = some ⟨.authenticate token, .finished (.ok (.device seen))⟩ ∨
        ∃ device, s₀.calls x =
          some ⟨.authenticate token, .awaitingGet d (some (.ok (some device)))⟩
  sends : ∀ u ∈ later, ∀ x transport command sessionId,
    .transport (.sendCommand x transport command sessionId) ∈ u.events → command.deviceId ≠ d

theorem Finality.step {d : UUID} {t : State config} {action : Action config}
    {events : List (Event Digest)} (hfinality : Finality d s₀ s later) (hfinal : Final d s)
    (hrun : Run (service config) (.initial config) earlier s)
    (h : step s action = some (t, events)) :
    Finality d s₀ t (⟨s, action, events, t⟩ :: later) := by
  have hinv := inv_of_run hrun
  have hnext := hinv.step h
  have hfinal' := hfinal.step hinv h
  have unlocked {x : Nat} {request : Request} {value : Value} (hlock : request.underLock = false)
      (hcall : s.calls x = some ⟨request, .awaitingClose value⟩) : False := by
    rw [underLock_of_closing hrun hcall] at hlock
    cases hlock
  constructor
  · exact get_of_revoked config.dialect hnext.durable hfinal'.revoked
  · exact authenticate_ne config.codec (hnext.stripped d hfinal'.revoked)
  · exact hfinal'.offline
  · intro x request device hx hstatus
    rcases step_reading hinv h hx with hsame | hget
    · exact hfinality.read x request device hsame hstatus
    · exact absurd ((get_eq_some hinv.durable hget).2.2.mpr hfinal.revoked) hstatus
  · intro x transport value hx
    rcases step_concluding hinv h hx trivial with hsame | ⟨value', hclosing, -⟩ | hfound
    · exact hfinality.connect x transport value hsame
    · exact absurd hclosing (hfinal.unconnected x transport value')
    · cases hfound with
      | views _ _ _ _ hviews => exact hviews.elim
      | connects _ _ device _ _ _ hcall hstatus =>
          exact absurd (revoked_of_connecting (hinv.calls x _ hcall) hfinal.revoked) hstatus
  · intro x sessionId advertised value hx
    rcases step_concluding hinv h hx trivial with hsame | ⟨value', hclosing, -⟩ | hfound
    · exact hfinality.activate x sessionId advertised value hsame
    · exact (unlocked rfl hclosing).elim
    · cases hfound with
      | views _ _ _ _ hviews => exact hviews.elim
      | activates _ _ _ k _ hk =>
          rw [hfinal.offline] at hk
          cases hk
  · intro x token seen hx hid
    rcases step_concluding hinv h hx trivial with hsame | ⟨value', hclosing, -⟩ | hfound
    · exact hfinality.authenticate x token seen hsame hid
    · exact (unlocked rfl hclosing).elim
    · cases hfound with
      | views _ d' device _ _ hcall hid' hstatus =>
          obtain rfl : d' = d := hid'.symm.trans hid
          exact .inr ⟨device, hfinality.read x _ device hcall (hstatus token rfl)⟩
  · intro u hu x transport command sessionId hsend
    rcases List.mem_cons.mp hu with rfl | hu
    · rintro rfl
      rcases step_manager hinv h with ⟨-, hquiet⟩ | ⟨managerAction, -, -, hstep⟩
      · have hcall : .sendCommand x transport command sessionId ∈ transportCalls events :=
          List.mem_filterMap.mpr ⟨_, hsend, rfl⟩
        rw [hquiet] at hcall
        cases hcall
      · obtain ⟨-, call, hdispatches⟩ :=
          step_dispatches hstep (List.mem_filterMap.mpr ⟨_, hsend, rfl⟩)
        obtain ⟨k, hk, -⟩ := hdispatches.current
        rw [hdispatches.command, hfinal.offline] at hk
        cases hk
    · exact hfinality.sends u hu x transport command sessionId hsend

/-- Revocation is final. -/
theorem revocation_final (hearlier : Run (service config) (.initial config) earlier s₀) {x : Nat}
    {d : UUID} {value : Value}
    (hrevoked : s₀.calls x = some ⟨.revokeDevice d, .finished (.ok value)⟩)
    (hlater : Run (service config) s₀ later s) : Finality d s₀ s later := by
  have hfinal : Final d s₀ := final_of_concluding hearlier hrevoked trivial
  suffices h : Final d s ∧ Finality d s₀ s later from h.2
  induction hlater with
  | nil =>
      have hinv := inv_of_run hearlier
      refine ⟨hfinal, ?_⟩
      exact
        { registry := get_of_revoked config.dialect hinv.durable hfinal.revoked
          tokens := authenticate_ne config.codec (hinv.stripped d hfinal.revoked)
          offline := hfinal.offline
          read := fun _ _ _ h _ => h
          connect := fun _ _ _ h => h
          activate := fun _ _ _ _ h => h
          authenticate := fun _ _ _ h _ => .inl h
          sends := by simp }
  | step action events t hlater h ih =>
      obtain ⟨hfinal, hfinality⟩ := ih
      have hrun := hearlier.append hlater
      exact ⟨hfinal.step (inv_of_run hrun) h, hfinality.step hfinal hrun h⟩

end Runs

section Samples

open JarvisCore.Service.GrantContainment

/-- The revocation waits for nothing but the close of the device's transport. -/
def sampleRevoked : List (Action sampleService) :=
  sampleDispatched ++ sampleCall 5 (.revokeDevice sampleDevice) ++
    [.perform 5 .completed, .proceed 5 sampleInputs, .perform 5 .completed,
      .proceed 5 sampleInputs, .endClose 5 none]

def hasRevoked (s : State sampleService) : Bool :=
  match s.calls 5 with
  | some ⟨.revokeDevice d, .finished (.ok _)⟩ => d = sampleDevice
  | _ => false

def sampleReconnects : List (Action sampleService) :=
  sampleCall 6 (.connectDevice sampleDevice 1)

theorem revocation_final_reconnects :
    ∃ earlier s₀ later s, Run (service sampleService) (.initial sampleService) earlier s₀ ∧
      Run (service sampleService) s₀ later s ∧ later ≠ [] ∧ Finality sampleDevice s₀ s later := by
  obtain ⟨earlier, s₀, hearlier, htest⟩ := exists_run_of_replay (S := service sampleService)
    (s := .initial sampleService) sampleRevoked
    (fun _ s => hasRevoked s && (replay (service sampleService) s sampleReconnects).any
      fun r => !r.1.isEmpty) (by decide)
  simp only [Bool.and_eq_true] at htest
  obtain ⟨hrevoked, hreplay⟩ := htest
  obtain ⟨later, s, hlater, hsome⟩ := exists_run_of_replay sampleReconnects
    (fun history _ => !history.isEmpty) hreplay
  unfold hasRevoked at hrevoked
  split at hrevoked
  · rename_i d value hcall
    obtain rfl : d = sampleDevice := of_decide_eq_true hrevoked
    refine ⟨earlier, s₀, later, s, hearlier, hlater, ?_, revocation_final hearlier hcall hlater⟩
    rintro rfl
    cases hsome
  · cases hrevoked

end Samples

end JarvisCore.Service.Revocation
