import JarvisCore.Pairing.Backends

namespace JarvisCore.Pairing.CallArguments

open JarvisCore.Domain.Values
open JarvisCore.Domain.Errors
open JarvisCore.Domain.Models
open JarvisCore.Foundation.AsyncIO
open JarvisCore.Foundation.Text
open JarvisCore.Pairing.Backends
open JarvisCore.Pairing.Challenges
open JarvisCore.Pairing.Contract
open JarvisCore.Security.Credentials

variable {Digest : Type} {B : Backend}

/-- The identifier and the secret of a `create` are those that its factories yield. -/
inductive Arguments
  | create (granted : Finset DeviceCapability) (pairingId : UUID) (secret : String)
  | claim (pairingId : UUID) (secret deviceName : String)

/-- A refused call has kept nothing. -/
def argumentsOf : PairingCall Digest B → Option Arguments
  | .refused _ => none
  | .create call =>
      some (.create call.challenge.grantedCapabilities call.challenge.id call.challenge.secret)
  | .claim call => some (.claim call.pairingId call.secret call.deviceName)

/-- The arguments that an action enters a call with. -/
def asks : Action B → Option Arguments
  | .create _ granted _ pairingId secret _ => some (.create granted pairingId secret)
  | .claim _ pairingId secret deviceName _ _ => some (.claim pairingId secret deviceName)
  | _ => none

section Steps

variable {s t : State Digest B} {x : Nat}

def Keeps (s : State Digest B) (x : Nat) (call : PairingCall Digest B) (t : State Digest B) :
    Prop :=
  ∃ call', t.calls = Function.update s.calls x (some call') ∧ argumentsOf call' = argumentsOf call

theorem createSection_keeps (s : State Digest B) (x : Nat) (call : CreateCall Digest) :
    Keeps s x (.create call) (createSection s x call).1 := by
  rcases createSection_cases s x call with ⟨record, -, h⟩ | ⟨-, h⟩
  · rw [h]
    exact ⟨_, rfl, rfl⟩
  · rw [h]
    exact ⟨_, rfl, rfl⟩

theorem enter_keeps {call : PairingCall Digest B} {locked : State Digest B → Result Digest B}
    (hlocked : ∀ lock, Keeps s x call (locked { s with lock }).1) :
    Keeps s x call (enter s x call locked).1 := by
  unfold enter
  split
  · exact hlocked _
  · exact ⟨_, rfl, rfl⟩

theorem abandon_keeps {call : PairingCall Digest B} (hcall : s.calls x = some call) :
    Keeps s x call (abandon s x call) := by
  cases call with
  | refused error => exact ⟨.refused error, (Function.update_eq_self_iff.mpr hcall.symm).symm, rfl⟩
  | create call => exact ⟨_, rfl, rfl⟩
  | claim call => exact ⟨_, rfl, rfl⟩

theorem argumentsOf_requestCancel (call : PairingCall Digest B) :
    argumentsOf (requestCancel call) = argumentsOf call := by
  cases call with
  | refused | create | claim => rfl

theorem advance_keeps {call : ClaimCall Digest B} {input : B.Input} {r : Result Digest B}
    (h : advance s x call input = some r) : Keeps s x (.claim call) r.1 := by
  obtain ⟨stage, registration, -, -, hadvance⟩ := advance_cases h
  cases hadvance with
  | suspends | raises | returns => exact ⟨_, rfl, rfl⟩

variable [DecidableEq Digest] {config : Config Digest}

theorem claimSection_keeps (s : State Digest B) (x : Nat) (call : ClaimCall Digest B)
    (clock : Datetime) (setup : B.Setup) :
    Keeps s x (.claim call) (claimSection config s x call clock setup).1 := by
  have hcases : ClaimSection config s x call (claimSection config s x call clock setup) :=
    claimSection_cases s x call clock setup
  generalize claimSection config s x call clock setup = r at hcases
  cases hcases with
  | unknown | unread | expired | wrong | failed | registers => exact ⟨_, rfl, rfl⟩

theorem resumeLock_keeps {call : PairingCall Digest B} {clock : Datetime} {setup : B.Setup}
    {r : Result Digest B} (hcall : s.calls x = some call)
    (h : resumeLock config s x call clock setup = some r) : Keeps s x call r.1 := by
  unfold resumeLock at h
  split at h
  · cases h
    cases call with
    | refused error =>
        exact ⟨.refused error, (Function.update_eq_self_iff.mpr hcall.symm).symm, rfl⟩
    | create call => exact createSection_keeps { s with lock := s.lock.grant x } x call
    | claim call => exact claimSection_keeps { s with lock := s.lock.grant x } x call clock setup
  · cases h
    exact abandon_keeps hcall
  · cases h
    exact abandon_keeps hcall
  · cases h

omit [DecidableEq Digest] in
theorem prepareCreate_arguments {granted : Finset DeviceCapability} {ttl : Int}
    {pairingId : UUID} {secret : String} {clock : Datetime} {call : CreateCall Digest}
    (h : prepareCreate config x granted ttl pairingId secret clock = .ok call) :
    argumentsOf (.create call : PairingCall Digest B) =
      some (.create granted pairingId secret) := by
  unfold prepareCreate at h
  split at h
  · cases h
  split at h
  · cases h
  split at h
  · cases h
  · cases h
    rfl

theorem step_gives {action : Action B} {r : Result Digest B}
    (h : step config s action = some r) :
    ∃ call', r.1.calls = Function.update s.calls (actor action) (some call') ∧
      ((∃ call, s.calls (actor action) = some call ∧ argumentsOf call' = argumentsOf call) ∨
        s.calls (actor action) = none ∧
          (argumentsOf call' = none ∨ argumentsOf call' = asks action)) := by
  cases action with
  | create x granted ttl pairingId secret clock =>
      simp only [step] at h
      split at h
      · cases h
      · rename_i hfresh
        split at h
        · rename_i error _
          cases h
          exact ⟨.refused error, rfl, .inr ⟨hfresh, .inl rfl⟩⟩
        · rename_i call hprepare
          cases h
          obtain ⟨call', hcalls, hkept⟩ : Keeps s x (.create call) (enter s x (.create call)
              fun s => createSection s x call).1 :=
            enter_keeps fun lock => createSection_keeps { s with lock } x call
          exact ⟨call', hcalls,
            .inr ⟨hfresh, .inr (hkept.trans (prepareCreate_arguments hprepare))⟩⟩
  | claim x pairingId secret deviceName clock setup =>
      simp only [step] at h
      split at h
      · cases h
      · rename_i hfresh
        cases h
        let call : ClaimCall Digest B :=
          ⟨pairingId, secret, deviceName, none, .waitingForLock false⟩
        obtain ⟨call', hcalls, hkept⟩ : Keeps s x (.claim call) (enter s x (.claim call)
            fun s => claimSection config s x call clock setup).1 :=
          enter_keeps fun lock => claimSection_keeps { s with lock } x call clock setup
        exact ⟨call', hcalls, .inr ⟨hfresh, .inr hkept⟩⟩
  | resumeLock x clock setup =>
      simp only [step] at h
      split at h
      · rename_i call hcall
        obtain ⟨call', hcalls, hkept⟩ := resumeLock_keeps hcall h
        exact ⟨call', hcalls, .inl ⟨call, hcall, hkept⟩⟩
      · cases h
  | cancelWaiting x =>
      simp only [step] at h
      split at h
      · rename_i call hcall
        unfold cancelWaiting at h
        split at h
        · cases h
          exact ⟨_, rfl, .inl ⟨call, hcall, argumentsOf_requestCancel call⟩⟩
        · cases h
      · cases h
  | advance x input =>
      simp only [step] at h
      split at h
      · rename_i call hcall
        obtain ⟨call', hcalls, hkept⟩ := advance_keeps h
        exact ⟨call', hcalls, .inl ⟨_, hcall, hkept⟩⟩
      · cases h

def argumentsAt (s : State Digest B) (x : Nat) : Option Arguments := (s.calls x).bind argumentsOf

omit [DecidableEq Digest] in
theorem argumentsAt_eq {call : PairingCall Digest B} (h : s.calls x = some call) :
    argumentsAt s x = argumentsOf call := by
  rw [argumentsAt, h, Option.bind_some]

theorem step_argumentsAt {action : Action B} {r : Result Digest B}
    (h : step config s action = some r) {arguments : Arguments}
    (hx : argumentsAt s x = some arguments) : argumentsAt r.1 x = some arguments := by
  obtain ⟨call', hcalls, hgives⟩ := step_gives h
  by_cases hactor : x = actor action
  · subst hactor
    rcases hgives with ⟨call, hcall, hkept⟩ | ⟨hfresh, -⟩
    · rw [argumentsAt, hcalls, Function.update_self, Option.bind_some, hkept]
      rwa [argumentsAt_eq hcall] at hx
    · rw [argumentsAt, hfresh] at hx
      cases hx
  · rw [argumentsAt, hcalls, Function.update_of_ne hactor]
    exact hx

theorem step_asked {action : Action B} {r : Result Digest B}
    (h : step config s action = some r) {arguments : Arguments}
    (hx : argumentsAt r.1 x = some arguments) :
    argumentsAt s x = some arguments ∨
      (s.calls x = none ∧ actor action = x ∧ asks action = some arguments) := by
  obtain ⟨call', hcalls, hgives⟩ := step_gives h
  by_cases hactor : x = actor action
  · subst hactor
    rw [argumentsAt, hcalls, Function.update_self, Option.bind_some] at hx
    rcases hgives with ⟨call, hcall, hkept⟩ | ⟨hfresh, hnone | hasks⟩
    · rw [argumentsAt_eq hcall, ← hkept]
      exact .inl hx
    · rw [hnone] at hx
      cases hx
    · exact .inr ⟨hfresh, rfl, hasks.symm.trans hx⟩
  · rw [argumentsAt, hcalls, Function.update_of_ne hactor] at hx
    exact .inl hx

end Steps

section Names

variable {codec : DeviceCredentialCodec Digest}

/-- The device that a claim registers has the name that the claim gave, normalized. -/
def Named (s : State Digest (sql codec)) : Prop :=
  ∀ x call registration, s.calls x = some (.claim call) → call.registration = some registration →
    registration.device.name = strip call.deviceName

theorem start_name {setup : (sql codec).Setup} {name : String}
    {granted : Finset DeviceCapability} {now : AwareDatetime}
    {tables tables' : (sql codec).Store} {device : Device} {stage : (sql codec).Stage}
    (h : (sql codec).start setup name granted now tables = (tables', .ok (device, stage))) :
    device.name = strip name := by
  simp only [sql, Sql.start] at h
  split at h
  · cases h
  · rename_i hdevice
    split at h
    · cases h
    · cases h
      exact (Device.make_eq_ok hdevice).2.1

variable [DecidableEq Digest] {config : Config Digest}

theorem Named.step {log : List (Event Digest)} {s t : State Digest (sql codec)}
    {action : Action (sql codec)} {events : List (Event Digest)} (hinv : Inv config log s)
    (hnamed : Named s) (h : step config s action = some (t, events)) : Named t := by
  intro x call registration hcall hregistration
  generalize hr : (t, events) = r at h
  obtain rfl : t = r.1 := congrArg Prod.fst hr
  by_cases hx : x = actor action
  · subst hx
    cases step_effect hinv.lock hinv.calls h with
    | quiet t' call' hcalls _ _ _ _ _ hmade hstage =>
        obtain rfl : call' = .claim call := by simpa [hcalls] using hcall
        have hnone : call.registration = none := by
          rcases hstage with hwaits | ⟨error, h⟩ | ⟨cc, h, -⟩ | ⟨cc, h, -, hnothing⟩
          · exact hmade (stage_of_waits hwaits)
          · cases h
          · cases h
          · cases h
            exact hnothing
        rw [hregistration] at hnone
        cases hnone
    | creates lock call' =>
        rcases createSection_cases { s with lock } (actor action) call' with ⟨_, -, h⟩ | ⟨-, h⟩
        all_goals
          rw [h] at hcall
          simp [finishCreate, setCall] at hcall
    | claims lock call' r _ _ _ _ hmade hwaits hsection =>
        have hempty : call'.registration = none := hmade (stage_of_waits hwaits)
        cases hsection with
        | unknown | unread | expired | wrong | failed =>
            simp only [finishClaim, setCall, Function.update_self] at hcall
            obtain rfl := PairingCall.claim.inj (Option.some.inj hcall)
            rw [show call'.registration = some registration from hregistration] at hempty
            cases hempty
        | registers record now store device stage _ _ _ _ hstart =>
            simp only [setCall, Function.update_self] at hcall
            obtain rfl := PairingCall.claim.inj (Option.some.inj hcall)
            cases hregistration
            obtain ⟨setup, hstart⟩ := hstart
            exact start_name hstart
    | advances call' stage registration' input r hold hstage hregistration' hadvance =>
        cases hadvance with
        | suspends | raises | returns =>
            simp only [finishClaim, setCall, Function.update_self] at hcall
            obtain rfl := PairingCall.claim.inj (Option.some.inj hcall)
            exact hnamed _ call' registration hold hregistration
  · rw [show r.1.calls x = s.calls x by
      obtain ⟨call', hcalls, -⟩ := step_gives h
      rw [hcalls, Function.update_of_ne hx]] at hcall
    exact hnamed x call registration hcall hregistration

end Names

end JarvisCore.Pairing.CallArguments
