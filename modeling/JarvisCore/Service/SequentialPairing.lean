import JarvisCore.Service.Compositions

namespace JarvisCore.Service.SequentialPairing

open JarvisCore.Domain.Values
open JarvisCore.Domain.Errors
open JarvisCore.Domain.Models
open JarvisCore.Foundation.AsyncIO
open JarvisCore.Foundation.Dictionary
open JarvisCore.Pairing.Challenges
open JarvisCore.Service.Compositions

variable {Digest : Type}

def complete (B : Backend) (completed : B.Input) :
    Nat → B.Stage → B.Store → Option (B.Store × Except Raised String)
  | 0, _, _ => none
  | n + 1, stage, store =>
      match B.resume stage completed store with
      | none => none
      | some (store, .suspended stage) => complete B completed n stage store
      | some (store, .returned token) => some (store, .ok token)
      | some (store, .raised error) => some (store, .error error)

section Complete

variable {B : Backend} {completed : B.Input} {n : Nat} {stage : B.Stage} {store store' : B.Store}

theorem complete_returned {token : String}
    (h : B.resume stage completed store = some (store', .returned token)) :
    complete B completed (n + 1) stage store = some (store', .ok token) := by
  rw [complete, h]

theorem complete_raised {error : Raised}
    (h : B.resume stage completed store = some (store', .raised error)) :
    complete B completed (n + 1) stage store = some (store', .error error) := by
  rw [complete, h]

theorem complete_suspended {stage' : B.Stage}
    (h : B.resume stage completed store = some (store', .suspended stage')) :
    complete B completed (n + 1) stage store = complete B completed n stage' store' := by
  rw [complete, h]

end Complete

def register (B : Backend) (completed : B.Input) (setup : B.Setup) (name : String)
    (granted : Finset DeviceCapability) (now : AwareDatetime) (store : B.Store) :
    Option (B.Store × Except Raised DeviceCredential) :=
  match B.start setup name granted now store with
  | (store, .error error) => some (store, .error error)
  | (store, .ok (device, stage)) =>
      (complete B completed 3 stage store).map fun r =>
        (r.1, r.2.map fun token => ⟨device, token⟩)

theorem register_of_error {B : Backend} {completed : B.Input} {setup : B.Setup} {name : String}
    {granted : Finset DeviceCapability} {now : AwareDatetime} {store store' : B.Store}
    {error : Raised} (h : B.start setup name granted now store = (store', .error error)) :
    register B completed setup name granted now store = some (store', .error error) := by
  rw [register, h]

theorem register_of_ok {B : Backend} {completed : B.Input} {setup : B.Setup} {name : String}
    {granted : Finset DeviceCapability} {now : AwareDatetime} {store store' store'' : B.Store}
    {device : Device} {stage : B.Stage} {token : Except Raised String}
    (h : B.start setup name granted now store = (store', .ok (device, stage)))
    (hcomplete : complete B completed 3 stage store' = some (store'', token)) :
    register B completed setup name granted now store =
      some (store'', token.map fun token => ⟨device, token⟩) := by
  rw [register, h]
  simp only [hcomplete, Option.map_some]

variable [DecidableEq Digest] {B : Backend} (config : Pairing.Challenges.Config Digest)

/-- The challenges after a `create`, and what it returns. -/
def created (x : Nat) (granted : Finset DeviceCapability) (ttl : Int) (pairingId : UUID)
    (secret : String) (clock : Datetime) (pairings : Dict UUID (PairingRecord Digest)) :
    Dict UUID (PairingRecord Digest) × Except Raised DevicePairingChallenge :=
  match prepareCreate config x granted ttl pairingId secret clock with
  | .error error => (pairings, .error error)
  | .ok call =>
      match pairings.lookup call.challenge.id with
      | some _ => (pairings, .error (.runtimeError "pairing identifier collision"))
      | none => (pairings.insert call.challenge.id call.record, .ok call.challenge)

/-- The challenges after a `claim`, and what it returns if it registers no device. -/
def checked (pairingId : UUID) (secret : String) (now : AwareDatetime)
    (pairings : Dict UUID (PairingRecord Digest)) :
    Dict UUID (PairingRecord Digest) × Option (PairingRecord Digest) :=
  match pairings.lookup pairingId with
  | none => (pairings, none)
  | some record =>
      if record.expiresAt.instant ≤ now.instant then (pairings.erase pairingId, none)
      else if record.secretDigest ≠ config.digest secret then
        (countFailure config pairingId record pairings, none)
      else (pairings, some record)

/-- The call has come to its end, with these challenges, this store and this reply. -/
structure Completes (s : Pairing.Challenges.State Digest B) (x : Nat)
    (s' : Pairing.Challenges.State Digest B) (pairings : Dict UUID (PairingRecord Digest))
    (store : B.Store) (reply : Except Raised Value) : Prop where
  pairings_eq : s'.pairings = pairings
  store_eq : s'.store = store
  lock_eq : s'.lock = .free
  calls_eq : ∃ call, s'.calls = Function.update s.calls x (some call) ∧ outcome call = some reply

variable {config} {s : Pairing.Challenges.State Digest B} {x : Nat}

theorem checked_eq_some {pairingId : UUID} {secret : String} {now : AwareDatetime}
    {pairings : Dict UUID (PairingRecord Digest)} {record : PairingRecord Digest}
    (h : (checked config pairingId secret now pairings).2 = some record) :
    pairings.lookup pairingId = some record ∧ ¬ record.expiresAt.instant ≤ now.instant ∧
      ¬ record.secretDigest ≠ config.digest secret := by
  unfold checked at h
  cases hfound : pairings.lookup pairingId with
  | none => simp [hfound] at h
  | some found =>
      simp only [hfound] at h
      split at h
      · cases h
      rename_i hfresh
      split at h
      · cases h
      rename_i hright
      obtain rfl : found = record := Option.some.inj h
      exact ⟨rfl, hfresh, hright⟩

theorem settle_of_idle {completed : B.Input}
    (h : Pairing.Challenges.step config s (.advance x completed) = none) (n : Nat) :
    settle config completed x n s = s := by
  cases n with
  | zero => rfl
  | succ n => rw [settle, h]

theorem settle_finished {completed : B.Input} {call : ClaimCall Digest B}
    {outcome : Except Raised (Option DeviceCredential)} (n : Nat) :
    settle config completed x n (finishClaim s x call outcome) = finishClaim s x call outcome := by
  apply settle_of_idle
  simp only [step, finishClaim, setCall, Function.update_self, advance]

def consumed (pairingId : UUID) (pairings : Dict UUID (PairingRecord Digest)) {α : Type} :
    Except Raised α → Dict UUID (PairingRecord Digest)
  | .ok _ => pairings.erase pairingId
  | .error _ => pairings

/-- A claim that is registering comes to its end when its registration does. -/
theorem settle_registering {completed : B.Input} {pairingId : UUID} {secret name : String}
    {registration : Registration Digest} {n : Nat} {stage : B.Stage} {store : B.Store}
    {result : Except Raised String}
    (hcall : s.calls x =
      some (.claim ⟨pairingId, secret, name, some registration, .registering stage⟩))
    (h : complete B completed n stage s.store = some (store, result)) :
    settle config completed x n s =
      finishClaim { s with store, pairings := consumed pairingId s.pairings result } x
        ⟨pairingId, secret, name, some registration, .registering stage⟩
        (result.map fun token => some ⟨registration.device, token⟩) := by
  induction n generalizing s stage with
  | zero => cases h
  | succ n ih =>
      have hstep : step config s (.advance x completed) = advance s x
          ⟨pairingId, secret, name, some registration, .registering stage⟩ completed := by
        simp only [step, hcall]
      rw [complete] at h
      rw [settle, hstep]
      simp only [advance]
      cases hresume : B.resume stage completed s.store with
      | none =>
          rw [hresume] at h
          cases h
      | some resumed =>
          obtain ⟨store', resumption⟩ := resumed
          rw [hresume] at h
          cases resumption with
          | suspended stage' =>
              simp only at h ⊢
              have hcall' : (setCall { s with store := store' } x (.claim
                  ⟨pairingId, secret, name, some registration, .registering stage'⟩)).calls x =
                some (.claim
                  ⟨pairingId, secret, name, some registration, .registering stage'⟩) := by
                simp [setCall]
              rw [ih hcall' h]
              simp [finishClaim, setCall]
          | returned token =>
              cases h
              exact settle_finished n
          | raised error =>
              cases h
              exact settle_finished n

omit [DecidableEq Digest] in
theorem finishClaim_completes {s' : Pairing.Challenges.State Digest B} {call : ClaimCall Digest B}
    {result : Except Raised (Option DeviceCredential)} {reply : Except Raised Value}
    (hlock : s'.lock = Lock.take x .free)
    (hcalls : ∀ last, Function.update s'.calls x last = Function.update s.calls x last)
    (hreply : outcome (B := B) (.claim { call with stage := .finished result }) = some reply) :
    Completes s x (finishClaim s' x call result) s'.pairings s'.store reply where
  pairings_eq := rfl
  store_eq := rfl
  lock_eq := by
    show s'.lock.release = .free
    rw [hlock]
    rfl
  calls_eq := ⟨_, hcalls _, hreply⟩

section Idle

variable (config) (completed : B.Input) (pairingId : UUID) (secret : String)
  (hlock : s.lock = .free) (hcall : s.calls x = none)

include hlock hcall

theorem runPairing_create (granted : Finset DeviceCapability) (ttl : Int) (clock : Datetime) :
    Completes s x
      (runPairing config completed x (.create x granted ttl pairingId secret clock) s)
      (created config x granted ttl pairingId secret clock s.pairings).1 s.store
      ((created config x granted ttl pairingId secret clock s.pairings).2.map .challenge) := by
  have hidle : ∀ call : CreateCall Digest, ∀ s', s'.calls x = some (.create call) →
      settle (B := B) config completed x 3 s' = s' := by
    intro call s' hs'
    apply settle_of_idle
    simp only [step, hs']
  simp only [runPairing, step, hcall, created]
  cases prepareCreate config x granted ttl pairingId secret clock with
  | error error =>
      have hrefused : settle config completed x 3 (setCall s x (.refused error)) =
          setCall s x (.refused error) := settle_of_idle (by simp [step, setCall]) 3
      simp only [hrefused]
      exact ⟨rfl, rfl, hlock, .refused error, rfl, rfl⟩
  | ok call =>
      have havailable : s.lock.available = true := by rw [hlock]; rfl
      simp only [enter, havailable, if_true, createSection]
      cases s.pairings.lookup call.challenge.id with
      | some record =>
          simp only
          rw [hidle _ _ (Function.update_self ..)]
          exact ⟨rfl, rfl, by rw [hlock]; rfl, _, rfl, rfl⟩
      | none =>
          simp only
          rw [hidle _ _ (Function.update_self ..)]
          exact ⟨rfl, rfl, by rw [hlock]; rfl, _, rfl, rfl⟩

variable (name : String) (setup : B.Setup) {clock : Datetime} {now : AwareDatetime}
  (hclock : B.readClock clock = .ok now)

include hclock

theorem runPairing_refused (h : (checked config pairingId secret now s.pairings).2 = none) :
    Completes s x (runPairing config completed x (.claim x pairingId secret name clock setup) s)
      (checked config pairingId secret now s.pairings).1 s.store
      (.error (.device .invalidPairing)) := by
  have havailable : s.lock.available = true := by rw [hlock]; rfl
  simp only [runPairing, step, hcall, enter, havailable, if_true, claimSection, hclock]
  rw [checked] at h ⊢
  cases hfound : s.pairings.lookup pairingId with
  | none =>
      simp only
      rw [settle_finished]
      exact finishClaim_completes (by rw [hlock]) (fun _ => rfl) rfl
  | some record =>
      simp only [hfound] at h ⊢
      split at h
      · rename_i hexpired
        rw [if_pos hexpired, if_pos hexpired, settle_finished]
        exact finishClaim_completes (by rw [hlock]) (fun _ => rfl) rfl
      · rename_i hfresh
        split at h
        · rename_i hwrong
          rw [if_neg hfresh, if_neg hfresh, if_pos hwrong, if_pos hwrong, settle_finished]
          exact finishClaim_completes (by rw [hlock]) (fun _ => rfl) rfl
        · cases h

theorem runPairing_register {record : PairingRecord Digest} {store : B.Store}
    {result : Except Raised DeviceCredential}
    (h : (checked config pairingId secret now s.pairings).2 = some record)
    (hregister : register B completed setup name record.grantedCapabilities now s.store =
      some (store, result)) :
    Completes s x (runPairing config completed x (.claim x pairingId secret name clock setup) s)
      (consumed pairingId s.pairings result) store (result.map .credential) := by
  have havailable : s.lock.available = true := by rw [hlock]; rfl
  obtain ⟨hfound, hfresh, hright⟩ := checked_eq_some h
  simp only [runPairing, step, hcall, enter, havailable, if_true, claimSection, hclock, hfound]
  rw [if_neg hfresh, if_neg hright]
  obtain ⟨⟨store', started⟩, hstart⟩ :
      ∃ r, B.start setup name record.grantedCapabilities now s.store = r := ⟨_, rfl⟩
  rw [register, hstart] at hregister
  rw [hstart]
  cases started with
  | error error =>
      cases hregister
      simp only [settle_finished]
      exact finishClaim_completes (by rw [hlock]) (fun _ => rfl) rfl
  | ok registering =>
      obtain ⟨device, stage⟩ := registering
      obtain ⟨⟨store'', token⟩, hcomplete, heq⟩ := Option.map_eq_some_iff.mp hregister
      cases heq
      simp only
      rw [settle_registering (Function.update_self ..) hcomplete]
      cases token with
      | error error => exact finishClaim_completes (by rw [hlock]; rfl) (by simp [setCall]) rfl
      | ok token => exact finishClaim_completes (by rw [hlock]; rfl) (by simp [setCall]) rfl

end Idle

end JarvisCore.Service.SequentialPairing
