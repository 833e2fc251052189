import JarvisCore.Pairing.Challenges

namespace JarvisCore.Pairing.Contract

open JarvisCore.Domain.Values
open JarvisCore.Domain.Errors
open JarvisCore.Domain.Models
open JarvisCore.Foundation.AsyncIO
open JarvisCore.Foundation.Dictionary
open JarvisCore.Foundation.TransitionSystem
open JarvisCore.Pairing.Challenges

variable {Digest : Type} {B : Backend}

def Waits (call : PairingCall Digest B) : Prop := ∃ cancelled, waitingCancelled call = some cancelled

/-- What `prepareCreate` and `claim` put into the calls they start. -/
def WellMade [DecidableEq Digest] (config : Config Digest) (x : Nat) :
    PairingCall Digest B → Prop
  | .refused _ => True
  | .create call =>
      call.record.challenge = x ∧ call.record.failedAttempts = 0 ∧
        call.record.secretDigest = config.digest call.challenge.secret ∧
        call.record.grantedCapabilities = call.challenge.grantedCapabilities ∧
        call.record.expiresAt = call.challenge.expiresAt
  | .claim call => (∃ cancelled, call.stage = .waitingForLock cancelled) → call.registration = none

theorem createSection_cases (s : State Digest B) (x : Nat) (call : CreateCall Digest) :
    (∃ record, s.pairings.lookup call.challenge.id = some record ∧ createSection s x call =
      (finishCreate s x call (.error (.runtimeError "pairing identifier collision")),
        [.collided x call.challenge.id])) ∨
    (s.pairings.lookup call.challenge.id = none ∧ createSection s x call =
      (finishCreate { s with pairings := s.pairings.insert call.challenge.id call.record } x call
          (.ok call.challenge),
        [.created x call.challenge call.record])) := by
  unfold createSection
  cases h : s.pairings.lookup call.challenge.id with
  | some record => exact .inl ⟨record, rfl, rfl⟩
  | none => exact .inr ⟨rfl, rfl⟩

variable [DecidableEq Digest] {config : Config Digest}

/-- The ways in which a claim leaves its critical section or suspends in it. -/
inductive ClaimSection (config : Config Digest) (s : State Digest B) (x : Nat)
    (call : ClaimCall Digest B) : Result Digest B → Prop
  | unknown : s.pairings.lookup call.pairingId = none →
      ClaimSection config s x call (finishClaim s x call (.ok none), [])
  | unread (error : Raised) : ClaimSection config s x call (finishClaim s x call (.error error), [])
  | expired (record : PairingRecord Digest) (now : AwareDatetime) :
      s.pairings.lookup call.pairingId = some record →
      record.expiresAt.instant ≤ now.instant →
      ClaimSection config s x call
        (finishClaim { s with pairings := s.pairings.erase call.pairingId } x call (.ok none),
          [.checked x record.challenge call.secret now .expired])
  | wrong (record : PairingRecord Digest) (now : AwareDatetime) :
      s.pairings.lookup call.pairingId = some record →
      now.instant < record.expiresAt.instant → record.secretDigest ≠ config.digest call.secret →
      ClaimSection config s x call
        (finishClaim { s with pairings := countFailure config call.pairingId record s.pairings }
            x call (.ok none),
          [.checked x record.challenge call.secret now .wrongSecret])
  | failed (record : PairingRecord Digest) (now : AwareDatetime) (store : B.Store)
      (error : Raised) :
      s.pairings.lookup call.pairingId = some record →
      (∃ setup, B.start setup call.deviceName record.grantedCapabilities now s.store =
        (store, .error error)) →
      ClaimSection config s x call
        (finishClaim { s with store } x call (.error error),
          [.checked x record.challenge call.secret now .rightSecret])
  | registers (record : PairingRecord Digest) (now : AwareDatetime) (store : B.Store)
      (device : Device) (stage : B.Stage) :
      s.pairings.lookup call.pairingId = some record →
      now.instant < record.expiresAt.instant → record.secretDigest = config.digest call.secret →
      device.grantedCapabilities = record.grantedCapabilities →
      (∃ setup, B.start setup call.deviceName record.grantedCapabilities now s.store =
        (store, .ok (device, stage))) →
      ClaimSection config s x call
        (setCall { s with store } x (.claim
            { call with registration := some ⟨record, now, device⟩, stage := .registering stage }),
          [.checked x record.challenge call.secret now .rightSecret])

theorem claimSection_cases (s : State Digest B) (x : Nat) (call : ClaimCall Digest B)
    (clock : Datetime) (setup : B.Setup) :
    ClaimSection config s x call (claimSection config s x call clock setup) := by
  unfold claimSection
  cases hrecord : s.pairings.lookup call.pairingId with
  | none => exact .unknown hrecord
  | some record =>
      dsimp only
      cases B.readClock clock with
      | error error => exact .unread error
      | ok now =>
          dsimp only
          split
          · rename_i hexpired
            exact .expired record now hrecord hexpired
          · rename_i hexpired
            have htime : now.instant < record.expiresAt.instant := by omega
            split
            · rename_i hsecret
              exact .wrong record now hrecord htime hsecret
            · rename_i hsecret
              split
              · rename_i store error hstart
                exact .failed record now store error hrecord ⟨setup, hstart⟩
              · rename_i store device stage hstart
                exact .registers record now store device stage hrecord htime
                  (not_not.mp hsecret) (B.start_granted _ _ _ _ _ _ _ _ hstart) ⟨setup, hstart⟩

inductive Advance (s : State Digest B) (x : Nat) (call : ClaimCall Digest B) (stage : B.Stage)
    (registration : Registration Digest) (input : B.Input) : Result Digest B → Prop
  | suspends (store : B.Store) (next : B.Stage) :
      B.resume stage input s.store = some (store, .suspended next) →
      Advance s x call stage registration input
        (setCall { s with store } x (.claim { call with stage := .registering next }), [])
  | raises (store : B.Store) (error : Raised) :
      B.resume stage input s.store = some (store, .raised error) →
      Advance s x call stage registration input
        (finishClaim { s with store } x call (.error error), [])
  | returns (store : B.Store) (token : String) :
      B.resume stage input s.store = some (store, .returned token) →
      Advance s x call stage registration input
        (finishClaim { s with store, pairings := s.pairings.erase call.pairingId } x call
            (.ok (some ⟨registration.device, token⟩)),
          [.claimed x registration.record.challenge ⟨registration.device, token⟩])

omit [DecidableEq Digest] in
theorem advance_cases {s : State Digest B} {x : Nat} {call : ClaimCall Digest B}
    {input : B.Input} {r : Result Digest B} (h : advance s x call input = some r) :
    ∃ stage registration, call.stage = .registering stage ∧
      call.registration = some registration ∧
      Advance s x call stage registration input r := by
  unfold advance at h
  split at h
  · rename_i stage registration hstage hregistration
    refine ⟨stage, registration, hstage, hregistration, ?_⟩
    split at h
    · cases h
    · rename_i hresume
      cases h
      exact .suspends _ _ hresume
    · rename_i hresume
      cases h
      exact .raises _ _ hresume
    · rename_i hresume
      cases h
      exact .returns _ _ hresume
  · cases h

inductive Effect (config : Config Digest) (s : State Digest B) (x : Nat) :
    Result Digest B → Prop
  /-- The call starts to wait, is asked to stop waiting, or raises without having
  been in the critical section. -/
  | quiet (t : State Digest B) (call : PairingCall Digest B) :
      t.calls = Function.update s.calls x (some call) → t.pairings = s.pairings →
      t.store = s.store → t.lock.owner = s.lock.owner → t.lock.WellFormed →
      (s.calls x = none ∨ ∃ old, s.calls x = some old ∧ Waits old) →
      (WellMade config x call) → (Waits call ∨ (∃ error, call = .refused error) ∨
        (∃ cc, call = .create cc ∧ cc.stage = .finished (.error .cancelled)) ∨
        ∃ cc, call = .claim cc ∧ cc.stage = .finished (.error .cancelled) ∧
          cc.registration = none) →
      Effect config s x (t, [])
  | creates (lock : Lock Nat) (call : CreateCall Digest) :
      s.lock.owner = none → lock.owner = some x → lock.WellFormed →
      (s.calls x = none ∨ s.calls x = some (.create call)) →
      WellMade config x (.create call : PairingCall Digest B) →
      Waits (.create call : PairingCall Digest B) →
      Effect config s x (createSection { s with lock } x call)
  | claims (lock : Lock Nat) (call : ClaimCall Digest B) (r : Result Digest B) :
      s.lock.owner = none → lock.owner = some x → lock.WellFormed →
      (s.calls x = none ∨ s.calls x = some (.claim call)) →
      WellMade config x (.claim call) → Waits (.claim call) →
      ClaimSection config { s with lock } x call r → Effect config s x r
  | advances (call : ClaimCall Digest B) (stage : B.Stage) (registration : Registration Digest)
      (input : B.Input) (r : Result Digest B) :
      s.calls x = some (.claim call) → call.stage = .registering stage →
      call.registration = some registration →
      Advance s x call stage registration input r → Effect config s x r

theorem prepareCreate_wellMade {x : Nat} {granted : Finset DeviceCapability} {ttl : Int}
    {pairingId : UUID} {secret : String} {clock : Datetime} {call : CreateCall Digest}
    (h : prepareCreate config x granted ttl pairingId secret clock = .ok call) :
    WellMade config x (.create call : PairingCall Digest B) ∧
      call.stage = .waitingForLock false := by
  unfold prepareCreate at h
  split at h
  · cases h
  split at h
  · cases h
  split at h
  · cases h
  · cases h
    exact ⟨⟨rfl, rfl, rfl, rfl, rfl⟩, rfl⟩

omit [DecidableEq Digest] in
theorem waits_create {call : CreateCall Digest} {cancelled : Bool}
    (h : call.stage = .waitingForLock cancelled) :
    Waits (.create call : PairingCall Digest B) := by
  obtain ⟨challenge, record, stage⟩ := call
  obtain rfl := h
  exact ⟨cancelled, rfl⟩

omit [DecidableEq Digest] in
theorem waits_claim {call : ClaimCall Digest B} {cancelled : Bool}
    (h : call.stage = .waitingForLock cancelled) : Waits (.claim call) := by
  obtain ⟨pairingId, secret, name, registration, stage⟩ := call
  obtain rfl := h
  exact ⟨cancelled, rfl⟩

omit [DecidableEq Digest] in
theorem stage_of_waits {call : ClaimCall Digest B} (h : Waits (.claim call)) :
    ∃ cancelled, call.stage = .waitingForLock cancelled := by
  obtain ⟨pairingId, secret, name, registration, stage⟩ := call
  obtain ⟨cancelled, h⟩ := h
  cases stage with
  | waitingForLock c => exact ⟨c, rfl⟩
  | registering | finished => cases h

omit [DecidableEq Digest] in
theorem waits_requestCancel {call : PairingCall Digest B} (h : Waits call) :
    Waits (requestCancel call) := by
  obtain ⟨cancelled, h⟩ := h
  cases call with
  | refused => cases h
  | create call => exact ⟨true, rfl⟩
  | claim call => exact ⟨true, rfl⟩

theorem WellMade.requestCancel {x : Nat} {call : PairingCall Digest B}
    (hwaits : Waits call) (h : WellMade config x call) :
    WellMade config x (requestCancel call) := by
  cases call with
  | refused => trivial
  | create call => exact h
  | claim call => exact fun _ => h (stage_of_waits hwaits)

theorem enter_effect {s : State Digest B} {x : Nat} {call : PairingCall Digest B}
    {locked : State Digest B → Result Digest B} (hlock : s.lock.WellFormed)
    (hfresh : s.calls x = none) (hmade : WellMade config x call) (hwaits : Waits call)
    (hlocked : ∀ lock : Lock Nat, s.lock.owner = none → lock.owner = some x → lock.WellFormed →
      Effect config s x (locked { s with lock })) :
    Effect config s x (enter s x call locked) := by
  unfold enter
  split
  · rename_i havailable
    exact hlocked _ (Lock.owner_of_available havailable) rfl (hlock.take havailable x)
  · exact .quiet _ call rfl rfl rfl rfl (hlock.enqueue x) (.inl hfresh) hmade (.inl hwaits)

theorem abandon_effect {s : State Digest B} {x : Nat} {call : PairingCall Digest B}
    (hlock : s.lock.WellFormed) (hcall : s.calls x = some call) (hmade : WellMade config x call)
    (hwaits : Waits call) : Effect config s x (abandon s x call, []) := by
  have hold : s.calls x = none ∨ ∃ old, s.calls x = some old ∧ Waits old :=
    .inr ⟨call, hcall, hwaits⟩
  cases call with
  | refused => exact absurd hwaits (by rintro ⟨_, h⟩; cases h)
  | create call =>
      exact .quiet _ (.create { call with stage := .finished (.error .cancelled) }) rfl rfl rfl
        (Lock.owner_abandon x s.lock) (hlock.abandon x) hold hmade
        (.inr (.inr (.inl ⟨_, rfl, rfl⟩)))
  | claim call =>
      refine .quiet _ (.claim { call with stage := .finished (.error .cancelled) }) rfl rfl rfl
        (Lock.owner_abandon x s.lock) (hlock.abandon x) hold ?_
        (.inr (.inr (.inr ⟨_, rfl, rfl, hmade (stage_of_waits hwaits)⟩)))
      rintro ⟨cancelled, hstage⟩
      cases hstage

theorem resumeLock_effect {s : State Digest B} {x : Nat} {call : PairingCall Digest B}
    {clock : Datetime} {setup : B.Setup} {r : Result Digest B} (hlock : s.lock.WellFormed)
    (hcall : s.calls x = some call) (hmade : WellMade config x call)
    (h : resumeLock config s x call clock setup = some r) : Effect config s x r := by
  unfold resumeLock at h
  split at h
  · rename_i hwaiting hwoken
    have hwaits : Waits call := ⟨_, hwaiting⟩
    have hfree := hlock.owner_of_woken hwoken
    cases h
    cases call with
    | refused => cases hwaiting
    | create call =>
        exact .creates _ call hfree rfl (hlock.grant hwoken) (.inr hcall) hmade hwaits
    | claim call =>
        exact .claims _ call _ hfree rfl (hlock.grant hwoken) (.inr hcall) hmade hwaits
          (claimSection_cases _ x call clock setup)
  · rename_i hwaiting _
    cases h
    exact abandon_effect hlock hcall hmade ⟨_, hwaiting⟩
  · rename_i hwaiting _
    cases h
    exact abandon_effect hlock hcall hmade ⟨_, hwaiting⟩
  · cases h

theorem step_effect {s : State Digest B} {action : Action B} {r : Result Digest B}
    (hlock : s.lock.WellFormed) (hcalls : ∀ x call, s.calls x = some call → WellMade config x call)
    (h : step config s action = some r) : Effect config s (actor action) r := by
  cases action with
  | create x granted ttl pairingId secret clock =>
      simp only [step] at h
      split at h
      · cases h
      rename_i hfresh
      split at h
      · rename_i error _
        cases h
        exact .quiet _ (.refused error) rfl rfl rfl rfl hlock (.inl hfresh) trivial
          (.inr (.inl ⟨error, rfl⟩))
      · rename_i call hcall
        cases h
        obtain ⟨hmade, hstage⟩ := prepareCreate_wellMade (B := B) hcall
        refine enter_effect hlock hfresh hmade (waits_create hstage) ?_
        intro lock hfree howner hwell
        exact .creates lock call hfree howner hwell (.inl hfresh) hmade (waits_create hstage)
  | claim x pairingId secret deviceName clock setup =>
      simp only [step] at h
      split at h
      · cases h
      rename_i hfresh
      cases h
      refine enter_effect hlock hfresh (fun _ => rfl) (waits_claim rfl) ?_
      intro lock hfree howner hwell
      exact .claims lock _ _ hfree howner hwell (.inl hfresh) (fun _ => rfl) (waits_claim rfl)
        (claimSection_cases _ x _ clock setup)
  | resumeLock x clock setup =>
      simp only [step] at h
      split at h
      · rename_i call hcall
        exact resumeLock_effect hlock hcall (hcalls x call hcall) h
      · cases h
  | cancelWaiting x =>
      simp only [step] at h
      split at h
      · rename_i call hcall
        unfold cancelWaiting at h
        split at h
        · rename_i cancelled hwaiting
          have hwaits : Waits call := ⟨cancelled, hwaiting⟩
          cases h
          exact .quiet _ (requestCancel call) rfl rfl rfl rfl (hlock.cancelWaiter x)
            (.inr ⟨call, hcall, hwaits⟩) ((hcalls x call hcall).requestCancel hwaits)
            (.inl (waits_requestCancel hwaits))
        · cases h
      · cases h
  | advance x input =>
      simp only [step] at h
      split at h
      · rename_i call hcall
        obtain ⟨stage, registration, hstage, hregistration, hadvance⟩ := advance_cases h
        exact .advances call stage registration input r hcall hstage hregistration hadvance
      · cases h

/-- Only an answer of the environment moves a claim that registers its device. -/
theorem step_registering {s : State Digest B} {action : Action B} {r : Result Digest B}
    {call : ClaimCall Digest B} {stage : B.Stage} (h : step config s action = some r)
    (hcall : s.calls (actor action) = some (.claim call)) (hstage : call.stage = .registering stage) :
    ∃ input registration, action = .advance (actor action) input ∧
      call.registration = some registration ∧
      Advance s (actor action) call stage registration input r := by
  have hwaiting : waitingCancelled (.claim call) = none := by
    obtain ⟨pairingId, secret, name, registration, stage⟩ := call
    obtain rfl := hstage
    rfl
  cases action with
  | create x granted ttl pairingId secret clock =>
      simp only [actor] at hcall
      simp only [step, hcall] at h
      cases h
  | claim x pairingId secret deviceName clock setup =>
      simp only [actor] at hcall
      simp only [step, hcall] at h
      cases h
  | resumeLock x clock setup =>
      simp only [actor] at hcall
      simp only [step, hcall, resumeLock, hwaiting] at h
      cases h
  | cancelWaiting x =>
      simp only [actor] at hcall
      simp only [step, hcall, cancelWaiting, hwaiting] at h
      cases h
  | advance x input =>
      simp only [actor] at hcall
      simp only [step, hcall] at h
      obtain ⟨stage', registration, hstage', hregistration, hadvance⟩ := advance_cases h
      obtain rfl : stage' = stage := by simpa [hstage'] using hstage
      exact ⟨input, registration, rfl, hregistration, hadvance⟩

def Succeeded : PairingCall Digest B → Prop
  | .refused _ => False
  | .create call => ∃ challenge, call.stage = .finished (.ok challenge)
  | .claim call => ∃ credential, call.stage = .finished (.ok credential)

omit [DecidableEq Digest] in
theorem Waits.not_succeeded {call : PairingCall Digest B} (h : Waits call) : ¬ Succeeded call := by
  obtain ⟨cancelled, h⟩ := h
  cases call with
  | refused => exact id
  | create call =>
      obtain ⟨challenge, record, stage⟩ := call
      rintro ⟨result, rfl⟩
      cases h
  | claim call =>
      obtain ⟨pairingId, secret, name, registration, stage⟩ := call
      rintro ⟨result, rfl⟩
      cases h

def about : Event Digest → Option Nat
  | .checked _ challenge _ _ _ | .claimed _ challenge _ => some challenge
  | _ => none

def isWrongAttempt (challenge : Nat) : Event Digest → Bool
  | .checked _ c _ _ .wrongSecret => c = challenge
  | _ => false

/-- How often a wrong secret was presented in time. -/
def wrongAttempts (challenge : Nat) (log : List (Event Digest)) : Nat :=
  log.countP (isWrongAttempt challenge)

def Claims (challenge : Nat) (e : Event Digest) : Prop :=
  ∃ call credential, e = .claimed call challenge credential

def Expires (challenge : Nat) (e : Event Digest) : Prop :=
  ∃ call secret now, e = .checked call challenge secret now .expired

/-- What precedes a successful claim. The log lists the events, the latest one first. -/
structure ClaimOk (config : Config Digest) (log : List (Event Digest)) (call challenge : Nat)
    (credential : DeviceCredential) : Prop where
  unclaimed : ∀ e ∈ log, ¬ Claims challenge e
  unexpired : ∀ e ∈ log, ¬ Expires challenge e
  attempts : wrongAttempts challenge log < config.maxClaimAttempts
  presented : ∃ created record secret now, .created challenge created record ∈ log ∧
    .checked call challenge secret now .rightSecret ∈ log ∧
    record.secretDigest = config.digest created.secret ∧
    config.digest secret = config.digest created.secret ∧
    now.instant < created.expiresAt.instant ∧
    credential.device.grantedCapabilities = created.grantedCapabilities

/-- An entry of the map has had no success and no observed expiry, and counts the
wrong secrets. -/
structure Live (config : Config Digest) (log : List (Event Digest)) (id : UUID)
    (record : PairingRecord Digest) : Prop where
  created : ∃ challenge, challenge.id = id ∧
    .created record.challenge challenge { record with failedAttempts := 0 } ∈ log
  counted : record.failedAttempts = wrongAttempts record.challenge log
  attempts : record.failedAttempts < config.maxClaimAttempts
  unclaimed : ∀ e ∈ log, ¬ Claims record.challenge e
  unexpired : ∀ e ∈ log, ¬ Expires record.challenge e

/-- What a claim in the middle of its registration has checked. -/
structure Admitted (config : Config Digest) (log : List (Event Digest)) (x : Nat)
    (secret : String) (registration : Registration Digest) : Prop where
  checked : .checked x registration.record.challenge secret registration.now .rightSecret ∈ log
  secret : registration.record.secretDigest = config.digest secret
  inTime : registration.now.instant < registration.record.expiresAt.instant
  granted : registration.device.grantedCapabilities = registration.record.grantedCapabilities

/-- The invariant that ties the challenges and the calls to the log. -/
structure Inv (config : Config Digest) (log : List (Event Digest)) (s : State Digest B) :
    Prop where
  lock : s.lock.WellFormed
  calls : ∀ x call, s.calls x = some call → WellMade config x call
  created : ∀ x challenge record, .created x challenge record ∈ log → ∃ call,
    s.calls x = some (.create call) ∧ call.stage = .finished (.ok challenge) ∧
      call.challenge = challenge ∧ call.record = record
  known : ∀ e ∈ log, ∀ c, about e = some c → ∃ challenge record, .created c challenge record ∈ log
  records : ∀ id record, s.pairings.lookup id = some record → Live config log id record
  registering : ∀ x call stage, s.calls x = some (.claim call) → call.stage = .registering stage →
    s.lock.owner = some x ∧ ∃ registration, call.registration = some registration ∧
      s.pairings.lookup call.pairingId = some registration.record ∧
      Admitted config log x call.secret registration
  returned : ∀ x call credential, s.calls x = some (.claim call) →
    call.stage = .finished (.ok (some credential)) → ∃ c, .claimed x c credential ∈ log ∧
      ∃ challenge record, .created c challenge record ∈ log ∧ challenge.id = call.pairingId
  claims : ∀ newer older x c credential, log = newer ++ .claimed x c credential :: older →
    ClaimOk config older x c credential

omit [DecidableEq Digest] in
theorem Live.cons {log : List (Event Digest)} {id : UUID} {record : PairingRecord Digest}
    {e : Event Digest} (h : Live config log id record)
    (hwrong : isWrongAttempt record.challenge e = false) (hclaims : ¬ Claims record.challenge e)
    (hexpires : ¬ Expires record.challenge e) : Live config (e :: log) id record where
  created := by
    obtain ⟨challenge, hid, hmem⟩ := h.created
    exact ⟨challenge, hid, List.mem_cons_of_mem _ hmem⟩
  counted := by
    rw [h.counted, wrongAttempts, wrongAttempts, List.countP_cons_of_neg (by simp [hwrong])]
  attempts := h.attempts
  unclaimed := by
    intro e' he'
    rcases List.mem_cons.mp he' with rfl | he'
    · exact hclaims
    · exact h.unclaimed e' he'
  unexpired := by
    intro e' he'
    rcases List.mem_cons.mp he' with rfl | he'
    · exact hexpires
    · exact h.unexpired e' he'

omit [DecidableEq Digest] in
theorem isWrongAttempt_of_ne {challenge : Nat} {e : Event Digest}
    (hne : about e ≠ some challenge) : isWrongAttempt challenge e = false := by
  cases e with
  | checked call c secret now verdict =>
      cases verdict with
      | wrongSecret =>
          simp only [isWrongAttempt, decide_eq_false_iff_not]
          rintro rfl
          exact hne rfl
      | expired | rightSecret => rfl
  | created | collided | claimed => rfl

omit [DecidableEq Digest] in
theorem Live.cons_of_ne {log : List (Event Digest)} {id : UUID} {record : PairingRecord Digest}
    {e : Event Digest} (h : Live config log id record) (hne : about e ≠ some record.challenge) :
    Live config (e :: log) id record := by
  refine h.cons (isWrongAttempt_of_ne hne) ?_ ?_
  · rintro ⟨call, credential, rfl⟩
    exact hne rfl
  · rintro ⟨call, secret, now, rfl⟩
    exact hne rfl

omit [DecidableEq Digest] in
theorem Live.fresh {log : List (Event Digest)} {challenge : DevicePairingChallenge}
    {record : PairingRecord Digest} (hattempts : record.failedAttempts = 0)
    (hsilent : ∀ e ∈ log, about e ≠ some record.challenge) :
    Live config (.created record.challenge challenge record :: log) challenge.id record where
  created := by
    have hsame : { record with failedAttempts := 0 } = record := by rw [← hattempts]
    exact ⟨challenge, rfl, hsame ▸ List.mem_cons_self⟩
  counted := by
    rw [hattempts]
    symm
    refine List.countP_eq_zero.mpr ?_
    intro e he
    rcases List.mem_cons.mp he with rfl | he
    · simp [isWrongAttempt]
    · simp [isWrongAttempt_of_ne (hsilent e he)]
  attempts := by
    rw [hattempts]
    exact config.attempts_positive
  unclaimed := by
    rintro e he ⟨c, credential, rfl⟩
    rcases List.mem_cons.mp he with he | he
    · cases he
    · exact hsilent _ he rfl
  unexpired := by
    rintro e he ⟨c, secret, now, rfl⟩
    rcases List.mem_cons.mp he with he | he
    · cases he
    · exact hsilent _ he rfl

omit [DecidableEq Digest] in
theorem Live.counts {log : List (Event Digest)} {id : UUID} {record : PairingRecord Digest}
    (h : Live config log id record)
    (hattempts : record.failedAttempts + 1 < config.maxClaimAttempts) (x : Nat) (secret : String)
    (now : AwareDatetime) :
    Live config (.checked x record.challenge secret now .wrongSecret :: log) id
      { record with failedAttempts := record.failedAttempts + 1 } where
  created := by
    obtain ⟨challenge, hchallenge, hmem⟩ := h.created
    exact ⟨challenge, hchallenge, List.mem_cons_of_mem _ hmem⟩
  counted := by
    show record.failedAttempts + 1 = wrongAttempts record.challenge (_ :: log)
    rw [wrongAttempts, List.countP_cons_of_pos (by simp [isWrongAttempt]), h.counted]
    rfl
  attempts := hattempts
  unclaimed := by
    rintro e he ⟨c, credential, rfl⟩
    rcases List.mem_cons.mp he with he | he
    · cases he
    · exact h.unclaimed _ he ⟨c, credential, rfl⟩
  unexpired := by
    rintro e he ⟨c, secret, now', rfl⟩
    rcases List.mem_cons.mp he with he | he
    · cases he
    · exact h.unexpired _ he ⟨c, secret, now', rfl⟩

omit [DecidableEq Digest] in
theorem Admitted.mono {log log' : List (Event Digest)} {x : Nat} {secret : String}
    {registration : Registration Digest} (h : Admitted config log x secret registration)
    (hsub : ∀ e ∈ log, e ∈ log') : Admitted config log' x secret registration :=
  ⟨hsub _ h.checked, h.secret, h.inTime, h.granted⟩

namespace Inv

variable {log : List (Event Digest)} {s : State Digest B}

theorem id_eq (hinv : Inv config log s) {id id' : UUID} {record record' : PairingRecord Digest}
    (h : s.pairings.lookup id = some record) (h' : s.pairings.lookup id' = some record')
    (hsame : record.challenge = record'.challenge) : id = id' := by
  obtain ⟨challenge, rfl, hmem⟩ := (hinv.records id record h).created
  obtain ⟨challenge', rfl, hmem'⟩ := (hinv.records id' record' h').created
  obtain ⟨call, hcall, -, hchallenge, -⟩ := hinv.created _ _ _ hmem
  obtain ⟨call', hcall', -, hchallenge', -⟩ := hinv.created _ _ _ hmem'
  rw [hsame, hcall'] at hcall
  obtain rfl : call' = call := by simpa using hcall
  rw [← hchallenge, ← hchallenge']

theorem not_created (hinv : Inv config log s) {x : Nat}
    (hx : s.calls x = none ∨ (∃ old, s.calls x = some old ∧ Waits old) ∨
      ∃ call, s.calls x = some (.claim call)) (challenge : DevicePairingChallenge)
    (record : PairingRecord Digest) : .created x challenge record ∉ log := by
  intro hmem
  obtain ⟨call, hcall, hstage, -⟩ := hinv.created x challenge record hmem
  rcases hx with hx | ⟨old, hx, cancelled, hwaits⟩ | ⟨claim, hx⟩
  · rw [hx] at hcall
    cases hcall
  · rw [hcall] at hx
    cases hx
    obtain ⟨c, r, stage⟩ := call
    obtain rfl := hstage
    cases hwaits
  · rw [hcall] at hx
    cases hx

theorem claims_cons (hinv : Inv config log s) {e : Event Digest}
    (he : ∀ call challenge credential, e ≠ .claimed call challenge credential) :
    ∀ newer older x c credential, e :: log = newer ++ .claimed x c credential :: older →
      ClaimOk config older x c credential := by
  intro newer older x c credential hlog
  cases newer with
  | nil =>
      obtain ⟨rfl, -⟩ := List.cons.inj hlog
      exact absurd rfl (he x c credential)
  | cons first newer => exact hinv.claims newer older x c credential (List.cons.inj hlog).2

/-- The part of the preservation that all effects share: what becomes of the calls
other than `x`, and of the log. -/
theorem extend (hinv : Inv config log s) {t : State Digest B} {x : Nat}
    {call : PairingCall Digest B} (events : List (Event Digest))
    (hcalls : t.calls = Function.update s.calls x (some call)) (hmade : WellMade config x call)
    (hlock : t.lock.WellFormed)
    (hnot : ∀ challenge record, .created x challenge record ∉ log)
    (hcreated : ∀ y challenge record, .created y challenge record ∈ events → y = x ∧
      ∃ cc, call = .create cc ∧ cc.stage = .finished (.ok challenge) ∧ cc.challenge = challenge ∧
        cc.record = record)
    (hknown : ∀ e ∈ events, ∀ c, about e = some c → ∃ challenge record,
      .created c challenge record ∈ log)
    (hrecords : ∀ id record, t.pairings.lookup id = some record →
      Live config (events ++ log) id record)
    (hothers : ∀ y, y ≠ x → s.lock.owner = some y →
      t.lock.owner = some y ∧ t.pairings = s.pairings)
    (hregistering : ∀ cc stage, call = .claim cc → cc.stage = .registering stage →
      t.lock.owner = some x ∧ ∃ registration, cc.registration = some registration ∧
        t.pairings.lookup cc.pairingId = some registration.record ∧
        Admitted config (events ++ log) x cc.secret registration)
    (hreturned : ∀ cc credential, call = .claim cc →
      cc.stage = .finished (.ok (some credential)) →
      ∃ c, .claimed x c credential ∈ events ++ log ∧
        ∃ challenge record, .created c challenge record ∈ log ∧ challenge.id = cc.pairingId)
    (hclaims : ∀ newer older y c credential,
      events ++ log = newer ++ .claimed y c credential :: older →
        ClaimOk config older y c credential) : Inv config (events ++ log) t := by
  have hself : t.calls x = some call := by
    rw [hcalls]
    exact Function.update_self _ _ _
  have hother (y : Nat) (hy : y ≠ x) : t.calls y = s.calls y := by
    rw [hcalls]
    exact Function.update_of_ne hy _ _
  have hsub (e : Event Digest) (he : e ∈ log) : e ∈ events ++ log :=
    List.mem_append_right events he
  refine ⟨hlock, ?_, ?_, ?_, hrecords, ?_, ?_, hclaims⟩
  · intro y known hy
    by_cases hyx : y = x
    · subst hyx
      rw [hself] at hy
      cases hy
      exact hmade
    · exact hinv.calls y known (hother y hyx ▸ hy)
  · intro y challenge record hmem
    rcases List.mem_append.mp hmem with hmem | hmem
    · obtain ⟨rfl, cc, rfl, hstage, hchallenge, hrecord⟩ := hcreated y challenge record hmem
      exact ⟨cc, hself, hstage, hchallenge, hrecord⟩
    · have hyx : y ≠ x := by
        rintro rfl
        exact hnot challenge record hmem
      rw [hother y hyx]
      exact hinv.created y challenge record hmem
  · intro e he c hc
    have hold : ∃ challenge record, .created c challenge record ∈ log := by
      rcases List.mem_append.mp he with he | he
      · exact hknown e he c hc
      · exact hinv.known e he c hc
    obtain ⟨challenge, record, hmem⟩ := hold
    exact ⟨challenge, record, hsub _ hmem⟩
  · intro y cc stage hy hstage
    by_cases hyx : y = x
    · subst hyx
      rw [hself] at hy
      cases hy
      exact hregistering cc stage rfl hstage
    · rw [hother y hyx] at hy
      obtain ⟨howner, registration, hregistration, hlookup, hadmitted⟩ :=
        hinv.registering y cc stage hy hstage
      obtain ⟨howner', hpairings⟩ := hothers y hyx howner
      exact ⟨howner', registration, hregistration, by rw [hpairings]; exact hlookup,
        hadmitted.mono hsub⟩
  · intro y cc credential hy hstage
    by_cases hyx : y = x
    · subst hyx
      rw [hself] at hy
      cases hy
      obtain ⟨c, hclaimed, challenge, record, hmem, hid⟩ := hreturned cc credential rfl hstage
      exact ⟨c, hclaimed, challenge, record, hsub _ hmem, hid⟩
    · rw [hother y hyx] at hy
      obtain ⟨c, hclaimed, challenge, record, hmem, hid⟩ := hinv.returned y cc credential hy hstage
      exact ⟨c, hsub _ hclaimed, challenge, record, hsub _ hmem, hid⟩

theorem quiet (hinv : Inv config log s) {t : State Digest B} {x : Nat}
    {call : PairingCall Digest B} (hcalls : t.calls = Function.update s.calls x (some call))
    (hpairings : t.pairings = s.pairings) (howner : t.lock.owner = s.lock.owner)
    (hlock : t.lock.WellFormed)
    (hold : s.calls x = none ∨ ∃ old, s.calls x = some old ∧ Waits old)
    (hmade : WellMade config x call)
    (hstage : Waits call ∨ (∃ error, call = .refused error) ∨
      (∃ cc, call = .create cc ∧ cc.stage = .finished (.error .cancelled)) ∨
        ∃ cc, call = .claim cc ∧ cc.stage = .finished (.error .cancelled) ∧
          cc.registration = none) :
    Inv config log t := by
  refine hinv.extend [] hcalls hmade hlock
    (hinv.not_created (hold.imp_right .inl)) (by simp) (by simp) ?_ ?_ ?_ ?_ hinv.claims
  · intro id record hlookup
    rw [hpairings] at hlookup
    exact hinv.records id record hlookup
  · intro y _ hy
    exact ⟨howner.trans hy, hpairings⟩
  · rintro cc stage rfl hregistering
    exfalso
    rcases hstage with hwaits | ⟨error, h⟩ | ⟨cc', h, -⟩ | ⟨cc', h, hfinished, -⟩
    · obtain ⟨cancelled, hwaits⟩ := stage_of_waits hwaits
      rw [hregistering] at hwaits
      cases hwaits
    · cases h
    · cases h
    · cases h
      rw [hregistering] at hfinished
      cases hfinished
  · rintro cc credential rfl hreturned
    exfalso
    rcases hstage with hwaits | ⟨error, h⟩ | ⟨cc', h, -⟩ | ⟨cc', h, hfinished, -⟩
    · obtain ⟨cancelled, hwaits⟩ := stage_of_waits hwaits
      rw [hreturned] at hwaits
      cases hwaits
    · cases h
    · cases h
    · cases h
      rw [hreturned] at hfinished
      cases hfinished

theorem creates (hinv : Inv config log s) {x : Nat} {lock : Lock Nat} {call : CreateCall Digest}
    (hfree : s.lock.owner = none) (hlock : lock.WellFormed)
    (hold : s.calls x = none ∨ s.calls x = some (.create call))
    (hmade : WellMade config x (.create call : PairingCall Digest B))
    (hwaits : Waits (.create call : PairingCall Digest B)) :
    Inv config ((createSection { s with lock } x call).2 ++ log)
      (createSection { s with lock } x call).1 := by
  have hnot := hinv.not_created (x := x)
    (hold.imp_right fun h => .inl ⟨.create call, h, hwaits⟩)
  have hothers {t : State Digest B} (y : Nat) (_ : y ≠ x) (hy : s.lock.owner = some y) :
      t.lock.owner = some y ∧ t.pairings = s.pairings := by
    rw [hfree] at hy
    cases hy
  rcases createSection_cases { s with lock } x call with ⟨record, -, h⟩ | ⟨hlookup, h⟩
  · rw [h]
    refine hinv.extend _ rfl hmade hlock.release hnot ?_ ?_ ?_ hothers ?_ ?_
      (hinv.claims_cons (by simp))
    · simp
    · simp [about]
    · intro id record hrecord
      exact (hinv.records id record hrecord).cons_of_ne (by simp [about])
    · rintro cc stage hcc
      cases hcc
    · rintro cc credential hcc
      cases hcc
  · rw [h]
    have hchallenge : call.record.challenge = x := hmade.1
    have hattempts : call.record.failedAttempts = 0 := hmade.2.1
    have hsilent (e : Event Digest) (he : e ∈ log) : about e ≠ some x := by
      intro habout
      obtain ⟨challenge, record, hmem⟩ := hinv.known e he x habout
      exact hnot challenge record hmem
    refine hinv.extend _ rfl hmade hlock.release hnot ?_ ?_ ?_ hothers ?_ ?_
      (hinv.claims_cons (by simp))
    · intro y challenge record hmem
      simp only [List.mem_singleton, Event.created.injEq] at hmem
      obtain ⟨rfl, rfl, rfl⟩ := hmem
      exact ⟨rfl, _, rfl, rfl, rfl, rfl⟩
    · simp [about]
    · intro id record hrecord
      simp only [finishCreate, setCall, Dict.lookup_insert_eq] at hrecord
      split at hrecord
      · rename_i hid
        cases hrecord
        subst hid
        have hfresh : Live config (.created call.record.challenge call.challenge call.record :: log)
            call.challenge.id call.record :=
          Live.fresh hattempts (hchallenge.symm ▸ hsilent)
        rwa [hchallenge] at hfresh
      · exact (hinv.records id record hrecord).cons_of_ne (by simp [about])
    · rintro cc stage hcc
      cases hcc
    · rintro cc credential hcc
      cases hcc

theorem known_record (hinv : Inv config log s) {id : UUID} {record : PairingRecord Digest}
    (h : s.pairings.lookup id = some record) :
    ∃ challenge record', .created record.challenge challenge record' ∈ log := by
  obtain ⟨challenge, -, hmem⟩ := (hinv.records id record h).created
  exact ⟨challenge, _, hmem⟩

theorem other_record (hinv : Inv config log s) {id id' : UUID}
    {record record' : PairingRecord Digest} (h : s.pairings.lookup id = some record)
    (h' : s.pairings.lookup id' = some record') (hid : id' ≠ id) {e : Event Digest}
    (he : about e = some record.challenge) : Live config (e :: log) id' record' := by
  refine (hinv.records id' record' h').cons_of_ne ?_
  rw [he]
  intro hsame
  exact hid (hinv.id_eq h h' (Option.some.inj hsame)).symm

/-- Once a challenge is checked, entries other than its own stay as they are. -/
theorem knows_checked (hinv : Inv config log s) {id : UUID} {record : PairingRecord Digest}
    (hrecord : s.pairings.lookup id = some record) {x : Nat} {secret : String}
    {now : AwareDatetime} {verdict : Verdict} (e : Event Digest)
    (he : e ∈ [.checked x record.challenge secret now verdict]) (c : Nat) (hc : about e = some c) :
    ∃ challenge record', .created c challenge record' ∈ log := by
  obtain rfl := List.mem_singleton.mp he
  cases hc
  exact hinv.known_record hrecord

theorem finishes (hinv : Inv config log s) {x : Nat} {lock : Lock Nat} {call : ClaimCall Digest B}
    (hfree : s.lock.owner = none) (hlock : lock.WellFormed)
    (hold : s.calls x = none ∨ s.calls x = some (.claim call))
    {outcome : Except Raised (Option DeviceCredential)}
    (hnone : ∀ credential, outcome ≠ .ok (some credential)) (events : List (Event Digest))
    (pairings : Dict UUID (PairingRecord Digest)) (store : B.Store)
    (hcreated : ∀ y challenge record, .created y challenge record ∉ events)
    (hknown : ∀ e ∈ events, ∀ c, about e = some c → ∃ challenge record,
      .created c challenge record ∈ log)
    (hrecords : ∀ id record, pairings.lookup id = some record →
      Live config (events ++ log) id record)
    (hclaims : ∀ newer older y c credential,
      events ++ log = newer ++ .claimed y c credential :: older →
        ClaimOk config older y c credential) :
    Inv config (events ++ log) (finishClaim ⟨pairings, lock, s.calls, store⟩ x call outcome) := by
  refine hinv.extend events rfl ?_ hlock.release
    (hinv.not_created (hold.imp_right fun h => .inr ⟨call, h⟩))
    (fun y challenge record hmem => absurd hmem (hcreated y challenge record)) hknown hrecords
    ?_ ?_ ?_ hclaims
  · rintro ⟨cancelled, hstage⟩
    cases hstage
  · intro y _ hy
    rw [hfree] at hy
    cases hy
  · intro cc stage hcc hstage
    cases hcc
    cases hstage
  · intro cc credential hcc hstage
    cases hcc
    cases hstage
    exact absurd rfl (hnone credential)

theorem records_countFailure (hinv : Inv config log s) {id : UUID} {record : PairingRecord Digest}
    (hrecord : s.pairings.lookup id = some record) {x : Nat} {secret : String}
    {now : AwareDatetime} {id' : UUID} {record' : PairingRecord Digest}
    (hlookup : (countFailure config id record s.pairings).lookup id' = some record') :
    Live config (.checked x record.challenge secret now .wrongSecret :: log) id' record' := by
  unfold countFailure at hlookup
  split at hlookup
  · rw [Dict.lookup_erase_eq] at hlookup
    split at hlookup
    · cases hlookup
    · rename_i hid
      exact hinv.other_record hrecord hlookup hid rfl
  · rename_i hattempts
    rw [Dict.lookup_insert_eq] at hlookup
    split at hlookup
    · rename_i hid
      cases hlookup
      subst hid
      exact (hinv.records _ record hrecord).counts (by omega) x secret now
    · rename_i hid
      exact hinv.other_record hrecord hlookup hid rfl

theorem claims_section (hinv : Inv config log s) {x : Nat} {lock : Lock Nat}
    {call : ClaimCall Digest B} {r : Result Digest B} (hfree : s.lock.owner = none)
    (howner : lock.owner = some x) (hlock : lock.WellFormed)
    (hold : s.calls x = none ∨ s.calls x = some (.claim call))
    (hsection : ClaimSection config { s with lock } x call r) : Inv config (r.2 ++ log) r.1 := by
  cases hsection with
  | unknown =>
      exact hinv.finishes hfree hlock hold (by simp) [] s.pairings s.store (by simp) (by simp)
        hinv.records hinv.claims
  | unread error =>
      exact hinv.finishes hfree hlock hold (by simp) [] s.pairings s.store (by simp) (by simp)
        hinv.records hinv.claims
  | expired record now hrecord htime =>
      refine hinv.finishes hfree hlock hold (by simp) _ (s.pairings.erase call.pairingId) s.store
        (by simp) (hinv.knows_checked hrecord) ?_ (hinv.claims_cons (by simp))
      intro id record' hlookup
      rw [Dict.lookup_erase_eq] at hlookup
      split at hlookup
      · cases hlookup
      · rename_i hid
        exact hinv.other_record hrecord hlookup hid rfl
  | wrong record now hrecord htime hsecret =>
      exact hinv.finishes hfree hlock hold (by simp) _ (countFailure config call.pairingId record
        s.pairings) s.store (by simp) (hinv.knows_checked hrecord)
        (fun id record' hlookup => hinv.records_countFailure hrecord hlookup)
        (hinv.claims_cons (by simp))
  | failed record now store error hrecord =>
      refine hinv.finishes hfree hlock hold (by simp) _ s.pairings store (by simp)
        (hinv.knows_checked hrecord) ?_ (hinv.claims_cons (by simp))
      intro id record' hlookup
      exact (hinv.records id record' hlookup).cons rfl (by rintro ⟨_, _, h⟩; cases h)
        (by rintro ⟨_, _, _, h⟩; simp at h)
  | registers record now store device stage hrecord htime hsecret hgranted =>
      refine hinv.extend _ rfl ?_ hlock
        (hinv.not_created (hold.imp_right fun h => .inr ⟨call, h⟩)) (by simp)
        (hinv.knows_checked hrecord) ?_ ?_ ?_ ?_ (hinv.claims_cons (by simp))
      · rintro ⟨cancelled, hstage⟩
        cases hstage
      · intro id record' hlookup
        exact (hinv.records id record' hlookup).cons rfl (by rintro ⟨_, _, h⟩; cases h)
          (by rintro ⟨_, _, _, h⟩; simp at h)
      · intro y _ hy
        rw [hfree] at hy
        cases hy
      · intro cc stage' hcc _
        cases hcc
        exact ⟨howner, _, rfl, hrecord, ⟨List.mem_cons_self, hsecret, htime, hgranted⟩⟩
      · intro cc credential hcc hstage
        cases hcc
        cases hstage

theorem claimOk (hinv : Inv config log s) {x : Nat} {call : ClaimCall Digest B}
    {registration : Registration Digest}
    (hrecord : s.pairings.lookup call.pairingId = some registration.record)
    (hadmitted : Admitted config log x call.secret registration) (token : String) :
    ClaimOk config log x registration.record.challenge ⟨registration.device, token⟩ := by
  have hlive := hinv.records _ _ hrecord
  obtain ⟨challenge, -, hmem⟩ := hlive.created
  obtain ⟨cc, hcc, -, hchallenge, hmade⟩ := hinv.created _ _ _ hmem
  obtain ⟨-, -, hdigest, hgranted, hexpires⟩ := hinv.calls _ _ hcc
  rw [hchallenge, hmade] at hdigest hgranted hexpires
  refine ⟨hlive.unclaimed, hlive.unexpired, ?_, challenge, _, call.secret, registration.now, hmem,
    hadmitted.checked, hdigest, ?_, ?_, ?_⟩
  · rw [← hlive.counted]
    exact hlive.attempts
  · rw [← hdigest]
    exact hadmitted.secret.symm
  · rw [← hexpires]
    exact hadmitted.inTime
  · rw [← hgranted]
    exact hadmitted.granted

theorem advances (hinv : Inv config log s) {x : Nat} {call : ClaimCall Digest B}
    {stage : B.Stage} {registration : Registration Digest} {input : B.Input}
    {r : Result Digest B} (hcall : s.calls x = some (.claim call))
    (hstage : call.stage = .registering stage)
    (hregistration : call.registration = some registration)
    (hadvance : Advance s x call stage registration input r) : Inv config (r.2 ++ log) r.1 := by
  have hnot := hinv.not_created (.inr (.inr ⟨call, hcall⟩))
  obtain ⟨howner, registration', hregistration', hrecord, hadmitted⟩ :=
    hinv.registering x call stage hcall hstage
  obtain rfl : registration = registration' := by simpa [hregistration] using hregistration'
  have hothers {t : State Digest B} (y : Nat) (hne : y ≠ x) (hy : s.lock.owner = some y) :
      t.lock.owner = some y ∧ t.pairings = s.pairings := by
    rw [howner] at hy
    exact absurd (Option.some.inj hy).symm hne
  cases hadvance with
  | suspends store stage' =>
      refine hinv.extend [] rfl ?_ hinv.lock hnot (by simp) (by simp) hinv.records
        hothers ?_ ?_ hinv.claims
      · rintro ⟨cancelled, h⟩
        cases h
      · intro cc stage'' hcc _
        cases hcc
        exact ⟨howner, registration, hregistration, hrecord, hadmitted⟩
      · intro cc credential hcc h
        cases hcc
        cases h
  | raises store error =>
      refine hinv.extend [] rfl ?_ hinv.lock.release hnot (by simp) (by simp)
        hinv.records hothers ?_ ?_ hinv.claims
      · rintro ⟨cancelled, h⟩
        cases h
      · intro cc stage'' hcc h
        cases hcc
        cases h
      · intro cc credential hcc h
        cases hcc
        cases h
  | returns store token =>
      refine hinv.extend _ rfl ?_ hinv.lock.release hnot (by simp) ?_ ?_ hothers ?_ ?_ ?_
      · rintro ⟨cancelled, h⟩
        cases h
      · simp only [List.mem_singleton]
        rintro e rfl c hc
        cases hc
        exact hinv.known_record hrecord
      · intro id record' hlookup
        simp only [finishClaim, setCall, Dict.lookup_erase_eq] at hlookup
        split at hlookup
        · cases hlookup
        · rename_i hid
          exact hinv.other_record hrecord hlookup hid rfl
      · intro cc stage'' hcc h
        cases hcc
        cases h
      · intro cc credential hcc h
        cases hcc
        cases h
        obtain ⟨challenge, hid, hmem⟩ := (hinv.records _ _ hrecord).created
        exact ⟨_, List.mem_cons_self, challenge, _, hmem, hid⟩
      · intro newer older y c credential hlog
        cases newer with
        | nil =>
            obtain ⟨hhead, rfl⟩ := List.cons.inj hlog
            cases hhead
            exact hinv.claimOk hrecord hadmitted token
        | cons first newer =>
            exact hinv.claims newer older y c credential (List.cons.inj hlog).2

theorem step (hinv : Inv config log s) {action : Action B} {t : State Digest B}
    {events : List (Event Digest)} (h : Challenges.step config s action = some (t, events)) :
    Inv config (events ++ log) t := by
  generalize hr : (t, events) = r at h
  have heffect := step_effect hinv.lock hinv.calls h
  have hnext : Inv config (r.2 ++ log) r.1 := by
    cases heffect with
    | quiet t call hcalls hpairings _ howner hlock hold hmade hstage =>
        exact hinv.quiet hcalls hpairings howner hlock hold hmade hstage
    | creates lock call hfree howner hlock hold hmade hwaits =>
        exact hinv.creates hfree hlock hold hmade hwaits
    | claims lock call r hfree howner hlock hold hmade hwaits hsection =>
        exact hinv.claims_section hfree howner hlock hold hsection
    | advances call stage registration input r hcall hstage hregistration hadvance =>
        exact hinv.advances hcall hstage hregistration hadvance
  rwa [← hr] at hnext

end Inv

def log (history : List (Transition (State Digest B) (Action B) (Event Digest))) :
    List (Event Digest) :=
  history.flatMap fun t => t.events

theorem inv_of_run {store : B.Store} {s : State Digest B}
    {history : List (Transition (State Digest B) (Action B) (Event Digest))}
    (hrun : Run (pairing config store) (State.initial B store) history s) :
    Inv config (log history) s := by
  refine hrun.historyInvariant (fun history s => Inv config (log history) s) ?_ ?_
  · refine ⟨.free, ?_, ?_, ?_, ?_, ?_, ?_, ?_⟩ <;> simp [log, State.initial]
  · intro history s action t events _ hinv h
    exact hinv.step h

omit [DecidableEq Digest] in
/-- The successes of a log have each nothing of their challenge's end before them. -/
theorem exactlyOnce_claims {log : List (Event Digest)}
    (hclaims : ∀ newer older x c credential, log = newer ++ .claimed x c credential :: older →
      ClaimOk config older x c credential) (challenge : Nat) :
    (∀ e ∈ log, ¬ Claims challenge e) ∨ ExactlyOnce (Claims challenge) log := by
  by_cases hnone : ∀ e ∈ log, ¬ Claims challenge e
  · exact .inl hnone
  · push Not at hnone
    obtain ⟨e, he, x, credential, rfl⟩ := hnone
    obtain ⟨newer, older, rfl⟩ := List.append_of_mem he
    have hok := hclaims newer older x challenge credential rfl
    refine .inr ⟨newer, _, older, rfl, ⟨x, credential, rfl⟩, ?_, hok.unclaimed⟩
    rintro e' he' ⟨x', credential', rfl⟩
    obtain ⟨first, second, rfl⟩ := List.append_of_mem he'
    have hok' := hclaims first (second ++ .claimed x challenge credential :: older) x' challenge
      credential' (by simp)
    exact hok'.unclaimed _ (by simp) ⟨x, credential, rfl⟩

omit [DecidableEq Digest] in
/-- After the end of a challenge, by expiry or by exhaustion, no success follows. -/
theorem no_claim_after {log newer older : List (Event Digest)} {challenge : Nat}
    (hclaims : ∀ newer older x c credential, log = newer ++ .claimed x c credential :: older →
      ClaimOk config older x c credential) (hlog : log = newer ++ older)
    (hended : (∃ e ∈ older, Expires challenge e) ∨
      config.maxClaimAttempts ≤ wrongAttempts challenge older) :
    ∀ e ∈ newer, ¬ Claims challenge e := by
  rintro e he ⟨x, credential, rfl⟩
  obtain ⟨first, second, rfl⟩ := List.append_of_mem he
  have hok := hclaims first (second ++ older) x challenge credential (by simp [hlog])
  rcases hended with ⟨e', he', hexpires⟩ | hexhausted
  · exact hok.unexpired e' (List.mem_append_right _ he') hexpires
  · have hmono : wrongAttempts challenge older ≤ wrongAttempts challenge (second ++ older) := by
      simp only [wrongAttempts, List.countP_append]
      omega
    have := hok.attempts
    omega

section Frames

variable {log : List (Event Digest)} {s : State Digest B} (hinv : Inv config log s)
include hinv

theorem claim_frame {t : State Digest B} {action : Action B} {events : List (Event Digest)}
    (h : step config s action = some (t, events)) {call : ClaimCall Digest B}
    (hcall : t.calls (actor action) = some (.claim call)) {id : UUID} (hid : id ≠ call.pairingId) :
    t.pairings.lookup id = s.pairings.lookup id := by
  generalize hr : (t, events) = r at h
  have hpairings : t = r.1 := congrArg Prod.fst hr
  have heffect := step_effect hinv.lock hinv.calls h
  rw [hpairings] at hcall ⊢
  cases heffect with
  | quiet t' call' _ hsame => rw [hsame]
  | creates lock call' =>
      rcases createSection_cases { s with lock } (actor action) call' with ⟨record, -, h⟩ | ⟨-, h⟩
      all_goals
        rw [h] at hcall
        simp [finishCreate, setCall] at hcall
  | claims lock call' r _ _ _ _ _ _ hsection =>
      cases hsection with
      | unknown | unread | failed | registers => rfl
      | expired record now =>
          obtain rfl := by simpa [finishClaim, setCall] using hcall
          exact AList.lookup_erase_ne hid
      | wrong record now =>
          obtain rfl := by simpa [finishClaim, setCall] using hcall
          simp only [finishClaim, setCall, countFailure]
          split
          · exact AList.lookup_erase_ne hid
          · exact AList.lookup_insert_ne hid
  | advances call' stage registration input r _ _ _ hadvance =>
      cases hadvance with
      | suspends | raises => rfl
      | returns store token =>
          obtain rfl := by simpa [finishClaim, setCall] using hcall
          exact AList.lookup_erase_ne hid

/-- A `create` whose identifier is taken leaves the entries alone and does not return. -/
theorem create_collision {t : State Digest B} {action : Action B} {events : List (Event Digest)}
    (h : step config s action = some (t, events)) {call : CreateCall Digest}
    (hcall : t.calls (actor action) = some (.create call)) {record : PairingRecord Digest}
    (htaken : s.pairings.lookup call.challenge.id = some record) :
    t.pairings = s.pairings ∧ ((∃ cancelled, call.stage = .waitingForLock cancelled) ∨
      call.stage = .finished (.error (.runtimeError "pairing identifier collision")) ∨
      call.stage = .finished (.error .cancelled)) := by
  generalize hr : (t, events) = r at h
  have hpairings : t = r.1 := congrArg Prod.fst hr
  have heffect := step_effect hinv.lock hinv.calls h
  rw [hpairings] at hcall ⊢
  cases heffect with
  | quiet t' call' hcalls hsame _ _ _ _ _ hstage =>
      refine ⟨hsame, ?_⟩
      rw [hcalls, Function.update_self] at hcall
      obtain rfl := Option.some.inj hcall
      rcases hstage with ⟨cancelled, hwaits⟩ | ⟨error, h⟩ | ⟨cc, h, hfinished⟩ | ⟨cc, h, -⟩
      · obtain ⟨challenge, record, stage⟩ := call
        cases stage with
        | waitingForLock c => exact .inl ⟨c, rfl⟩
        | finished outcome => cases hwaits
      · cases h
      · cases h
        exact .inr (.inr hfinished)
      · cases h
  | creates lock call' =>
      rcases createSection_cases { s with lock } (actor action) call' with ⟨_, -, h⟩ | ⟨hfree, h⟩
      · rw [h] at hcall ⊢
        obtain rfl := by simpa [finishCreate, setCall] using hcall
        exact ⟨rfl, .inr (.inl rfl)⟩
      · rw [h] at hcall
        obtain rfl := by simpa [finishCreate, setCall] using hcall
        rw [show s.pairings.lookup call'.challenge.id = none from hfree] at htaken
        cases htaken
  | claims lock call' r _ _ _ _ _ _ hsection =>
      cases hsection with
      | unknown | unread | expired | wrong | failed | registers =>
          simp [finishClaim, setCall] at hcall
  | advances call' stage registration input r _ _ _ hadvance =>
      cases hadvance with
      | suspends | raises | returns => simp [finishClaim, setCall] at hcall

theorem step_calls {t : State Digest B} {action : Action B} {events : List (Event Digest)}
    (h : step config s action = some (t, events)) :
    ∃ call, t.calls = Function.update s.calls (actor action) (some call) := by
  generalize hr : (t, events) = r at h
  have htarget : t = r.1 := congrArg Prod.fst hr
  have heffect := step_effect hinv.lock hinv.calls h
  rw [htarget]
  cases heffect with
  | quiet t' call hcalls => exact ⟨call, hcalls⟩
  | creates lock call =>
      rcases createSection_cases { s with lock } (actor action) call with ⟨_, -, h⟩ | ⟨-, h⟩
      all_goals
        rw [h]
        exact ⟨_, rfl⟩
  | claims lock call r _ _ _ _ _ _ hsection => cases hsection <;> exact ⟨_, rfl⟩
  | advances call stage registration input r _ _ _ hadvance =>
      cases hadvance <;> exact ⟨_, rfl⟩

theorem step_others {t : State Digest B} {action : Action B} {events : List (Event Digest)}
    (h : step config s action = some (t, events)) {y : Nat} (hy : y ≠ actor action) :
    t.calls y = s.calls y := by
  obtain ⟨call, hcalls⟩ := step_calls hinv h
  rw [hcalls]
  exact Function.update_of_ne hy _ _

theorem step_running {r : Result Digest B} {action : Action B}
    (h : step config s action = some r) {call : PairingCall Digest B}
    (hcall : s.calls (actor action) = some call) : ¬ Succeeded call := by
  have hwaiting {old : PairingCall Digest B} (hold : s.calls (actor action) = none ∨
      s.calls (actor action) = some old) (hwaits : Waits old) : ¬ Succeeded call := by
    rcases hold with hold | hold
    · rw [hcall] at hold
      cases hold
    · obtain rfl : call = old := by simpa [hcall] using hold
      exact hwaits.not_succeeded
  cases step_effect hinv.lock hinv.calls h with
  | quiet t call' _ _ _ _ _ hold =>
      rcases hold with hold | ⟨old, hold, hwaits⟩
      · rw [hcall] at hold
        cases hold
      · exact hwaiting (.inr hold) hwaits
  | creates lock call' _ _ _ hold _ hwaits => exact hwaiting hold hwaits
  | claims lock call' r _ _ _ hold _ hwaits => exact hwaiting hold hwaits
  | advances call' stage registration input r hold hstage =>
      obtain rfl : call = .claim call' := by simpa [hcall] using hold
      rintro ⟨result, hresult⟩
      rw [hstage] at hresult
      cases hresult

theorem step_pairings {t : State Digest B} {action : Action B} {events : List (Event Digest)}
    (h : step config s action = some (t, events))
    (hfails : ∀ call, t.calls (actor action) = some call → ¬ Succeeded call) :
    t.pairings = s.pairings := by
  generalize hr : (t, events) = r at h
  have htarget : t = r.1 := congrArg Prod.fst hr
  have heffect := step_effect hinv.lock hinv.calls h
  rw [htarget] at hfails ⊢
  cases heffect with
  | quiet t' call' _ hsame => exact hsame
  | creates lock call' =>
      rcases createSection_cases { s with lock } (actor action) call' with ⟨_, -, h⟩ | ⟨-, h⟩
      · rw [h]
        rfl
      · rw [h] at hfails
        exact absurd ⟨_, rfl⟩ (hfails _ (Function.update_self _ _ _))
  | claims lock call' r _ _ _ _ _ _ hsection =>
      cases hsection with
      | unknown | unread | failed | registers => rfl
      | expired | wrong => exact absurd ⟨_, rfl⟩ (hfails _ (Function.update_self _ _ _))
  | advances call' stage registration input r _ _ _ hadvance =>
      cases hadvance with
      | suspends | raises => rfl
      | returns => exact absurd ⟨_, rfl⟩ (hfails _ (Function.update_self _ _ _))

end Frames

/-- The steps of a call that has not returned normally leave the entries as they are. -/
theorem run_pairings {store : B.Store} {s : State Digest B}
    {history : List (Transition (State Digest B) (Action B) (Event Digest))}
    (hrun : Run (pairing config store) (State.initial B store) history s) {x : Nat}
    (hfails : ∀ call, s.calls x = some call → ¬ Succeeded call) :
    ∀ u ∈ history, actor u.action = x → u.target.pairings = u.source.pairings := by
  induction hrun with
  | nil => simp
  | @step history s action events t hprev hfire ih =>
      have hinv := inv_of_run hprev
      intro u hu hactor
      rcases List.mem_cons.mp hu with rfl | hu
      · obtain rfl := hactor
        exact step_pairings hinv hfire hfails
      · refine ih ?_ u hu hactor
        intro call hcall
        by_cases hx : x = actor action
        · subst hx
          exact step_running hinv hfire hcall
        · exact hfails call ((step_others hinv hfire hx).trans hcall)

/-- Challenges are one-time, bounded and time-limited in every run from a store. -/
structure OneTime (config : Config Digest) (store : B.Store) : Prop where
  /-- Every success is in order, whatever happened between. -/
  claims : ∀ history s, Run (pairing config store) (State.initial B store) history s →
    ∀ newer older x c credential, log history = newer ++ .claimed x c credential :: older →
      ClaimOk config older x c credential
  returned : ∀ history s, Run (pairing config store) (State.initial B store) history s →
    ∀ x call credential, s.calls x = some (.claim call) →
      call.stage = .finished (.ok (some credential)) → ∃ c, .claimed x c credential ∈ log history ∧
        ∃ challenge record, .created c challenge record ∈ log history ∧
          challenge.id = call.pairingId
  once : ∀ history s, Run (pairing config store) (State.initial B store) history s →
    ∀ c, (∀ e ∈ log history, ¬ Claims c e) ∨ ExactlyOnce (Claims c) (log history)
  ended : ∀ history s, Run (pairing config store) (State.initial B store) history s →
    ∀ c newer older, log history = newer ++ older →
      ((∃ e ∈ older, Expires c e) ∨ config.maxClaimAttempts ≤ wrongAttempts c older) →
        ∀ e ∈ newer, ¬ Claims c e
  claimFrame : ∀ s, Reachable (pairing config store) s → ∀ action t events,
    (pairing config store).step s action = some (t, events) →
      ∀ call, t.calls (actor action) = some (.claim call) → ∀ id, id ≠ call.pairingId →
        t.pairings.lookup id = s.pairings.lookup id
  collision : ∀ s, Reachable (pairing config store) s → ∀ action t events,
    (pairing config store).step s action = some (t, events) →
      ∀ call record, t.calls (actor action) = some (.create call) →
        s.pairings.lookup call.challenge.id = some record →
        t.pairings = s.pairings ∧ ((∃ cancelled, call.stage = .waitingForLock cancelled) ∨
          call.stage = .finished (.error (.runtimeError "pairing identifier collision")) ∨
          call.stage = .finished (.error .cancelled))

theorem oneTime (config : Config Digest) (store : B.Store) : OneTime config store where
  claims _ _ hrun := (inv_of_run hrun).claims
  returned _ _ hrun := (inv_of_run hrun).returned
  once _ _ hrun := exactlyOnce_claims (inv_of_run hrun).claims
  ended _ _ hrun _ _ _ hlog hended := no_claim_after (inv_of_run hrun).claims hlog hended
  claimFrame s hs action t events h call hcall id hid := by
    obtain ⟨history, hrun⟩ := hs
    exact claim_frame (inv_of_run hrun) h hcall hid
  collision s hs action t events h call record hcall htaken := by
    obtain ⟨history, hrun⟩ := hs
    exact create_collision (inv_of_run hrun) h hcall htaken

end JarvisCore.Pairing.Contract
