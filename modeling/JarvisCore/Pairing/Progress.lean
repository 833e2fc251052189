import JarvisCore.Foundation.LockUsers
import JarvisCore.Pairing.Backends

namespace JarvisCore.Pairing.Progress

open JarvisCore.Domain.Values
open JarvisCore.Domain.Errors
open JarvisCore.Domain.Models
open JarvisCore.Foundation.AsyncIO
open JarvisCore.Foundation.LockUsers
open JarvisCore.Foundation.TransitionSystem
open JarvisCore.Pairing.Backends
open JarvisCore.Pairing.Challenges
open JarvisCore.Pairing.Contract
open JarvisCore.Security.Credentials

variable {Digest : Type} {B : Backend}

/-- A bound on the awaits that a registration still has before it. -/
structure Terminates (B : Backend) where
  left : B.Stage → Nat
  bound : Nat
  setup : B.Setup
  left_le : ∀ stage, left stage ≤ bound
  resume_lt : ∀ stage input store store' next,
    B.resume stage input store = some (store', .suspended next) → left next < left stage
  resumes : ∀ stage store, ∃ input, B.resume stage input store ≠ none

def Sql.left : Backends.Sql.Stage Digest → Nat
  | .flushing _ => 2
  | .committing _ => 1
  | .closing _ | .aborting _ => 0

/-- A registration awaits the flush, the commit and the end of the session. -/
def sqlTerminates (codec : DeviceCredentialCodec Digest) : Terminates (sql codec) where
  left := Sql.left
  bound := 2
  setup := ⟨⟨0⟩, ⟨0⟩, ""⟩
  left_le stage := by
    cases stage with
    | flushing | committing | closing | aborting => simp [Sql.left]
  resume_lt stage outcome tables tables' next h := by
    have hresume : Backends.Sql.resume stage outcome tables = (tables', .suspended next) :=
      Option.some.inj h
    unfold Backends.Sql.resume at hresume
    split at hresume
    · split at hresume
      · cases hresume
        exact Nat.two_pos
      · cases hresume
        exact Nat.one_lt_two
    · cases hresume
      exact Nat.two_pos
    · split at hresume
      · cases hresume
        exact Nat.one_pos
      · cases hresume
        exact Nat.one_pos
    · split at hresume
      · cases hresume
        exact Nat.one_pos
      · cases hresume
        exact Nat.one_pos
    · cases hresume
    · cases hresume
    · cases hresume
    · cases hresume
  resumes stage tables := ⟨.completed, Option.some_ne_none _⟩

section Roles

/-- What a call is to the lock of the store. -/
def callRole : PairingCall Digest B → Role
  | .create ⟨_, _, .waitingForLock cancelRequested⟩ => .waits cancelRequested
  | .claim ⟨_, _, _, _, .waitingForLock cancelRequested⟩ => .waits cancelRequested
  | .claim ⟨_, _, _, _, .registering _⟩ => .holds
  | _ => .idle

def role (s : State Digest B) (x : Nat) : Role :=
  match s.calls x with
  | some call => callRole call
  | none => .idle

theorem role_of_calls {s t : State Digest B} {x : Nat} {call : PairingCall Digest B}
    (h : t.calls = Function.update s.calls x (some call)) :
    role t = Function.update (role s) x (callRole call) := by
  funext y
  by_cases hy : y = x
  · subst hy
    simp [role, h]
  · simp [role, h, Function.update_of_ne hy]

theorem callRole_of_waiting {call : PairingCall Digest B} {cancelled : Bool}
    (h : waitingCancelled call = some cancelled) : callRole call = .waits cancelled := by
  unfold waitingCancelled at h
  split at h
  · cases h
    rfl
  · cases h
    rfl
  · cases h

theorem waiting_of_callRole {call : PairingCall Digest B} {cancelled : Bool}
    (h : callRole call = .waits cancelled) : waitingCancelled call = some cancelled := by
  unfold callRole at h
  split at h
  · cases h
    rfl
  · cases h
    rfl
  · cases h
  · cases h

theorem registering_of_callRole {call : PairingCall Digest B} (h : callRole call = .holds) :
    ∃ claim stage, call = .claim claim ∧ claim.stage = .registering stage := by
  unfold callRole at h
  split at h
  · cases h
  · cases h
  · exact ⟨_, _, rfl, rfl⟩
  · cases h

/-- What a step inside the critical section makes of its call: it goes on with the
registration, or it is over and releases the lock. -/
inductive Inside (s : State Digest B) (x : Nat) (t : State Digest B) : PairingCall Digest B → Prop
  | stays (call : ClaimCall Digest B) (stage : B.Stage) : call.stage = .registering stage →
      t.calls = Function.update s.calls x (some (.claim call)) → t.lock = s.lock →
      Inside s x t (.claim call)
  | ends (call : PairingCall Digest B) : callRole call = .idle →
      t.calls = Function.update s.calls x (some call) → t.lock = s.lock.release →
      Inside s x t call

theorem callRole_of_registering {call : ClaimCall Digest B} {stage : B.Stage}
    (h : call.stage = .registering stage) : callRole (.claim call) = .holds := by
  obtain ⟨pairingId, secret, name, registration, stage'⟩ := call
  obtain rfl := h
  rfl

theorem createSection_inside (s : State Digest B) (x : Nat) (call : CreateCall Digest) :
    ∃ call', Inside s x (createSection s x call).1 call' := by
  rcases createSection_cases s x call with ⟨record, -, h⟩ | ⟨-, h⟩
  · rw [h]
    exact ⟨.create { call with stage := _ }, .ends _ rfl rfl rfl⟩
  · rw [h]
    exact ⟨.create { call with stage := _ }, .ends _ rfl rfl rfl⟩

/-- A call in the critical section holds the lock, so what happens there is a use of it. -/
theorem Inside.uses {s t : State Digest B} {x : Nat} {call : PairingCall Digest B}
    (h : Inside s x t call) {l : Lock Nat} {before held : Nat → Role}
    (huses : Uses l before s.lock held) (hx : held x = .holds)
    (hothers : ∀ y, y ≠ x → held y = role s y) : Uses l before t.lock (role t) := by
  cases h with
  | stays call stage hstage hcalls hlock =>
      have hrole : role t = held := by
        rw [role_of_calls hcalls, callRole_of_registering hstage]
        funext y
        by_cases hy : y = x
        · rw [hy, Function.update_self, hx]
        · rw [Function.update_of_ne hy, hothers y hy]
      rw [hrole, hlock]
      exact huses
  | ends call hidle hcalls hlock =>
      have hrole : role t = Function.update held x .idle := by
        rw [role_of_calls hcalls, hidle]
        funext y
        by_cases hy : y = x
        · rw [hy, Function.update_self, Function.update_self]
        · rw [Function.update_of_ne hy, Function.update_of_ne hy, hothers y hy]
      rw [hrole, hlock]
      refine .step x .idle huses ?_
      rw [hx]
      exact .releases

end Roles

variable [DecidableEq Digest] {config : Config Digest}

theorem claimSection_inside (s : State Digest B) (x : Nat) (call : ClaimCall Digest B)
    (clock : Datetime) (setup : B.Setup) :
    ∃ call', Inside s x (claimSection config s x call clock setup).1 call' := by
  have hcases : ClaimSection config s x call (claimSection config s x call clock setup) :=
    claimSection_cases s x call clock setup
  generalize claimSection config s x call clock setup = r at hcases
  cases hcases with
  | unknown | unread | expired | wrong | failed => exact ⟨.claim _, .ends _ rfl rfl rfl⟩
  | registers => exact ⟨_, .stays _ _ rfl rfl rfl⟩

theorem lockedSection_inside (s : State Digest B) (x : Nat) {call : PairingCall Digest B}
    (clock : Datetime) (setup : B.Setup) {cancelled : Bool}
    (hwaiting : waitingCancelled call = some cancelled) :
    ∃ call', Inside s x (lockedSection config s x call clock setup).1 call' := by
  cases call with
  | refused => cases hwaiting
  | create call => exact createSection_inside s x call
  | claim call => exact claimSection_inside s x call clock setup

section Uses

variable {s : State Digest B} {x : Nat}

omit [DecidableEq Digest] in
theorem role_eq {call : PairingCall Digest B} (h : s.calls x = some call) :
    role s x = callRole call := by
  rw [role, h]

omit [DecidableEq Digest] in
theorem role_fresh (h : s.calls x = none) : role s x = .idle := by
  rw [role, h]

omit [DecidableEq Digest] in
theorem uses_of_calls {t : State Digest B} {call : PairingCall Digest B}
    (hcalls : t.calls = Function.update s.calls x (some call))
    (huse : Use x s.lock (role s x) t.lock (callRole call)) :
    Uses s.lock (role s) t.lock (role t) := by
  rw [role_of_calls hcalls]
  exact .step x _ (.refl _ _) huse

omit [DecidableEq Digest] in
theorem enter_uses {call : PairingCall Digest B} {locked : State Digest B → Result Digest B}
    (hfresh : s.calls x = none) (hwaits : callRole call = .waits false)
    (hlocked : ∀ s', ∃ call', Inside s' x (locked s').1 call') :
    Uses s.lock (role s) (enter s x call locked).1.lock (role (enter s x call locked).1) := by
  unfold enter
  split
  · rename_i havailable
    obtain ⟨call', hinside⟩ := hlocked { s with lock := s.lock.take x }
    have htakes : Uses s.lock (role s) (s.lock.take x) (Function.update (role s) x .holds) := by
      refine .step x .holds (.refl _ _) ?_
      rw [role_fresh hfresh]
      exact .takes havailable
    exact hinside.uses htakes (Function.update_self _ _ _) fun y hy => Function.update_of_ne hy _ _
  · rename_i havailable
    refine uses_of_calls (show _ = Function.update s.calls x (some call) from rfl) ?_
    rw [role_fresh hfresh, hwaits]
    exact .queues (Bool.eq_false_of_not_eq_true havailable)

omit [DecidableEq Digest] in
theorem abandon_calls {call : PairingCall Digest B} {cancelled : Bool}
    (hwaiting : waitingCancelled call = some cancelled) :
    ∃ call', callRole call' = .idle ∧
      (abandon s x call).calls = Function.update s.calls x (some call') ∧
      (abandon s x call).lock = s.lock.abandon x := by
  cases call with
  | refused => cases hwaiting
  | create call =>
      exact ⟨.create { call with stage := .finished (.error .cancelled) }, rfl, rfl, rfl⟩
  | claim call =>
      exact ⟨.claim { call with stage := .finished (.error .cancelled) }, rfl, rfl, rfl⟩

theorem resumeLock_spec {call : PairingCall Digest B} {clock : Datetime} {setup : B.Setup}
    {r : Result Digest B} (h : resumeLock config s x call clock setup = some r) :
    ∃ cancelled, waitingCancelled call = some cancelled ∧
      ((s.lock.waiterState x = some .woken ∧
          ∃ call', Inside { s with lock := s.lock.grant x } x r.1 call') ∨
        ∃ call', callRole call' = .idle ∧ r.1.calls = Function.update s.calls x (some call') ∧
          r.1.lock = s.lock.abandon x) := by
  unfold resumeLock at h
  split at h
  · rename_i hwaiting hwoken
    cases h
    exact ⟨false, hwaiting, .inl ⟨hwoken, lockedSection_inside _ x clock setup hwaiting⟩⟩
  · rename_i hwaiting _
    cases h
    exact ⟨true, hwaiting, .inr (abandon_calls hwaiting)⟩
  · rename_i hwaiting _
    cases h
    exact ⟨true, hwaiting, .inr (abandon_calls hwaiting)⟩
  · cases h

omit [DecidableEq Digest] in
theorem callRole_requestCancel {call : PairingCall Digest B} {cancelled : Bool}
    (hwaiting : waitingCancelled call = some cancelled) :
    callRole (requestCancel call) = .waits true := by
  cases call with
  | refused => cases hwaiting
  | create | claim => rfl

omit [DecidableEq Digest] in
theorem advance_inside {call : ClaimCall Digest B} {input : B.Input} {r : Result Digest B}
    (h : advance s x call input = some r) :
    ∃ stage, call.stage = .registering stage ∧ ∃ call', Inside s x r.1 call' ∧
      ∀ next, (∃ claim, call' = .claim claim ∧ claim.stage = .registering next) →
        ∃ store, B.resume stage input s.store = some (store, .suspended next) := by
  obtain ⟨stage, registration, hstage, -, hadvance⟩ := advance_cases h
  refine ⟨stage, hstage, ?_⟩
  cases hadvance with
  | suspends store next hresume =>
      refine ⟨_, .stays _ next rfl rfl rfl, ?_⟩
      rintro next' ⟨claim, hclaim, hnext⟩
      cases hclaim
      cases hnext
      exact ⟨store, hresume⟩
  | raises store error =>
      refine ⟨_, .ends _ rfl rfl rfl, ?_⟩
      rintro next' ⟨claim, hclaim, hnext⟩
      cases hclaim
      cases hnext
  | returns store token =>
      refine ⟨_, .ends _ rfl rfl rfl, ?_⟩
      rintro next' ⟨claim, hclaim, hnext⟩
      cases hclaim
      cases hnext

theorem step_uses {action : Action B} {r : Result Digest B} (h : step config s action = some r) :
    Uses s.lock (role s) r.1.lock (role r.1) := by
  cases action with
  | create x granted ttl pairingId secret clock =>
      simp only [step] at h
      split at h
      · cases h
      · rename_i hfresh
        split at h
        · rename_i error herror
          cases h
          have hrole : role (setCall s x (.refused error)) = role s := by
            rw [role_of_calls rfl]
            exact Function.update_eq_self_iff.mpr (role_fresh hfresh).symm
          rw [hrole]
          exact .refl _ _
        · rename_i call hcall
          cases h
          refine enter_uses hfresh ?_ fun s' => createSection_inside s' x call
          obtain ⟨challenge, record, stage⟩ := call
          obtain rfl := (prepareCreate_wellMade (B := B) hcall).2
          rfl
  | claim x pairingId secret deviceName clock setup =>
      simp only [step] at h
      split at h
      · cases h
      · rename_i hfresh
        cases h
        exact enter_uses hfresh rfl fun s' => claimSection_inside s' x _ clock setup
  | resumeLock x clock setup =>
      simp only [step] at h
      split at h
      · rename_i call hcall
        obtain ⟨cancelled, hwaiting, ⟨hwoken, call', hinside⟩ | ⟨call', hidle, hcalls, hlock⟩⟩ :=
          resumeLock_spec h
        · have hrole := (role_eq hcall).trans (callRole_of_waiting hwaiting)
          have hgranted : Uses s.lock (role s) (s.lock.grant x)
              (Function.update (role s) x .holds) := by
            refine .step x .holds (.refl _ _) ?_
            rw [hrole]
            exact .granted cancelled hwoken
          exact hinside.uses hgranted (Function.update_self _ _ _) fun y hy =>
            Function.update_of_ne hy _ _
        · refine uses_of_calls hcalls ?_
          rw [hlock, hidle, role_eq hcall, callRole_of_waiting hwaiting]
          exact .abandons cancelled
      · cases h
  | cancelWaiting x =>
      simp only [step] at h
      split at h
      · rename_i call hcall
        unfold cancelWaiting at h
        split at h
        · rename_i cancelled hwaiting
          cases h
          refine uses_of_calls rfl ?_
          rw [role_eq hcall, callRole_of_waiting hwaiting, callRole_requestCancel hwaiting]
          exact .marks cancelled
        · cases h
      · cases h
  | advance x input =>
      simp only [step] at h
      split at h
      · rename_i call hcall
        obtain ⟨stage, hstage, call', hinside, -⟩ := advance_inside h
        refine hinside.uses (.refl _ _) ?_ fun _ _ => rfl
        rw [role_eq hcall]
        exact callRole_of_registering hstage
      · cases h

end Uses

section Measure

variable {s : State Digest B} {x : Nat} (term : Terminates B)

/-- The step continues a call that has been entered: no method is called and nobody cancels. -/
def Resumes : Action B → Prop
  | .resumeLock _ _ _ | .advance _ _ => True
  | _ => False

/-- The steps that a call has left at most. -/
def callSteps : PairingCall Digest B → Nat
  | .create ⟨_, _, .waitingForLock _⟩ => term.bound + 2
  | .claim ⟨_, _, _, _, .waitingForLock _⟩ => term.bound + 2
  | .claim ⟨_, _, _, _, .registering stage⟩ => term.left stage + 1
  | _ => 0

def stepsLeft : Option (PairingCall Digest B) → Nat
  | some call => callSteps term call
  | none => 0

omit [DecidableEq Digest] in
theorem stepsLeft_le (call : Option (PairingCall Digest B)) :
    stepsLeft term call ≤ term.bound + 2 := by
  unfold stepsLeft
  split
  · unfold callSteps
    split
    · exact Nat.le_refl _
    · exact Nat.le_refl _
    · rename_i stage
      have hleft := term.left_le stage
      omega
    · exact Nat.zero_le _
  · exact Nat.zero_le _

omit [DecidableEq Digest] in
theorem callSteps_of_waiting {call : PairingCall Digest B} {cancelled : Bool}
    (h : waitingCancelled call = some cancelled) : callSteps term call = term.bound + 2 := by
  unfold waitingCancelled at h
  split at h
  · rfl
  · rfl
  · cases h

omit [DecidableEq Digest] in
theorem callSteps_of_registering {call : ClaimCall Digest B} {stage : B.Stage}
    (h : call.stage = .registering stage) : callSteps term (.claim call) = term.left stage + 1 := by
  obtain ⟨pairingId, secret, name, registration, stage'⟩ := call
  obtain rfl := h
  rfl

omit [DecidableEq Digest] in
theorem callSteps_eq_zero {call : PairingCall Digest B} :
    callSteps term call = 0 ↔ callRole call = .idle := by
  unfold callSteps callRole
  split <;> simp

omit [DecidableEq Digest] in
theorem Inside.calls {t : State Digest B} {call : PairingCall Digest B} (h : Inside s x t call) :
    t.calls = Function.update s.calls x (some call) := by
  cases h with
  | stays _ _ _ hcalls => exact hcalls
  | ends _ _ hcalls => exact hcalls

omit [DecidableEq Digest] in
theorem Inside.callSteps_le {t : State Digest B} {call : PairingCall Digest B}
    (h : Inside s x t call) : callSteps term call ≤ term.bound + 1 := by
  cases h with
  | stays call stage hstage =>
      have hleft := term.left_le stage
      rw [callSteps_of_registering term hstage]
      omega
  | ends _ hidle =>
      rw [(callSteps_eq_zero term).mpr hidle]
      exact Nat.zero_le _

theorem step_lowers {action : Action B} {r : Result Digest B} (hresumes : Resumes action)
    (h : step config s action = some r) :
    ∃ y call call', s.calls y = some call ∧ r.1.calls = Function.update s.calls y (some call') ∧
      callSteps term call' < callSteps term call := by
  cases action with
  | create | claim | cancelWaiting => exact hresumes.elim
  | resumeLock y clock setup =>
      simp only [step] at h
      split at h
      · rename_i call hcall
        obtain ⟨cancelled, hwaiting, ⟨-, call', hinside⟩ | ⟨call', hidle, hcalls, -⟩⟩ :=
          resumeLock_spec h
        · refine ⟨y, call, call', hcall, hinside.calls, ?_⟩
          rw [callSteps_of_waiting term hwaiting]
          exact Nat.lt_succ_of_le (hinside.callSteps_le term)
        · refine ⟨y, call, call', hcall, hcalls, ?_⟩
          rw [callSteps_of_waiting term hwaiting, (callSteps_eq_zero term).mpr hidle]
          exact Nat.succ_pos _
      · cases h
  | advance y input =>
      simp only [step] at h
      split at h
      · rename_i call hcall
        obtain ⟨stage, hstage, call', hinside, hnext⟩ := advance_inside h
        refine ⟨y, .claim call, call', hcall, hinside.calls, ?_⟩
        rw [callSteps_of_registering term hstage]
        cases hinside with
        | stays claim next hclaim =>
            obtain ⟨store, hresume⟩ := hnext next ⟨claim, rfl, hclaim⟩
            rw [callSteps_of_registering term hclaim]
            exact Nat.succ_lt_succ (term.resume_lt _ _ _ _ _ hresume)
        | ends _ hidle =>
            rw [(callSteps_eq_zero term).mpr hidle]
            exact Nat.succ_pos _
      · cases h

include term in
theorem exists_advance {call : ClaimCall Digest B} {stage : B.Stage}
    (hcall : s.calls x = some (.claim call)) (hstage : call.stage = .registering stage)
    (hregistration : call.registration ≠ none) :
    ∃ action, Resumes action ∧ step config s action ≠ none := by
  obtain ⟨registration, hregistration⟩ := Option.ne_none_iff_exists'.mp hregistration
  obtain ⟨input, hresume⟩ := term.resumes stage s.store
  refine ⟨.advance x input, trivial, ?_⟩
  simp only [step, hcall, advance, hstage, hregistration]
  split
  · rename_i hnone
    exact absurd hnone hresume
  · exact Option.some_ne_none _
  · exact Option.some_ne_none _
  · exact Option.some_ne_none _

include term in
theorem exists_resumes (hserves : Serves s.lock (role s))
    (hregistering : ∀ y call stage, s.calls y = some (.claim call) →
      call.stage = .registering stage → call.registration ≠ none)
    (hx : role s x ≠ .idle) : ∃ action, Resumes action ∧ step config s action ≠ none := by
  have hholder {y : Nat} (hy : role s y = .holds) :
      ∃ action, Resumes action ∧ step config s action ≠ none := by
    cases hcall : s.calls y with
    | none =>
        rw [role_fresh hcall] at hy
        cases hy
    | some call =>
        rw [role_eq hcall] at hy
        obtain ⟨claim, stage, rfl, hstage⟩ := registering_of_callRole hy
        exact exists_advance term hcall hstage (hregistering y claim stage hcall hstage)
  cases hrole : role s x with
  | idle => exact absurd hrole hx
  | holds => exact hholder hrole
  | waits cancelRequested =>
      by_cases hheld : ∃ y, role s y = .holds
      · obtain ⟨y, hy⟩ := hheld
        exact hholder hy
      · obtain ⟨y, flag, hy, hawake⟩ := hserves.exists_awake hrole (not_exists.mp hheld)
        cases hcall : s.calls y with
        | none =>
            rw [role_fresh hcall] at hy
            cases hy
        | some call =>
            rw [role_eq hcall] at hy
            have hwaiting := waiting_of_callRole hy
            refine ⟨.resumeLock y ⟨0, none⟩ term.setup, trivial, ?_⟩
            rcases hawake with hwoken | ⟨hcancelled, rfl⟩
            · cases flag with
              | false => simp [step, hcall, resumeLock, hwaiting, hwoken]
              | true => simp [step, hcall, resumeLock, hwaiting, hwoken]
            · simp [step, hcall, resumeLock, hwaiting, hcancelled]

end Measure

end JarvisCore.Pairing.Progress
