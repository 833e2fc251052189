import JarvisCore.Pairing.Backends

namespace JarvisCore.Pairing.DurableClaim

open JarvisCore.Domain.Values
open JarvisCore.Domain.Errors
open JarvisCore.Domain.Models
open JarvisCore.Foundation.AsyncIO
open JarvisCore.Foundation.Dictionary
open JarvisCore.Foundation.Text
open JarvisCore.Foundation.TransitionSystem
open JarvisCore.Pairing.Challenges
open JarvisCore.Pairing.Contract
open JarvisCore.Pairing.Backends
open JarvisCore.Pairing.Backends.Sql
open JarvisCore.Security.Credentials
open JarvisCore.Security.DeviceTables

variable {Digest : Type} {codec : DeviceCredentialCodec Digest}

abbrev Step (codec : DeviceCredentialCodec Digest) :=
  Transition (State Digest (sql codec)) (Action (sql codec)) (Event Digest)

/-- Both rows of a registration are in the database. -/
structure Holds (rows : Rows Digest) (tables : Tables Digest) : Prop where
  device : tables.devices.lookup rows.device.id = some (durableValues rows.device)
  credential : tables.credentials.lookup rows.issued.id =
    some ⟨rows.device.id, rows.issued.digest, rows.createdAt⟩

theorem commit_holds {rows : Rows Digest} {tables tables' : Tables Digest}
    (h : commit rows tables = some tables') : Holds rows tables' := by
  obtain ⟨-, -, -, hdevices, hcredentials⟩ := Tables.register_eq_some h
  constructor
  · rw [hdevices]
    exact AList.lookup_insert _
  · rw [hcredentials]
    exact AList.lookup_insert _

theorem Holds.commit {rows rows' : Rows Digest} {tables tables' : Tables Digest}
    (hholds : Holds rows tables) (h : commit rows' tables = some tables') : Holds rows tables' := by
  obtain ⟨hdevice, hcredential, -, hdevices, hcredentials⟩ := Tables.register_eq_some h
  constructor
  · rw [hdevices, Dict.lookup_insert_eq, if_neg, hholds.device]
    intro hid
    rw [← hid, hholds.device] at hdevice
    cases hdevice
  · rw [hcredentials, Dict.lookup_insert_eq, if_neg, hholds.credential]
    intro hid
    rw [← hid, hholds.credential] at hcredential
    cases hcredential

theorem commit_ne {rows : Rows Digest} {tables : Tables Digest} :
    commit rows tables ≠ some tables := by
  intro h
  have hnew := (commit_holds h).device
  rw [(Tables.register_eq_some h).1] at hnew
  cases hnew

structure Commits (x : Nat) (registration : Registration Digest) (rows : Rows Digest)
    (u : Step codec) : Prop where
  own : actor u.action = x
  call : ∃ call, u.source.calls x = some (.claim call) ∧
    call.registration = some registration ∧ call.stage = .registering (.committing rows)
  committed : commit rows u.source.store = some u.target.store

/-- The claim is interrupted at an await while its rows are in the database already:
in the commit that has taken effect, or while the session is closed after it. -/
def InterruptedAfterCommit (x : Nat) (u : Step codec) : Prop :=
  ∃ error applied call, u.action = .advance x (.interrupted error applied) ∧
    u.source.calls x = some (.claim call) ∧
    ((∃ rows, call.stage = .registering (.closing rows)) ∨
      ∃ rows, call.stage = .registering (.committing rows) ∧ applied = true ∧
        (commit rows u.source.store).isSome)

/-- How far a call has come towards its commit, and past it. -/
inductive Phase (Digest : Type)
  | uncommitted
  | committed (registration : Option (Registration Digest)) (rows : Rows Digest)
  | raising
  | returned (registration : Option (Registration Digest)) (credential : DeviceCredential)

def phase : Option (PairingCall Digest (sql codec)) → Phase Digest
  | some (.claim ⟨_, _, _, registration, .registering (.closing rows)⟩) =>
      .committed registration rows
  | some (.claim ⟨_, _, _, _, .registering (.aborting _)⟩)
  | some (.claim ⟨_, _, _, _, .finished (.error _)⟩) => .raising
  | some (.claim ⟨_, _, _, registration, .finished (.ok (some credential))⟩) =>
      .returned registration credential
  | _ => .uncommitted

/-- The rows that a claim still has to write, or has just written. -/
def stagedRows : PairingCall Digest (sql codec) → Option (Rows Digest)
  | .claim ⟨_, _, _, _, .registering (.flushing rows)⟩
  | .claim ⟨_, _, _, _, .registering (.committing rows)⟩
  | .claim ⟨_, _, _, _, .registering (.closing rows)⟩ => some rows
  | _ => none

/-- The staged rows are those of the new device that the claim registers. -/
def Staged (s : State Digest (sql codec)) : Prop :=
  ∀ x call rows, s.calls x = some (.claim call) → stagedRows (.claim call) = some rows →
    ∃ registration, call.registration = some registration ∧
      rows.device = registration.device ∧ rows.device.revokedAt = none

inductive Resumes (tables : Tables Digest) :
    Stage Digest → AwaitOutcome → Tables Digest × Resumption (Stage Digest) → Prop
  | flushed (rows : Rows Digest) (outcome : AwaitOutcome) :
      Resumes tables (.flushing rows) outcome (tables, .suspended (.committing rows))
  | unflushed (rows : Rows Digest) (outcome : AwaitOutcome) (error : Raised) :
      Resumes tables (.flushing rows) outcome (tables, .suspended (.aborting error))
  | committed (rows : Rows Digest) (store : Tables Digest) : commit rows tables = some store →
      Resumes tables (.committing rows) .completed (store, .suspended (.closing rows))
  | cut (rows : Rows Digest) (store : Tables Digest) (error : Raised) :
      commit rows tables = some store →
      Resumes tables (.committing rows) (.interrupted error true)
        (store, .suspended (.aborting error))
  | uncommitted (rows : Rows Digest) (outcome : AwaitOutcome) (error : Raised) :
      (∀ error', outcome = .interrupted error' true → commit rows tables = none) →
      Resumes tables (.committing rows) outcome (tables, .suspended (.aborting error))
  | closed (rows : Rows Digest) :
      Resumes tables (.closing rows) .completed (tables, .returned rows.issued.token)
  | unclosed (rows : Rows Digest) (error : Raised) (applied : Bool) :
      Resumes tables (.closing rows) (.interrupted error applied) (tables, .raised error)
  | aborted (error error' : Raised) (outcome : AwaitOutcome) :
      Resumes tables (.aborting error) outcome (tables, .raised error')

theorem resume_cases (stage : Stage Digest) (outcome : AwaitOutcome) (tables : Tables Digest) :
    Resumes tables stage outcome (Sql.resume stage outcome tables) := by
  cases stage with
  | flushing rows =>
      cases outcome with
      | completed =>
          by_cases htaken : tables.holdsDevice rows.device.id = true
          · simp only [Sql.resume, if_pos htaken]
            exact .unflushed rows _ _
          · simp only [Sql.resume, if_neg htaken]
            exact .flushed rows _
      | interrupted error applied => exact .unflushed rows _ error
  | committing rows =>
      cases outcome with
      | completed =>
          cases hcommit : commit rows tables with
          | none =>
              simp only [Sql.resume, hcommit]
              exact .uncommitted rows _ _ (by simp)
          | some committed =>
              simp only [Sql.resume, hcommit]
              exact .committed rows committed hcommit
      | interrupted error applied =>
          cases applied with
          | false => exact .uncommitted rows _ error (by simp)
          | true =>
              cases hcommit : commit rows tables with
              | none =>
                  simp only [Sql.resume, hcommit]
                  exact .uncommitted rows _ error (fun _ _ => hcommit)
              | some committed =>
                  simp only [Sql.resume, hcommit]
                  exact .cut rows committed error hcommit
  | closing rows =>
      cases outcome with
      | completed => exact .closed rows
      | interrupted error applied => exact .unclosed rows error applied
  | aborting error =>
      cases outcome with
      | completed => exact .aborted error error _
      | interrupted error' applied => exact .aborted error error' _

inductive Moves (u : Step codec) : Phase Digest → Phase Digest → Prop
  | prepares : u.target.store = u.source.store → ¬ InterruptedAfterCommit (actor u.action) u →
      Moves u .uncommitted .uncommitted
  | fails : u.target.store = u.source.store → ¬ InterruptedAfterCommit (actor u.action) u →
      Moves u .uncommitted .raising
  | commits (registration : Registration Digest) (rows : Rows Digest) :
      Commits (actor u.action) registration rows u →
      ¬ InterruptedAfterCommit (actor u.action) u →
      Moves u .uncommitted (.committed (some registration) rows)
  | cut (registration : Registration Digest) (rows : Rows Digest) :
      Commits (actor u.action) registration rows u → InterruptedAfterCommit (actor u.action) u →
      Moves u .uncommitted .raising
  | returns (registration : Registration Digest) (rows : Rows Digest) :
      u.target.store = u.source.store → ¬ InterruptedAfterCommit (actor u.action) u →
      rows.device = registration.device →
      .claimed (actor u.action) registration.record.challenge
        ⟨registration.device, rows.issued.token⟩ ∈ u.events →
      Moves u (.committed (some registration) rows)
        (.returned (some registration) ⟨registration.device, rows.issued.token⟩)
  | closes (registration : Option (Registration Digest)) (rows : Rows Digest) :
      u.target.store = u.source.store → InterruptedAfterCommit (actor u.action) u →
      Moves u (.committed registration rows) .raising
  | aborts : u.target.store = u.source.store → ¬ InterruptedAfterCommit (actor u.action) u →
      Moves u .raising .raising

theorem interrupted_iff {u : Step codec} {x : Nat} {call : ClaimCall Digest (sql codec)}
    (hcall : u.source.calls x = some (.claim call)) :
    InterruptedAfterCommit x u ↔
      ∃ error applied, u.action = .advance x (.interrupted error applied) ∧
        ((∃ rows, call.stage = .registering (.closing rows)) ∨
          ∃ rows, call.stage = .registering (.committing rows) ∧ applied = true ∧
            (commit rows u.source.store).isSome) := by
  constructor
  · rintro ⟨error, applied, call', haction, hcall', hstage⟩
    obtain rfl : call' = call := by simpa [hcall] using hcall'.symm
    exact ⟨error, applied, haction, hstage⟩
  · rintro ⟨error, applied, haction, hstage⟩
    exact ⟨error, applied, call, haction, hcall, hstage⟩

theorem not_interrupted {u : Step codec} {x : Nat}
    (hearly : ∀ call, u.source.calls x = some (.claim call) → ∀ rows,
      call.stage ≠ .registering (.closing rows) ∧ call.stage ≠ .registering (.committing rows)) :
    ¬ InterruptedAfterCommit x u := by
  rintro ⟨error, applied, call, -, hcall, ⟨rows, hstage⟩ | ⟨rows, hstage, -⟩⟩
  · exact (hearly call hcall rows).1 hstage
  · exact (hearly call hcall rows).2 hstage

variable [DecidableEq Digest] {config : Config Digest}

theorem registering_moves {s t : State Digest (sql codec)} {action : Action (sql codec)}
    {events : List (Event Digest)} {call : ClaimCall Digest (sql codec)} {stage : Stage Digest}
    (hstaged : Staged s) (h : step config s action = some (t, events))
    (hcall : s.calls (actor action) = some (.claim call)) (hstage : call.stage = .registering stage) :
    Moves ⟨s, action, events, t⟩ (phase (s.calls (actor action)))
      (phase (t.calls (actor action))) := by
  obtain ⟨outcome, registration, haction, hregistration, hadvance⟩ :=
    step_registering h hcall hstage
  have hiff := interrupted_iff (u := ⟨s, action, events, t⟩) hcall
  have hown : ∃ call', s.calls (actor action) = some (.claim call') ∧
      call'.registration = some registration ∧ call'.stage = .registering stage :=
    ⟨call, hcall, hregistration, hstage⟩
  have hearly (hstages : ∀ rows, stage ≠ .closing rows ∧ stage ≠ .committing rows)
      (call' : ClaimCall Digest (sql codec)) (hcall' : s.calls (actor action) = some (.claim call'))
      (rows : Rows Digest) : call'.stage ≠ .registering (.closing rows) ∧
        call'.stage ≠ .registering (.committing rows) := by
    obtain rfl : call' = call := by simpa [hcall] using hcall'.symm
    rw [hstage]
    constructor
    · intro h
      exact (hstages rows).1 (ClaimStage.registering.inj h)
    · intro h
      exact (hstages rows).2 (ClaimStage.registering.inj h)
  have hdevice := hstaged (actor action) call
  have hresumes := resume_cases stage outcome s.store
  obtain ⟨pairingId, secret, name, registration', stage'⟩ := call
  obtain rfl := hstage
  obtain rfl := hregistration
  rw [hcall]
  cases hadvance with
  | suspends store next hresume =>
      rw [Option.some.inj hresume] at hresumes
      rw [show (setCall { s with store } (actor action) _).calls (actor action) = _ from
        Function.update_self _ _ _]
      cases hresumes with
      | flushed rows => exact .prepares rfl (not_interrupted (hearly fun _ => ⟨nofun, nofun⟩))
      | unflushed rows => exact .fails rfl (not_interrupted (hearly fun _ => ⟨nofun, nofun⟩))
      | committed rows store hcommit =>
          refine .commits registration rows ⟨rfl, hown, hcommit⟩ ?_
          rw [hiff]
          rintro ⟨error, applied, h, -⟩
          cases haction.symm.trans h
      | cut rows store error hcommit =>
          refine .cut registration rows ⟨rfl, hown, hcommit⟩ ?_
          rw [hiff]
          exact ⟨error, true, haction, .inr ⟨rows, rfl, rfl, Option.isSome_iff_exists.mpr ⟨store, hcommit⟩⟩⟩
      | uncommitted rows outcome error hnone =>
          refine .fails rfl ?_
          rw [hiff]
          rintro ⟨error', applied, h, ⟨rows', h'⟩ | ⟨rows', h', rfl, hsome⟩⟩
          · cases h'
          · cases haction.symm.trans h
            cases h'
            rw [hnone error' rfl] at hsome
            cases hsome
  | raises store error hresume =>
      rw [Option.some.inj hresume] at hresumes
      rw [show (finishClaim { s with store } (actor action) _ _).calls (actor action) = _ from
        Function.update_self _ _ _]
      cases hresumes with
      | unclosed rows error applied =>
          refine .closes (some registration) rows rfl ?_
          rw [hiff]
          exact ⟨error, applied, haction, .inl ⟨rows, rfl⟩⟩
      | aborted error => exact .aborts rfl (not_interrupted (hearly fun _ => ⟨nofun, nofun⟩))
  | returns store token hresume =>
      rw [Option.some.inj hresume] at hresumes
      rw [show (finishClaim _ (actor action) _ _).calls (actor action) = _ from
        Function.update_self _ _ _]
      cases hresumes with
      | closed rows =>
          obtain ⟨registration', hregistration, hrows, -⟩ := hdevice rows hcall rfl
          cases hregistration
          refine .returns registration rows rfl ?_ hrows (List.mem_singleton_self _)
          rw [hiff]
          rintro ⟨error, applied, h, -⟩
          cases haction.symm.trans h

omit [DecidableEq Digest] in
theorem phase_of_waits {call : PairingCall Digest (sql codec)} (h : Waits call) :
    phase (some call) = .uncommitted := by
  cases call with
  | refused => rfl
  | create => rfl
  | claim call =>
      obtain ⟨cancelled, hstage⟩ := stage_of_waits h
      obtain ⟨pairingId, secret, name, registration, stage⟩ := call
      obtain rfl := hstage
      rfl

omit [DecidableEq Digest] in
theorem closing_of_phase {call : Option (PairingCall Digest (sql codec))}
    {registration : Option (Registration Digest)} {rows : Rows Digest}
    (h : phase call = .committed registration rows) :
    ∃ claim, call = some (.claim claim) ∧ claim.stage = .registering (.closing rows) := by
  unfold phase at h
  split at h
  · cases h
    exact ⟨_, rfl, rfl⟩
  all_goals cases h

omit [DecidableEq Digest] in
theorem outside (u : Step codec) {x : Nat}
    (hold : u.source.calls x = none ∨ ∃ old, u.source.calls x = some old ∧ Waits old) :
    phase (u.source.calls x) = .uncommitted ∧ ¬ InterruptedAfterCommit x u := by
  rcases hold with hold | ⟨old, hold, hwaits⟩
  · rw [hold]
    refine ⟨rfl, not_interrupted ?_⟩
    intro call hcall
    rw [hold] at hcall
    cases hcall
  · rw [hold]
    refine ⟨phase_of_waits hwaits, not_interrupted ?_⟩
    intro call hcall rows
    obtain rfl : old = .claim call := by simpa [hold] using hcall
    obtain ⟨cancelled, hstage⟩ := stage_of_waits hwaits
    rw [hstage]
    exact ⟨nofun, nofun⟩

omit [DecidableEq Digest] in
theorem start_cases {setup : (sql codec).Setup} {name : String}
    {granted : Finset DeviceCapability} {now : AwareDatetime} {tables tables' : (sql codec).Store}
    {result : Except Raised (Device × (sql codec).Stage)}
    (h : (sql codec).start setup name granted now tables = (tables', result)) :
    tables' = tables ∧ ∀ device stage, result = .ok (device, stage) →
      device.revokedAt = none ∧ ∃ issued, stage = Stage.flushing ⟨device, issued, now⟩ ∧
        ∃ credentialId tokenSecret, codec.issue credentialId tokenSecret = .ok issued := by
  simp only [sql, Sql.start] at h
  split at h
  · obtain ⟨rfl, rfl⟩ := Prod.mk.inj h
    exact ⟨rfl, by simp⟩
  · split at h
    · obtain ⟨rfl, rfl⟩ := Prod.mk.inj h
      exact ⟨rfl, by simp⟩
    · rename_i known hknown _ issued hissued
      obtain ⟨rfl, rfl⟩ := Prod.mk.inj h
      refine ⟨rfl, ?_⟩
      rintro device stage heq
      obtain ⟨rfl, rfl⟩ := Prod.mk.inj (Except.ok.inj heq)
      exact ⟨(Device.make_eq_ok hknown).2.2.2.2.2.2.2, issued, rfl, _, _, hissued⟩

theorem step_moves {log : List (Event Digest)} {s t : State Digest (sql codec)}
    {action : Action (sql codec)} {events : List (Event Digest)} (hinv : Inv config log s)
    (hstaged : Staged s) (h : step config s action = some (t, events)) :
    Moves ⟨s, action, events, t⟩ (phase (s.calls (actor action)))
      (phase (t.calls (actor action))) := by
  have hfire := h
  generalize hr : (t, events) = r at h
  obtain rfl : t = r.1 := congrArg Prod.fst hr
  cases step_effect hinv.lock hinv.calls h with
  | quiet t' call hcalls _ hstore _ _ hold _ hstage =>
      obtain ⟨hphase, hnot⟩ := outside ⟨s, action, [], t'⟩ hold
      rw [hphase, hcalls, Function.update_self]
      rcases hstage with hwaits | ⟨error, rfl⟩ | ⟨cc, rfl, -⟩ | ⟨cc, rfl, hfinished, -⟩
      · rw [phase_of_waits hwaits]
        exact .prepares hstore hnot
      · exact .prepares hstore hnot
      · exact .prepares hstore hnot
      · obtain ⟨pairingId, secret, name, registration, stage⟩ := cc
        obtain rfl := hfinished
        exact .fails hstore hnot
  | creates lock call _ _ _ hold _ hwaits =>
      obtain ⟨hphase, hnot⟩ := outside ⟨s, action, events, (createSection { s with lock }
        (actor action) call).1⟩ (hold.imp_right fun hold => ⟨_, hold, hwaits⟩)
      rw [hphase]
      rcases createSection_cases { s with lock } (actor action) call with ⟨record, -, h⟩ | ⟨-, h⟩
      all_goals
        rw [h] at hnot ⊢
        rw [show phase ((finishCreate _ (actor action) call _).calls (actor action)) = _ from
          congrArg phase (Function.update_self _ _ _)]
        exact .prepares rfl hnot
  | claims lock call r _ _ _ hold _ hwaits hsection =>
      obtain ⟨hphase, hnot⟩ := outside ⟨s, action, events, r.1⟩
        (hold.imp_right fun hold => ⟨_, hold, hwaits⟩)
      rw [hphase]
      cases hsection with
      | unknown =>
          simp only [finishClaim, setCall, Function.update_self]
          exact .prepares rfl hnot
      | unread error =>
          simp only [finishClaim, setCall, Function.update_self]
          exact .fails rfl hnot
      | expired record now =>
          simp only [finishClaim, setCall, Function.update_self]
          exact .prepares rfl hnot
      | wrong record now =>
          simp only [finishClaim, setCall, Function.update_self]
          exact .prepares rfl hnot
      | failed record now store error _ hstart =>
          obtain ⟨setup, hstart⟩ := hstart
          obtain ⟨rfl, -⟩ := start_cases hstart
          simp only [finishClaim, setCall, Function.update_self]
          exact .fails rfl hnot
      | registers record now store device stage _ _ _ _ hstart =>
          obtain ⟨setup, hstart⟩ := hstart
          obtain ⟨rfl, hstage⟩ := start_cases hstart
          obtain ⟨-, issued, rfl, -⟩ := hstage device stage rfl
          simp only [setCall, Function.update_self]
          exact .prepares rfl hnot
  | advances call stage registration input r hcall hstage =>
      exact registering_moves hstaged hfire hcall hstage

omit [DecidableEq Digest] in
theorem stagedRows_of_waits {call : PairingCall Digest (sql codec)} (h : Waits call) :
    stagedRows call = none := by
  cases call with
  | refused => rfl
  | create => rfl
  | claim call =>
      obtain ⟨cancelled, hstage⟩ := stage_of_waits h
      obtain ⟨pairingId, secret, name, registration, stage⟩ := call
      obtain rfl := hstage
      rfl

omit [DecidableEq Digest] in
theorem stagedRows_resume {s : State Digest (sql codec)} {x : Nat}
    {call : ClaimCall Digest (sql codec)} {stage : Stage Digest}
    {registration : Registration Digest} {outcome : AwaitOutcome}
    {r : Result Digest (sql codec)} (hstage : call.stage = .registering stage)
    (hadvance : Advance s x call stage registration outcome r) {call' : ClaimCall Digest (sql codec)}
    (hcall : r.1.calls x = some (.claim call')) {rows : Rows Digest}
    (hrows : stagedRows (.claim call') = some rows) :
    call'.registration = call.registration ∧ stagedRows (.claim call) = some rows := by
  obtain ⟨pairingId, secret, name, registration', stage'⟩ := call
  obtain rfl := hstage
  have hresumes := resume_cases stage outcome s.store
  cases hadvance with
  | suspends store next hresume =>
      rw [Option.some.inj hresume] at hresumes
      simp only [setCall, Function.update_self] at hcall
      obtain rfl := PairingCall.claim.inj (Option.some.inj hcall)
      refine ⟨rfl, ?_⟩
      cases hresumes with
      | flushed => exact hrows
      | unflushed => cases hrows
      | committed => exact hrows
      | cut => cases hrows
      | uncommitted => cases hrows
  | raises | returns =>
      simp only [finishClaim, setCall, Function.update_self] at hcall
      obtain rfl := PairingCall.claim.inj (Option.some.inj hcall)
      cases hrows

/-- Rows are staged when a claim starts its registration, for the device it registers and
with the credential that the codec has issued. -/
theorem step_stagedRows {log : List (Event Digest)} {s t : State Digest (sql codec)}
    {action : Action (sql codec)} {events : List (Event Digest)} (hinv : Inv config log s)
    (h : step config s action = some (t, events)) {x : Nat} {call : ClaimCall Digest (sql codec)}
    {rows : Rows Digest} (hcall : t.calls x = some (.claim call))
    (hrows : stagedRows (.claim call) = some rows) :
    (∃ call', s.calls x = some (.claim call') ∧ call.registration = call'.registration ∧
        stagedRows (.claim call') = some rows) ∨
      (∃ registration, call.registration = some registration ∧ rows.device = registration.device) ∧
        rows.device.revokedAt = none ∧
        ∃ credentialId tokenSecret, codec.issue credentialId tokenSecret = .ok rows.issued := by
  by_cases hx : x = actor action
  swap
  · rw [step_others hinv h hx] at hcall
    exact .inl ⟨call, hcall, rfl, hrows⟩
  subst hx
  generalize hr : (t, events) = r at h
  obtain rfl : t = r.1 := congrArg Prod.fst hr
  cases step_effect hinv.lock hinv.calls h with
  | quiet t' call' hcalls _ _ _ _ _ _ hstage =>
      rw [hcalls, Function.update_self] at hcall
      obtain rfl := Option.some.inj hcall
      rcases hstage with hwaits | ⟨error, h⟩ | ⟨cc, h, -⟩ | ⟨cc, h, hfinished, -⟩
      · rw [stagedRows_of_waits hwaits] at hrows
        cases hrows
      · cases h
      · cases h
      · cases h
        obtain ⟨pairingId, secret, name, registration, stage⟩ := call
        obtain rfl := hfinished
        cases hrows
  | creates lock call' =>
      rcases createSection_cases { s with lock } (actor action) call' with ⟨_, -, h⟩ | ⟨-, h⟩
      all_goals
        rw [h] at hcall
        simp [finishCreate, setCall] at hcall
  | claims lock call' r _ _ _ _ _ _ hsection =>
      cases hsection with
      | unknown | unread | expired | wrong | failed =>
          simp only [finishClaim, setCall, Function.update_self] at hcall
          obtain rfl := PairingCall.claim.inj (Option.some.inj hcall)
          cases hrows
      | registers record now store device stage _ _ _ _ hstart =>
          obtain ⟨setup, hstart⟩ := hstart
          obtain ⟨hnew, issued, rfl, hissued⟩ := (start_cases hstart).2 device stage rfl
          simp only [setCall, Function.update_self] at hcall
          obtain rfl := PairingCall.claim.inj (Option.some.inj hcall)
          cases hrows
          exact .inr ⟨⟨_, rfl, rfl⟩, hnew, hissued⟩
  | advances call' stage registration input r hold hstage _ hadvance =>
      obtain ⟨hsame, hrows⟩ := stagedRows_resume hstage hadvance hcall hrows
      exact .inl ⟨call', hold, hsame, hrows⟩

theorem Staged.step {log : List (Event Digest)} {s t : State Digest (sql codec)}
    {action : Action (sql codec)} {events : List (Event Digest)} (hinv : Inv config log s)
    (hstaged : Staged s) (h : step config s action = some (t, events)) : Staged t := by
  intro x call rows hcall hrows
  rcases step_stagedRows hinv h hcall hrows with
    ⟨call', hcall', hsame, hrows'⟩ | ⟨⟨registration, hregistration, hdevice⟩, hnew, -⟩
  · rw [hsame]
    exact hstaged x call' rows hcall' hrows'
  · exact ⟨registration, hregistration, hdevice, hnew⟩

/-- The credential of staged rows is one that the codec has issued. -/
def Issued (s : State Digest (sql codec)) : Prop :=
  ∀ x call rows, s.calls x = some (.claim call) → stagedRows (.claim call) = some rows →
    ∃ credentialId tokenSecret, codec.issue credentialId tokenSecret = .ok rows.issued

theorem Issued.step {log : List (Event Digest)} {s t : State Digest (sql codec)}
    {action : Action (sql codec)} {events : List (Event Digest)} (hinv : Inv config log s)
    (hissued : Issued s) (h : step config s action = some (t, events)) : Issued t := by
  intro x call rows hcall hrows
  rcases step_stagedRows hinv h hcall hrows with ⟨call', hcall', -, hrows'⟩ | ⟨-, -, hnew⟩
  · exact hissued x call' rows hcall' hrows'
  · exact hnew

theorem staged_of_run {tables : Tables Digest} {history : List (Step codec)}
    {s : State Digest (sql codec)}
    (hrun : Run (pairing config tables) (State.initial (sql codec) tables) history s) : Staged s := by
  refine hrun.historyInvariant (fun _ s => Staged s) ?_ ?_
  · intro x call rows hcall
    cases hcall
  · intro history s action t events hprev hstaged h
    exact hstaged.step (inv_of_run hprev) h

section Ledger

def Committed (history : List (Step codec)) (x : Nat) (registration : Registration Digest)
    (rows : Rows Digest) : Prop :=
  ∃ u ∈ history, Commits x registration rows u

def Uncommitted (history : List (Step codec)) (x : Nat) : Prop :=
  ∀ registration rows, ¬ Committed history x registration rows

def Uninterrupted (history : List (Step codec)) (x : Nat) : Prop :=
  ∀ u ∈ history, ¬ InterruptedAfterCommit x u

/-- Exactly one registration of the call is in the database. -/
def Wrote (history : List (Step codec)) (x : Nat) (registration : Option (Registration Digest))
    (rows : Rows Digest) : Prop :=
  (∃ known, registration = some known ∧ Committed history x known rows) ∧
    ∀ known rows', Committed history x known rows' → registration = some known

/-- What the steps of a call have done when it is in a phase. -/
def Ledger (history : List (Step codec)) (x : Nat) : Phase Digest → Prop
  | .uncommitted => Uncommitted history x ∧ Uninterrupted history x
  | .committed registration rows => Wrote history x registration rows ∧ Uninterrupted history x
  | .raising => (Uncommitted history x ∧ Uninterrupted history x) ∨
      ((∃ registration rows, Committed history x registration rows) ∧ ¬ Uninterrupted history x)
  | .returned registration credential => ∃ known rows, registration = some known ∧
      Wrote history x registration rows ∧ Uninterrupted history x ∧
      credential = ⟨rows.device, rows.issued.token⟩ ∧
      .claimed x known.record.challenge credential ∈ log history

variable {history : List (Step codec)} {u : Step codec} {x : Nat}

omit [DecidableEq Digest] in
theorem committed_cons {registration : Registration Digest} {rows : Rows Digest} :
    Committed (u :: history) x registration rows ↔
      Commits x registration rows u ∨ Committed history x registration rows := by
  simp [Committed]

omit [DecidableEq Digest] in
theorem uninterrupted_cons : Uninterrupted (u :: history) x ↔
    ¬ InterruptedAfterCommit x u ∧ Uninterrupted history x := by
  simp [Uninterrupted]

omit [DecidableEq Digest] in
theorem committed_cons_of_not (hcommits : ∀ registration rows, ¬ Commits x registration rows u)
    {registration : Registration Digest} {rows : Rows Digest} :
    Committed (u :: history) x registration rows ↔ Committed history x registration rows := by
  rw [committed_cons, or_iff_right (hcommits registration rows)]

omit [DecidableEq Digest] in
theorem Wrote.cons {registration : Option (Registration Digest)} {rows : Rows Digest}
    (h : Wrote history x registration rows)
    (hcommits : ∀ registration rows, ¬ Commits x registration rows u) :
    Wrote (u :: history) x registration rows := by
  simp only [Wrote, committed_cons_of_not hcommits]
  exact h

omit [DecidableEq Digest] in
/-- A step that neither commits for a call nor interrupts it after its commit. -/
theorem Ledger.cons {p : Phase Digest} (h : Ledger history x p)
    (hcommits : ∀ registration rows, ¬ Commits x registration rows u)
    (hnot : ¬ InterruptedAfterCommit x u) : Ledger (u :: history) x p := by
  cases p with
  | uncommitted | raising | committed =>
      simpa only [Ledger, Uncommitted, Wrote, committed_cons_of_not hcommits, uninterrupted_cons,
        hnot, not_false_eq_true, true_and] using h
  | returned registration credential =>
      obtain ⟨known, rows, hknown, hwrote, huninterrupted, hcredential, hclaimed⟩ := h
      refine ⟨known, rows, hknown, hwrote.cons hcommits,
        uninterrupted_cons.mpr ⟨hnot, huninterrupted⟩, hcredential, ?_⟩
      exact List.mem_append_right _ hclaimed

omit [DecidableEq Digest] in
theorem not_commits (hsame : u.target.store = u.source.store)
    (registration : Registration Digest) (rows : Rows Digest) :
    ¬ Commits x registration rows u := by
  intro h
  have hcommitted := h.committed
  rw [hsame] at hcommitted
  exact commit_ne hcommitted

omit [DecidableEq Digest] in
theorem Commits.unique {registration registration' : Registration Digest} {rows rows' : Rows Digest}
    (h : Commits x registration rows u) (h' : Commits x registration' rows' u) :
    registration' = registration := by
  obtain ⟨call, hcall, hregistration, -⟩ := h.call
  obtain ⟨call', hcall', hregistration', -⟩ := h'.call
  obtain rfl : call' = call := by simpa [hcall] using hcall'.symm
  rw [hregistration] at hregistration'
  exact (Option.some.inj hregistration').symm

omit [DecidableEq Digest] in
theorem Moves.ledger {p q : Phase Digest} (h : Moves u p q)
    (hledger : Ledger history (actor u.action) p) : Ledger (u :: history) (actor u.action) q := by
  cases h with
  | prepares hsame hnot => exact hledger.cons (not_commits hsame) hnot
  | fails hsame hnot =>
      exact Ledger.cons (p := .raising) (.inl hledger) (not_commits hsame) hnot
  | commits registration rows hcommits hnot =>
      obtain ⟨huncommitted, huninterrupted⟩ := hledger
      refine ⟨⟨⟨registration, rfl, committed_cons.mpr (.inl hcommits)⟩, ?_⟩,
        uninterrupted_cons.mpr ⟨hnot, huninterrupted⟩⟩
      intro known rows' hknown
      rcases committed_cons.mp hknown with hknown | hknown
      · rw [hcommits.unique hknown]
      · exact absurd hknown (huncommitted known rows')
  | cut registration rows hcommits hinterrupted =>
      refine .inr ⟨⟨registration, rows, committed_cons.mpr (.inl hcommits)⟩, ?_⟩
      rw [uninterrupted_cons]
      exact fun h => h.1 hinterrupted
  | returns registration rows hsame hnot hdevice hclaimed =>
      obtain ⟨hwrote, huninterrupted⟩ := hledger
      refine ⟨registration, rows, rfl, hwrote.cons (not_commits hsame),
        uninterrupted_cons.mpr ⟨hnot, huninterrupted⟩, by rw [hdevice], ?_⟩
      exact List.mem_append_left _ hclaimed
  | closes registration rows hsame hinterrupted =>
      obtain ⟨⟨⟨known, -, hcommitted⟩, -⟩, -⟩ := hledger
      refine .inr ⟨⟨known, rows, committed_cons.mpr (.inr hcommitted)⟩, ?_⟩
      rw [uninterrupted_cons]
      exact fun h => h.1 hinterrupted
  | aborts hsame hnot => exact hledger.cons (not_commits hsame) hnot

theorem ledger_of_run {tables : Tables Digest} {s : State Digest (sql codec)}
    (hrun : Run (pairing config tables) (State.initial (sql codec) tables) history s) (x : Nat) :
    Ledger history x (phase (s.calls x)) := by
  induction hrun with
  | nil => exact ⟨by simp [Uncommitted, Committed], by simp [Uninterrupted]⟩
  | @step history s action events t hprev h ih =>
      by_cases hx : x = actor action
      · subst hx
        exact (step_moves (inv_of_run hprev) (staged_of_run hprev) h).ledger ih
      · rw [step_others (inv_of_run hprev) h hx]
        refine ih.cons ?_ ?_
        · intro registration rows hcommits
          exact hx hcommits.own.symm
        · rintro ⟨error, applied, call, haction, -⟩
          obtain rfl : action = _ := haction
          exact hx rfl

end Ledger

omit [DecidableEq Digest] in
theorem Moves.store {u : Step codec} {p q : Phase Digest} (h : Moves u p q) :
    u.target.store = u.source.store ∨ ∃ registration rows,
      Commits (actor u.action) registration rows u := by
  cases h with
  | prepares hsame | fails hsame | aborts hsame => exact .inl hsame
  | closes _ _ hsame => exact .inl hsame
  | returns registration rows hsame => exact .inl hsame
  | commits registration rows hcommits => exact .inr ⟨registration, rows, hcommits⟩
  | cut registration rows hcommits => exact .inr ⟨registration, rows, hcommits⟩

section Runs

variable {tables : Tables Digest} {history : List (Step codec)} {s : State Digest (sql codec)}

theorem holds_of_run
    (hrun : Run (pairing config tables) (State.initial (sql codec) tables) history s) {x : Nat}
    {registration : Registration Digest} {rows : Rows Digest}
    (hcommitted : Committed history x registration rows) : Holds rows s.store := by
  induction hrun with
  | nil =>
      obtain ⟨u, hu, -⟩ := hcommitted
      cases hu
  | @step history s action events t hprev h ih =>
      have hmoves := step_moves (inv_of_run hprev) (staged_of_run hprev) h
      rcases committed_cons.mp hcommitted with hcommits | hcommitted
      · exact commit_holds hcommits.committed
      · rcases hmoves.store with hsame | ⟨registration', rows', hcommits⟩
        · rw [show t.store = s.store from hsame]
          exact ih hcommitted
        · exact (ih hcommitted).commit hcommits.committed

/-- When a claim that had found its challenge raises, the challenge is still there. -/
theorem raised_record
    (hrun : Run (pairing config tables) (State.initial (sql codec) tables) history s)
    {u : Step codec} (hu : u ∈ history) {call : ClaimCall Digest (sql codec)}
    (hcall : u.target.calls (actor u.action) = some (.claim call)) {error : Raised}
    (hraised : call.stage = .finished (.error error)) {registration : Registration Digest}
    (hregistration : call.registration = some registration) :
    u.target.pairings.lookup call.pairingId = some registration.record := by
  obtain ⟨later, earlier, -, hprev, hfire, -⟩ := hrun.exists_of_mem hu
  obtain ⟨s, action, events, t⟩ := u
  have hinv : Contract.Inv config (log earlier) s := inv_of_run hprev
  have hnone {call' : ClaimCall Digest (sql codec)} (hmade : WellMade config (actor action)
      (.claim call')) (hwaits : Waits (.claim call')) : call'.registration = none :=
    hmade (stage_of_waits hwaits)
  have h : step config s action = some (t, events) := hfire
  generalize hr : (t, events) = r at h
  obtain rfl : t = r.1 := congrArg Prod.fst hr
  cases step_effect hinv.lock hinv.calls h with
  | quiet t' call' hcalls _ _ _ _ _ _ hstage =>
      obtain rfl : call' = .claim call := by simpa [hcalls] using hcall
      rcases hstage with hwaits | ⟨error', h⟩ | ⟨cc, h, -⟩ | ⟨cc, h, -, hnothing⟩
      · obtain ⟨cancelled, hwaits⟩ := stage_of_waits hwaits
        rw [hraised] at hwaits
        cases hwaits
      · cases h
      · cases h
      · cases h
        rw [hregistration] at hnothing
        cases hnothing
  | creates lock call' =>
      rcases createSection_cases { s with lock } (actor action) call' with ⟨_, -, h⟩ | ⟨-, h⟩
      all_goals
        rw [h] at hcall
        simp [finishCreate, setCall] at hcall
  | claims lock call' r _ _ _ _ hmade hwaits hsection =>
      have hempty := hnone hmade hwaits
      cases hsection with
      | unknown | unread | expired | wrong | failed =>
          simp only [finishClaim, setCall, Function.update_self] at hcall
          obtain rfl := PairingCall.claim.inj (Option.some.inj hcall)
          rw [show call'.registration = some registration from hregistration] at hempty
          cases hempty
      | registers =>
          simp only [setCall, Function.update_self] at hcall
          obtain rfl := PairingCall.claim.inj (Option.some.inj hcall)
          cases hraised
  | advances call' stage registration' input r hold hstage hregistration' hadvance =>
      obtain ⟨-, known, hknown, hrecord, -⟩ := hinv.registering _ call' stage hold hstage
      cases hadvance with
      | suspends =>
          simp only [setCall, Function.update_self] at hcall
          obtain rfl := PairingCall.claim.inj (Option.some.inj hcall)
          cases hraised
      | raises =>
          simp only [finishClaim, setCall, Function.update_self] at hcall
          obtain rfl := PairingCall.claim.inj (Option.some.inj hcall)
          obtain rfl : known = registration := by simpa [hknown] using hregistration
          exact hrecord
      | returns =>
          simp only [finishClaim, setCall, Function.update_self] at hcall
          obtain rfl := PairingCall.claim.inj (Option.some.inj hcall)
          cases hraised

end Runs

/-- A claim that is over has changed the database and the challenges, or neither. -/
structure Atomic (history : List (Step codec)) (s : State Digest (sql codec)) (x : Nat)
    (call : ClaimCall Digest (sql codec)) : Prop where
  /-- No step of a claim that raised has written a row or touched a challenge, and its
  challenge was there when it raised. -/
  raised : ∀ error, call.stage = .finished (.error error) → ∀ u ∈ history, actor u.action = x →
    u.target.store = u.source.store ∧ u.target.pairings = u.source.pairings ∧
      ∀ registration, call.registration = some registration →
        u.target.calls x = some (.claim call) →
          u.target.pairings.lookup call.pairingId = some registration.record
  /-- Both rows of a returned credential are in the database and its challenge is gone. -/
  returned : ∀ credential, call.stage = .finished (.ok (some credential)) →
    ∃ registration rows, call.registration = some registration ∧
      credential = ⟨rows.device, rows.issued.token⟩ ∧ Holds rows s.store ∧
      ∀ id record, s.pairings.lookup id = some record →
        record.challenge ≠ registration.record.challenge

def Registers (challenge : Nat) (u : Step codec) : Prop :=
  ∃ x registration rows, Commits x registration rows u ∧
    registration.record.challenge = challenge

section Runs

variable {tables : Tables Digest} {history : List (Step codec)} {s : State Digest (sql codec)}

theorem atomic_iff
    (hrun : Run (pairing config tables) (State.initial (sql codec) tables) history s) {x : Nat}
    {call : ClaimCall Digest (sql codec)} (hcall : s.calls x = some (.claim call))
    {outcome : Except Raised (Option DeviceCredential)} (hover : call.stage = .finished outcome) :
    Atomic history s x call ↔ Uninterrupted history x := by
  have hledger := ledger_of_run hrun x
  rw [hcall] at hledger
  rcases outcome with error | (- | credential)
  · have hraising : Ledger history x .raising := by
      obtain ⟨pairingId, secret, name, registration, stage⟩ := call
      obtain rfl := hover
      exact hledger
    constructor
    · intro hatomic
      rcases hraising with ⟨-, huninterrupted⟩ | ⟨⟨registration, rows, u, hu, hcommits⟩, -⟩
      · exact huninterrupted
      · have hsame := (hatomic.raised error hover u hu hcommits.own).1
        exact absurd hcommits (not_commits hsame registration rows)
    · intro huninterrupted
      have huncommitted : Uncommitted history x := by
        rcases hraising with ⟨huncommitted, -⟩ | ⟨-, hinterrupted⟩
        · exact huncommitted
        · exact absurd huninterrupted hinterrupted
      have hfails : ∀ call, s.calls x = some call → ¬ Succeeded call := by
        intro call' hcall' hsucceeded
        obtain rfl : call' = .claim call := by simpa [hcall] using hcall'.symm
        obtain ⟨credential, hfinished⟩ := hsucceeded
        rw [hover] at hfinished
        cases hfinished
      refine ⟨?_, ?_⟩
      · intro error' _ u hu hown
        subst hown
        refine ⟨?_, run_pairings hrun hfails u hu rfl, ?_⟩
        · obtain ⟨later, earlier, -, hprev, hfire, -⟩ := hrun.exists_of_mem hu
          rcases (step_moves (inv_of_run hprev) (staged_of_run hprev) hfire).store with
            hsame | ⟨registration, rows, hcommits⟩
          · exact hsame
          · exact absurd ⟨u, hu, hcommits⟩ (huncommitted registration rows)
        · intro registration hregistration htarget
          exact raised_record hrun hu htarget hover hregistration
      · intro credential hreturned
        rw [hover] at hreturned
        cases hreturned
  · have huncommitted : Ledger history x .uncommitted := by
      obtain ⟨pairingId, secret, name, registration, stage⟩ := call
      obtain rfl := hover
      exact hledger
    refine iff_of_true ⟨?_, ?_⟩ huncommitted.2
    · intro error hraised
      rw [hover] at hraised
      cases hraised
    · intro credential hreturned
      rw [hover] at hreturned
      cases hreturned
  · have hreturned : Ledger history x (.returned call.registration credential) := by
      obtain ⟨pairingId, secret, name, registration, stage⟩ := call
      obtain rfl := hover
      exact hledger
    obtain ⟨registration, rows, hregistration, ⟨⟨known, hknown, hcommitted⟩, -⟩, huninterrupted,
      hcredential, hclaimed⟩ := hreturned
    refine iff_of_true ⟨?_, ?_⟩ huninterrupted
    · intro error hraised
      rw [hover] at hraised
      cases hraised
    · intro credential' hreturned
      obtain rfl : credential' = credential := by
        simpa using hreturned.symm.trans hover
      refine ⟨registration, rows, hregistration, hcredential, holds_of_run hrun hcommitted, ?_⟩
      intro id record hrecord hsame
      have hlive := (inv_of_run hrun).records id record hrecord
      exact hlive.unclaimed _ (hsame ▸ hclaimed) ⟨x, credential', rfl⟩

/-- Without such interruptions, a claim in the middle of its commit is the first that
registers a device for its challenge. -/
theorem not_registers_of_commits
    (hrun : Run (pairing config tables) (State.initial (sql codec) tables) history s)
    (hcalm : ∀ x, Uninterrupted history x) {u : Step codec} (hsource : u.source = s) {x : Nat}
    {registration : Registration Digest} {rows : Rows Digest}
    (hcommits : Commits x registration rows u) :
    ∀ v ∈ history, ¬ Registers registration.record.challenge v := by
  rintro v hv ⟨y, registration', rows', hearlier, hsame⟩
  have hcommitted : Committed history y registration' rows' := ⟨v, hv, hearlier⟩
  have hinv := inv_of_run hrun
  obtain ⟨call, hcall, hregistration, hstage⟩ := hcommits.call
  rw [hsource] at hcall
  obtain ⟨howner, known, hknown, hrecord, -⟩ := hinv.registering x call _ hcall hstage
  obtain rfl : known = registration := by simpa [hknown] using hregistration
  have hledger := ledger_of_run hrun y
  generalize hp : phase (s.calls y) = p at hledger
  cases p with
  | uncommitted => exact hledger.1 registration' rows' hcommitted
  | raising =>
      rcases hledger with ⟨huncommitted, -⟩ | ⟨-, hinterrupted⟩
      · exact huncommitted registration' rows' hcommitted
      · exact hinterrupted (hcalm y)
  | committed registration'' rows'' =>
      obtain ⟨call', hcall', hstage'⟩ := closing_of_phase hp
      obtain ⟨howner', -⟩ := hinv.registering y call' _ hcall' hstage'
      obtain rfl : y = x := Option.some.inj (howner'.symm.trans howner)
      rw [hcall] at hcall'
      obtain rfl := PairingCall.claim.inj (Option.some.inj hcall')
      cases hstage.symm.trans hstage'
  | returned registration'' credential =>
      obtain ⟨known', rows'', rfl, ⟨-, honly⟩, -, -, hclaimed⟩ := hledger
      obtain rfl : known' = registration' := by simpa using honly registration' rows' hcommitted
      rw [hsame] at hclaimed
      exact (hinv.records _ _ hrecord).unclaimed _ hclaimed ⟨y, credential, rfl⟩

theorem registers_once
    (hrun : Run (pairing config tables) (State.initial (sql codec) tables) history s)
    (hcalm : ∀ x, Uninterrupted history x) (challenge : Nat) :
    (∀ u ∈ history, ¬ Registers challenge u) ∨ ExactlyOnce (Registers challenge) history := by
  induction hrun with
  | nil => exact .inl (by simp)
  | @step history s action events t hprev h ih =>
      have hbefore (x : Nat) : Uninterrupted history x := (uninterrupted_cons.mp (hcalm x)).2
      by_cases hregisters : Registers challenge (⟨s, action, events, t⟩ : Step codec)
      · obtain ⟨x, registration, rows, hcommits, rfl⟩ := hregisters
        exact .inr (.head ⟨x, registration, rows, hcommits, rfl⟩
          (not_registers_of_commits hprev hbefore rfl hcommits))
      · rcases ih hbefore with hnone | honce
        · refine .inl ?_
          intro u hu
          rcases List.mem_cons.mp hu with rfl | hu
          · exact hregisters
          · exact hnone u hu
        · exact .inr (honce.cons hregisters)

end Runs

/-- A claim that is over is atomic exactly when it was not interrupted between its
commit and its end, and without such interruptions a challenge registers one device
at most. -/
theorem durable_claim_atomic_iff (config : Config Digest) (tables : Tables Digest)
    {history : List (Step codec)} {s : State Digest (sql codec)}
    (hrun : Run (pairing config tables) (State.initial (sql codec) tables) history s) :
    (∀ x call outcome, s.calls x = some (.claim call) → call.stage = .finished outcome →
      (Atomic history s x call ↔ ∀ u ∈ history, ¬ InterruptedAfterCommit x u)) ∧
    ((∀ x, ∀ u ∈ history, ¬ InterruptedAfterCommit x u) → ∀ challenge,
      (∀ u ∈ history, ¬ Registers challenge u) ∨ ExactlyOnce (Registers challenge) history) :=
  ⟨fun _ _ _ hcall hover => atomic_iff hrun hcall hover,
    fun hcalm challenge => registers_once hrun hcalm challenge⟩

section Samples

open DeviceCredentialCodec (sampleCodec)

def sampleConfig : Config String where
  digest := id
  maxClaimAttempts := 3
  attempts_positive := by decide

def samplePairing :
    System (State String (sql sampleCodec)) (Action (sql sampleCodec)) (Event String) :=
  pairing sampleConfig Tables.empty

def sampleCreate : Action (sql sampleCodec) :=
  .create 0 {.system} 60 ⟨1⟩ "pairing secret 01" ⟨0, some 0⟩

/-- Claim `x` of the sample challenge registers device `x`. -/
def sampleClaim (x : Nat) : Action (sql sampleCodec) :=
  .claim x ⟨1⟩ "pairing secret 01" "Desk" ⟨1, some 0⟩
    ⟨⟨Fin.ofNat _ x⟩, ⟨Fin.ofNat _ x⟩, "device secret 012"⟩

def completed (x : Nat) : Action (sql sampleCodec) := .advance x .completed

def sampleReturned : List (Action (sql sampleCodec)) :=
  [sampleCreate, sampleClaim 1, completed 1, completed 1, completed 1]

/-- The task of the claim is cancelled while the session is closed after the commit. -/
def sampleInterrupted : List (Action (sql sampleCodec)) :=
  [sampleCreate, sampleClaim 1, completed 1, completed 1,
    .advance 1 (.interrupted .cancelled false)]

def returnsCalmly (history : List (Step sampleCodec)) (s : State String (sql sampleCodec)) : Bool :=
  (match s.calls 1 with
    | some (.claim ⟨_, _, _, _, .finished (.ok (some _))⟩) => true
    | _ => false) &&
  history.all fun u => match u.action with
    | .advance _ (.interrupted _ _) => false
    | _ => true

theorem durable_claim_atomic_returned :
    ∃ history s call credential,
      Run samplePairing (State.initial (sql sampleCodec) Tables.empty) history s ∧
      s.calls 1 = some (.claim call) ∧ call.stage = .finished (.ok (some credential)) ∧
      Atomic history s 1 call := by
  obtain ⟨history, s, hrun, htest⟩ := exists_run_of_replay (S := samplePairing)
    (s := State.initial (sql sampleCodec) Tables.empty) sampleReturned returnsCalmly (by decide)
  simp only [returnsCalmly, Bool.and_eq_true, List.all_eq_true] at htest
  obtain ⟨hreturned, hcalm⟩ := htest
  split at hreturned
  · rename_i pairingId secret name registration credential hcall
    refine ⟨history, s, _, credential, hrun, hcall, rfl, ?_⟩
    refine ((durable_claim_atomic_iff sampleConfig Tables.empty hrun).1 1 _ _ hcall rfl).mpr ?_
    rintro u hu ⟨error, applied, call, haction, -⟩
    have := hcalm u hu
    rw [haction] at this
    cases this
  · cases hreturned

/-- The claim has raised, and one of its steps has written device `1`. -/
def raisesWithRows (history : List (Step sampleCodec)) (s : State String (sql sampleCodec)) :
    Bool :=
  (match s.calls 1 with
    | some (.claim ⟨_, _, _, _, .finished (.error _)⟩) => true
    | _ => false) &&
  history.any fun u => actor u.action = 1 &&
    !Tables.holdsDevice u.source.store ⟨1⟩ &&
    Tables.holdsDevice u.target.store ⟨1⟩

theorem durable_claim_interrupted :
    ¬ ∀ history s, Run samplePairing (State.initial (sql sampleCodec) Tables.empty) history s →
      (∀ x call outcome, s.calls x = some (.claim call) → call.stage = .finished outcome →
        Atomic history s x call) ∧
      ∀ challenge, (∀ u ∈ history, ¬ Registers challenge u) ∨
        ExactlyOnce (Registers challenge) history := by
  intro hclaim
  obtain ⟨history, s, hrun, htest⟩ := exists_run_of_replay (S := samplePairing)
    (s := State.initial (sql sampleCodec) Tables.empty) sampleInterrupted raisesWithRows
    (by decide)
  simp only [raisesWithRows, Bool.and_eq_true, List.any_eq_true] at htest
  obtain ⟨hraised, u, hu, ⟨hown, hbefore⟩, hafter⟩ := htest
  split at hraised
  · rename_i pairingId secret name registration error hcall
    have hatomic := (hclaim history s hrun).1 1 _ _ hcall rfl
    have hsame := (hatomic.raised error rfl u hu (of_decide_eq_true hown)).1
    rw [hsame] at hafter
    rw [hafter] at hbefore
    cases hbefore
  · cases hraised

end Samples

end JarvisCore.Pairing.DurableClaim
