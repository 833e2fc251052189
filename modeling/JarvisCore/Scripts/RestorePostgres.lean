import Mathlib.Data.List.DropRight
import JarvisCore.Scripts.BackupPostgres

/-!
`restore_postgres.sh` from its first test to its last command, with the safety backup that it
makes by `backup_postgres.sh`. A command that succeeds has done what it is documented to do; one
that fails, or whose script is killed, may have done any part of it, then or later.

Two things are assumed. Besides the script only Core and the commands that the script has
started work on the database. And the archive and its checksum are the same bytes from the
checksum test to `pg_restore`.
-/

namespace JarvisCore.Scripts.RestorePostgres

open JarvisCore.Foundation.Files
open JarvisCore.Foundation.TransitionSystem
open JarvisCore.Scripts.BackupPostgres
  (Bytes Name BackupRun ascii printedDigest checksumText digestField digestField_checksumText
    notMem_printedDigest)

/-- What the variables of the `postgres` container hold. An unset one counts as empty. -/
structure Environment where
  postgresDb : String
  postgresAdminUser : String
  postgresAdminPassword : String
  jarvisDbUser : String
  jarvisDbPassword : String

/-- What the script is called with and what it finds. A file is `none` when it is not a
readable one. -/
structure Invocation where
  arguments : List String
  archive : Option Bytes
  checksum : Option Bytes
  composeFile : Bool
  envFile : Bool
  docker : Bool
  sha256sum : Bool
  environment : Environment

/-- The programs that the script runs: `createdb`, `pg_dump`, `pg_restore` into an empty
database and `alembic upgrade head`. -/
structure Programs (Content : Type) where
  created : Content
  dump : Content → Bytes
  restore : Bytes → Option Content
  upgrade : Content → Option Content

/-- `backup` is about the names in the backup directory, `archiveEscaped` about the path of
the archive. -/
structure Config (Content : Type) where
  programs : Programs Content
  backup : BackupPostgres.Config
  archiveEscaped : Bool
  invocation : Invocation

variable {Content : Type}

section Checks

def confirmation : String := "--confirm-database-replacement"

def lines (text : Bytes) : List Bytes := text.splitOn 0x0A

/-- `$(cut -d ' ' -f 1)` drops the newlines at the end, and null bytes. -/
def firstFields (text : Bytes) : Bytes :=
  let fields := (lines text).map fun line => line.takeWhile (· ≠ 0x20)
  ((([0x0A] : Bytes).intercalate fields).filter (· ≠ 0)).rdropWhile (· = 0x0A)

def isHexDigit (b : UInt8) : Bool :=
  (0x30 ≤ b && b ≤ 0x39) || (0x41 ≤ b && b ≤ 0x46) || (0x61 ≤ b && b ≤ 0x66)

def Config.actualDigest (config : Config Content) (archive : Bytes) : Bytes :=
  printedDigest { config.backup with escaped := config.archiveEscaped } archive

/-- The two tests of the checksum. -/
def digestVerified (config : Config Content) (archive checksum : Bytes) : Bool :=
  let expected := firstFields checksum
  (expected.length == 64 && expected.all isHexDigit) && config.actualDigest archive == expected

/-- The tests up to the one of the checksum, with the exit status of the first that fails. -/
def checkInvocation (config : Config Content) : Option Nat :=
  let invocation := config.invocation
  match invocation.arguments with
  | [_, given] =>
      if given ≠ confirmation then some 64
      else
        match invocation.archive, invocation.checksum with
        | some archive, some checksum =>
            if !invocation.composeFile || !invocation.envFile then some 66
            else if !invocation.docker then some 69
            else if !invocation.sha256sum then some 69
            else if digestVerified config archive checksum then none
            else some 65
        | _, _ => some 66
  | _ => some 64

def systemDatabases : List String := ["postgres", "template0", "template1"]

/-- The `sh -eu -c` script in the container. -/
def checkEnvironment (e : Environment) : Option Nat :=
  if "" ∈ [e.postgresDb, e.postgresAdminUser, e.postgresAdminPassword, e.jarvisDbUser,
      e.jarvisDbPassword] then some 2
  else if e.jarvisDbUser = e.postgresAdminUser then some 64
  else if e.postgresDb ∈ systemDatabases then some 64
  else none

theorem digestVerified_of_check {config : Config Content} (h : checkInvocation config = none) :
    ∃ archive checksum, config.invocation.archive = some archive ∧
      config.invocation.checksum = some checksum ∧ digestVerified config archive checksum = true := by
  unfold checkInvocation at h
  dsimp only at h
  split at h
  · split at h
    · cases h
    · split at h
      · rename_i archive checksum harchive hchecksum
        split at h
        · cases h
        · split at h
          · cases h
          · split at h
            · cases h
            · split at h
              · rename_i hverified
                exact ⟨archive, checksum, harchive, hchecksum, hverified⟩
              · cases h
      · cases h
  · cases h

end Checks

/-- The next command of the script, or the one under way. -/
inductive Stage
  | checking
  | configuring
  | startingPostgres
  | listing
  | checkingEnvironment
  | inspectingCore
  | stoppingCore
  | backingUp
  | bootstrapping
  | dropping
  | creating
  | bootstrappingAgain
  | restoring
  | migrating
  | startingCore
  | completed
  /-- A test has failed, with this exit status. -/
  | refused (status : Nat)
  /-- The command has failed, or the script was killed while it was under way. -/
  | failed (during : Stage)

inductive Database (Content : Type)
  | absent
  | present (content : Content)

structure State (Content : Type) where
  database : Database Content
  coreRunning : Bool
  coreWasRunning : Bool
  backups : BackupPostgres.State
  stage : Stage

def State.initial (database : Content) (coreRunning : Bool) (directory : Directory Name Bytes) :
    State Content where
  database := .present database
  coreRunning := coreRunning
  coreWasRunning := false
  backups := .initial directory
  stage := .checking

inductive Action (Content : Type)
  | succeed
  /-- `left` is the database that a command which works on it has left. -/
  | fail (left : Database Content)
  /-- A command that has failed, or was left alone, still has an effect. -/
  | linger (left : Database Content)
  /-- `compose up` has started the container and waits until it is healthy. -/
  | coreStarts
  | coreWrites (content : Content)
  /-- `compose ps` fails in the condition of an `if`, where `set -e` does not apply. -/
  | inspectionFails
  | backup (action : BackupPostgres.Action)

/-- The commands that replace the database, and then the migration. -/
def Stage.replaces : Stage → Bool
  | .dropping | .creating | .restoring | .migrating => true
  | _ => false

def disturbed (stage : Stage) (database left : Database Content) : Database Content :=
  if stage.replaces then left else database

variable (config : Config Content)

def succeed (s : State Content) : Option (State Content) :=
  match s.stage with
  | .checking =>
      match checkInvocation config with
      | some status => some { s with stage := .refused status }
      | none => some { s with stage := .configuring }
  | .configuring => some { s with stage := .startingPostgres }
  | .startingPostgres => some { s with stage := .listing }
  | .listing => some { s with stage := .checkingEnvironment }
  | .checkingEnvironment =>
      match checkEnvironment config.invocation.environment with
      | some status => some { s with stage := .refused status }
      | none => some { s with stage := .inspectingCore }
  | .inspectingCore => some { s with coreWasRunning := s.coreRunning, stage := .stoppingCore }
  | .stoppingCore => some { s with coreRunning := false, stage := .backingUp }
  | .bootstrapping => some { s with stage := .dropping }
  | .dropping => some { s with database := .absent, stage := .creating }
  | .creating =>
      some { s with database := .present config.programs.created, stage := .bootstrappingAgain }
  | .bootstrappingAgain => some { s with stage := .restoring }
  | .restoring =>
      (config.invocation.archive.bind config.programs.restore).map fun content =>
        { s with database := .present content, stage := .migrating }
  | .migrating =>
      match s.database with
      | .absent => none
      | .present content =>
          (config.programs.upgrade content).map fun content =>
            { s with
              database := .present content
              stage := if s.coreWasRunning then .startingCore else .completed }
  | .startingCore => some { s with coreRunning := true, stage := .completed }
  | .backingUp | .completed | .refused _ | .failed _ => none

/-- `set -e`, or a signal. -/
def fail (s : State Content) (left : Database Content) : Option (State Content) :=
  match s.stage with
  | .completed | .refused _ | .failed _ => none
  | stage =>
      some { s with database := disturbed stage s.database left, stage := .failed stage }

def linger (s : State Content) (left : Database Content) : Option (State Content) :=
  match s.stage with
  | .failed .stoppingCore => some { s with coreRunning := false }
  | .failed .startingCore => some { s with coreRunning := true }
  | .failed during => some { s with database := disturbed during s.database left }
  | _ => none

/-- `pg_dump` succeeds once the file holds the whole dump. -/
def dumped (s : State Content) : Bool :=
  match s.database with
  | .absent => false
  | .present content =>
      s.backups.directory (.partialArchive 0) == some (config.programs.dump content)

/-- The safety backup goes on. It succeeds by giving the archive its name. -/
def backUp (s : State Content) (action : BackupPostgres.Action) : Option (State Content) :=
  match s.stage, BackupPostgres.actor action, BackupPostgres.step config.backup s.backups action with
  | .backingUp, 0, some (backups, _) =>
      let next : State Content := { s with backups }
      match action, (s.backups.runs 0).map BackupRun.stage with
      | .succeed _, some .dumping => if dumped config s then some next else none
      | .succeed _, some (.publishingArchive _) => some { next with stage := .bootstrapping }
      | _, _ =>
          match (backups.runs 0).map BackupRun.stage with
          | some .ended => some { next with stage := .failed .backingUp }
          | _ => some next
  | _, _, _ => none

def step (s : State Content) : Action Content → Option (State Content × List Empty)
  | .succeed => (succeed config s).map fun t => (t, [])
  | .fail left => (fail s left).map fun t => (t, [])
  | .linger left => (linger s left).map fun t => (t, [])
  | .coreStarts =>
      match s.stage with
      | .startingCore => some ({ s with coreRunning := true }, [])
      | _ => none
  | .coreWrites content =>
      if s.coreRunning then some ({ s with database := .present content }, []) else none
  | .inspectionFails =>
      match s.stage with
      | .inspectingCore => some ({ s with coreWasRunning := false, stage := .stoppingCore }, [])
      | _ => none
  | .backup action => (backUp config s action).map fun t => (t, [])

/-- The run of the script over a database that Core has worked on. -/
def restoration (database : Content) (coreRunning : Bool) (directory : Directory Name Bytes) :
    System (State Content) (Action Content) Empty where
  start := .initial database coreRunning directory
  step := step config

/-- The command that is or was under way. -/
def Stage.during : Stage → Stage
  | .failed stage => stage
  | stage => stage

/-- The archive has passed the tests. -/
def Stage.tested : Stage → Bool
  | .checking | .refused _ => false
  | _ => true

def Stage.unsaved : Stage → Bool
  | .checking | .configuring | .startingPostgres | .listing | .checkingEnvironment
  | .inspectingCore | .stoppingCore | .refused _ => true
  | _ => false

/-- Core has been stopped, and the script has not come to starting it again. -/
def Stage.down : Stage → Bool
  | .backingUp | .bootstrapping | .dropping | .creating | .bootstrappingAgain | .restoring
  | .migrating => true
  | _ => false

/-- The script has come to `dropdb`. -/
def Stage.begun : Stage → Bool
  | .dropping | .creating | .bootstrappingAgain | .restoring | .migrating | .startingCore
  | .completed => true
  | _ => false

/-- The backups have a dump of the content under a name, next to its checksum. -/
def Saved (directory : Directory Name Bytes) (content : Content) : Prop :=
  ∃ timestamp text, directory (.archive timestamp) = some (config.programs.dump content) ∧
    directory (.checksum timestamp) = some text ∧
    digestField text = printedDigest config.backup (config.programs.dump content)

/-- What the files of the safety backup hold once `pg_dump` is done. -/
def Holds (directory : Directory Name Bytes) (content : Content) (run : BackupRun) : Prop :=
  let dump := config.programs.dump content
  let digest := printedDigest config.backup dump
  match run.stage with
  | .checkingSize | .listing | .digesting => directory (.partialArchive 0) = some dump
  | .recording digest' => directory (.partialArchive 0) = some dump ∧ digest' = digest
  | .publishingChecksum digest' => directory (.partialArchive 0) = some dump ∧ digest' = digest ∧
      directory (.partialChecksum 0) = some (checksumText digest run.timestamp)
  | .publishingArchive digest' => directory (.partialArchive 0) = some dump ∧ digest' = digest ∧
      directory (.checksum run.timestamp) = some (checksumText digest run.timestamp)
  | _ => True

section Backups

variable {config} {backups backups' : BackupPostgres.State} {content : Content}
  {action : BackupPostgres.Action} {events : List Name} {run : BackupRun}

theorem holds_enter {directory : Directory Name Bytes} {stage : BackupPostgres.Stage}
    (h : Holds config directory content { run with stage }) :
    ∀ run', (BackupPostgres.enter { backups with directory } 0 run stage).runs 0 = some run' →
      Holds config directory content run' := by
  intro run' hrun'
  have hself : (BackupPostgres.enter { backups with directory } 0 run stage).runs 0 =
      some { run with stage } := by simp [BackupPostgres.enter]
  obtain rfl := Option.some.inj (hself.symm.trans hrun')
  exact h

theorem holds_succeed
    (hholds : Holds config backups.directory content run)
    (hdump : run.stage = .dumping →
      backups.directory (.partialArchive 0) = some (config.programs.dump content))
    (h : BackupPostgres.succeed config.backup backups 0 run = some (backups', events)) :
    ∀ run', backups'.runs 0 = some run' → Holds config backups'.directory content run' := by
  unfold BackupPostgres.succeed at h
  unfold Holds at hholds
  cases hstage : run.stage with
  | testingArchive | testingChecksum =>
      rw [hstage] at h
      dsimp only at h
      split at h
      all_goals
        cases h
        exact holds_enter trivial
  | makingPartial | makingPartialChecksum | removingPartial | removingPartialChecksum =>
      rw [hstage] at h
      cases h
      exact holds_enter trivial
  | dumping =>
      rw [hstage] at h
      cases h
      exact holds_enter (hdump hstage)
  | checkingSize =>
      rw [hstage] at h hholds
      dsimp only at h
      split at h
      · cases h
        exact holds_enter trivial
      · cases h
        exact holds_enter trivial
      · cases h
        exact holds_enter hholds
  | listing =>
      rw [hstage] at h hholds
      cases h
      exact holds_enter hholds
  | digesting =>
      rw [hstage] at h hholds
      dsimp only at h hholds
      rw [hholds] at h
      cases h
      exact holds_enter ⟨hholds, rfl⟩
  | recording digest =>
      rw [hstage] at h hholds
      obtain ⟨hdumped, rfl⟩ := hholds
      cases h
      refine holds_enter ⟨?_, rfl, Directory.write_same _ _ _⟩
      rw [Directory.write_other _ _ (by simp)]
      exact hdumped
  | publishingChecksum digest =>
      rw [hstage] at h hholds
      obtain ⟨hdumped, hdigest, hchecksum⟩ := hholds
      obtain ⟨d, hd, heq⟩ := Option.map_eq_some_iff.mp h
      cases heq
      refine holds_enter ⟨?_, hdigest, ?_⟩
      · rw [Directory.rename_other hd (by simp) (by simp)]
        exact hdumped
      · rw [Directory.rename_new hd]
        exact hchecksum
  | publishingArchive digest =>
      rw [hstage] at h
      obtain ⟨d, hd, heq⟩ := Option.map_eq_some_iff.mp h
      cases heq
      exact holds_enter trivial
  | ended =>
      rw [hstage] at h
      cases h

theorem saved_of_publishing {digest : Bytes} (hstage : run.stage = .publishingArchive digest)
    (hholds : Holds config backups.directory content run)
    (h : BackupPostgres.succeed config.backup backups 0 run = some (backups', events)) :
    Saved config backups'.directory content := by
  unfold BackupPostgres.succeed at h
  unfold Holds at hholds
  rw [hstage] at h hholds
  obtain ⟨hdumped, rfl, hchecksum⟩ := hholds
  obtain ⟨d, hd, heq⟩ := Option.map_eq_some_iff.mp h
  cases heq
  have hkept : d (.checksum run.timestamp) = backups.directory (.checksum run.timestamp) :=
    Directory.rename_other hd (by simp) (by simp)
  refine ⟨run.timestamp, _, ?_, hkept.trans hchecksum, ?_⟩
  · show d (.archive run.timestamp) = _
    rw [Directory.rename_new hd]
    exact hdumped
  · exact digestField_checksumText _ (notMem_printedDigest _ _)

theorem holds_step (hactor : BackupPostgres.actor action = 0)
    (hholds : ∀ run, backups.runs 0 = some run → Holds config backups.directory content run)
    (hdump : ∀ r run, action = .succeed r → backups.runs 0 = some run → run.stage = .dumping →
      backups.directory (.partialArchive 0) = some (config.programs.dump content))
    (h : BackupPostgres.step config.backup backups action = some (backups', events)) :
    ∀ run, backups'.runs 0 = some run → Holds config backups'.directory content run := by
  unfold BackupPostgres.step at h
  rw [hactor] at h
  split at h
  · cases hactor
    cases h
    exact holds_enter trivial
  · cases h
  · cases h
  · rename_i r run hrun
    cases hactor
    exact holds_succeed (hholds run hrun) (hdump _ run rfl hrun) h
  · rename_i r written run hrun
    cases hactor
    unfold BackupPostgres.write at h
    split at h
    · rename_i hstage
      cases h
      intro run' hrun'
      obtain rfl := Option.some.inj (hrun.symm.trans hrun')
      unfold Holds
      rw [hstage]
      trivial
    · rename_i digest hstage
      cases h
      intro run' hrun'
      obtain rfl := Option.some.inj (hrun.symm.trans hrun')
      have hkept : backups.directory.write (.partialChecksum 0) written (.partialArchive 0) =
          backups.directory (.partialArchive 0) := Directory.write_other _ _ (by simp)
      have hown := hholds run hrun
      unfold Holds at hown ⊢
      rw [hstage] at hown ⊢
      exact ⟨hkept.trans hown.1, hown.2⟩
    · cases h
  · cases hactor
    unfold BackupPostgres.fail at h
    split at h
    case h_14 => cases h
    all_goals
      cases h
      exact holds_enter trivial
  · cases hactor
    cases h
    exact holds_enter trivial

end Backups

abbrev Step (Content : Type) := Transition (State Content) (Action Content) Empty

/-- The database held the content when the script came to `dropdb`. -/
def HeldAtDrop (history : List (Step Content)) (content : Content) : Prop :=
  ∃ u ∈ history, u.target.stage = .dropping ∧ u.target.database = .present content

structure Inv (history : List (Step Content)) (s : State Content) : Prop where
  down : s.stage.during.down = true → s.coreRunning = false
  tested : s.stage.during.tested = true → ∃ archive checksum,
    config.invocation.archive = some archive ∧ config.invocation.checksum = some checksum ∧
      digestVerified config archive checksum = true
  unsaved : s.stage.during.unsaved = true → s.backups.runs 0 = none
  held : s.stage.during.begun = false → ∃ content, s.database = .present content
  saving : s.stage = .backingUp → ∀ content, s.database = .present content →
    ∀ run, s.backups.runs 0 = some run → Holds config s.backups.directory content run
  saved : s.stage.during = .bootstrapping →
    ∃ content, s.database = .present content ∧ Saved config s.backups.directory content
  begun : s.stage.during.begun = true →
    ∃ content, HeldAtDrop history content ∧ Saved config s.backups.directory content
  restored : s.stage = .migrating → ∃ archive content, config.invocation.archive = some archive ∧
    config.programs.restore archive = some content ∧ s.database = .present content

theorem HeldAtDrop.mono {history : List (Step Content)} {content : Content}
    (h : HeldAtDrop history content) (u : Step Content) : HeldAtDrop (u :: history) content := by
  obtain ⟨v, hv, hheld⟩ := h
  exact ⟨v, List.mem_cons_of_mem _ hv, hheld⟩

section Steps

variable {config} {history : List (Step Content)} {s t : State Content} {action : Action Content}
  {events : List Empty}

/-- The step leaves the script where it is, and nothing that counts there changes. -/
theorem Inv.stays (hinv : Inv config history s) (u : Step Content)
    (hduring : t.stage.during = s.stage.during) (hbackups : t.backups = s.backups)
    (hkept : t.stage = .backingUp ∨ t.stage = .migrating → s.stage = t.stage ∧
      t.database = s.database)
    (hsaved : t.stage.during = .bootstrapping → t.database = s.database)
    (hdown : s.stage.during.down = true → t.coreRunning = s.coreRunning)
    (hheld : s.stage.during.begun = false → t.database = s.database ∨
      ∃ content, t.database = .present content) : Inv config (u :: history) t where
  down h := by
    rw [hduring] at h
    rw [hdown h]
    exact hinv.down h
  tested h := hinv.tested (hduring ▸ h)
  unsaved h := by
    rw [hbackups]
    exact hinv.unsaved (hduring ▸ h)
  held h := by
    rw [hduring] at h
    rcases hheld h with hsame | hpresent
    · rw [hsame]
      exact hinv.held h
    · exact hpresent
  saving h := by
    obtain ⟨hstage, hdatabase⟩ := hkept (.inl h)
    rw [hdatabase, hbackups]
    exact hinv.saving (hstage.trans h)
  saved h := by
    rw [hsaved h, hbackups]
    exact hinv.saved (hduring ▸ h)
  begun h := by
    rw [hduring] at h
    obtain ⟨content, hheld, hsaved⟩ := hinv.begun h
    exact ⟨content, hheld.mono u, hbackups ▸ hsaved⟩
  restored h := by
    obtain ⟨hstage, hdatabase⟩ := hkept (.inr h)
    rw [hdatabase]
    exact hinv.restored (hstage.trans h)

theorem not_begun_of_unsaved {stage : Stage} (h : stage.unsaved = true) : stage.begun = false := by
  cases stage <;> simp_all [Stage.unsaved, Stage.begun]

theorem Inv.early (hinv : Inv config history s) (u : Step Content)
    (hunsaved : s.stage.during.unsaved = true) (hbackups : t.backups = s.backups)
    (hdatabase : t.database = s.database)
    (hnext : t.stage.during.unsaved = true ∧ t.stage ≠ .migrating ∧ t.stage ≠ .backingUp)
    (htested : t.stage.during.tested = true → ∃ archive checksum,
      config.invocation.archive = some archive ∧ config.invocation.checksum = some checksum ∧
        digestVerified config archive checksum = true) : Inv config (u :: history) t := by
  obtain ⟨hunsaved', hmigrating, hbackingUp⟩ := hnext
  have apart {stages : Stage → Bool} (hapart : ∀ stage, stage.unsaved = true → stages stage = false)
      {P : Prop} (h : stages t.stage.during = true) : P := by
    rw [hapart _ hunsaved'] at h
    cases h
  refine ⟨apart ?_, htested, ?_, ?_, fun h => absurd h hbackingUp, ?_, apart ?_,
    fun h => absurd h hmigrating⟩
  · intro stage
    cases stage <;> simp [Stage.unsaved, Stage.down]
  · intro _
    rw [hbackups]
    exact hinv.unsaved hunsaved
  · intro _
    rw [hdatabase]
    exact hinv.held (not_begun_of_unsaved hunsaved)
  · intro h
    rw [h] at hunsaved'
    cases hunsaved'
  · exact fun _ => not_begun_of_unsaved

theorem Inv.late (hinv : Inv config history s) (u : Step Content)
    (hbegun : s.stage.during.begun = true) (hbackups : t.backups = s.backups)
    (hnext : t.stage.begun = true ∧ t.stage.during = t.stage)
    (hdown : t.stage.down = true → s.stage.during.down = true ∧ t.coreRunning = s.coreRunning)
    (hrestored : t.stage = .migrating → ∃ archive content,
      config.invocation.archive = some archive ∧ config.programs.restore archive = some content ∧
        t.database = .present content) : Inv config (u :: history) t := by
  obtain ⟨hbegun', hduring⟩ := hnext
  have htested : s.stage.during.tested = true := by
    cases hstage : s.stage.during <;> simp_all [Stage.begun, Stage.tested]
  refine ⟨?_, fun _ => hinv.tested htested, ?_, ?_, ?_, ?_, ?_, hrestored⟩
  · intro h
    rw [hduring] at h
    obtain ⟨hbefore, hcore⟩ := hdown h
    rw [hcore]
    exact hinv.down hbefore
  · intro h
    rw [hduring] at h
    cases hstage : t.stage <;> simp_all [Stage.begun, Stage.unsaved]
  · intro h
    rw [hduring, hbegun'] at h
    cases h
  · intro h
    rw [h] at hbegun'
    cases hbegun'
  · intro h
    rw [hduring] at h
    rw [h] at hbegun'
    cases hbegun'
  · intro _
    obtain ⟨content, hheld, hsaved⟩ := hinv.begun hbegun
    exact ⟨content, hheld.mono u, hbackups ▸ hsaved⟩

theorem Inv.succeed (hinv : Inv config history s) (u : Step Content) (hu : u.target = t)
    (h : succeed config s = some t) : Inv config (u :: history) t := by
  have tested {stage : Stage} (hstage : s.stage = stage) (htested : stage.during.tested = true) :
      ∃ archive checksum, config.invocation.archive = some archive ∧
        config.invocation.checksum = some checksum ∧ digestVerified config archive checksum = true :=
    hinv.tested (hstage ▸ htested)
  cases hstage : s.stage with
  | checking =>
      simp only [RestorePostgres.succeed, hstage] at h
      split at h
      · cases h
        exact hinv.early u (hstage ▸ rfl) rfl rfl ⟨rfl, by simp, by simp⟩ (fun h => nomatch h)
      · rename_i hcheck
        cases h
        exact hinv.early u (hstage ▸ rfl) rfl rfl ⟨rfl, by simp, by simp⟩
          fun _ => digestVerified_of_check hcheck
  | configuring | startingPostgres | listing | inspectingCore =>
      simp only [RestorePostgres.succeed, hstage] at h
      cases h
      exact hinv.early u (hstage ▸ rfl) rfl rfl ⟨rfl, by simp, by simp⟩ fun _ => tested hstage rfl
  | checkingEnvironment =>
      simp only [RestorePostgres.succeed, hstage] at h
      split at h
      · cases h
        exact hinv.early u (hstage ▸ rfl) rfl rfl ⟨rfl, by simp, by simp⟩ (fun h => nomatch h)
      · cases h
        exact hinv.early u (hstage ▸ rfl) rfl rfl ⟨rfl, by simp, by simp⟩ fun _ => tested hstage rfl
  | stoppingCore =>
      simp only [RestorePostgres.succeed, hstage] at h
      cases h
      have hnone : s.backups.runs 0 = none := hinv.unsaved (by rw [hstage]; rfl)
      refine ⟨fun _ => rfl, fun _ => tested hstage rfl, fun h => (nomatch h),
        fun _ => hinv.held (by rw [hstage]; rfl), ?_, fun h => (nomatch h), fun h => (nomatch h),
        fun h => (nomatch h)⟩
      intro _ content _ run hrun
      cases hnone.symm.trans hrun
  | bootstrapping =>
      simp only [RestorePostgres.succeed, hstage] at h
      cases h
      refine ⟨fun _ => hinv.down (hstage ▸ rfl), fun _ => tested hstage rfl, fun h => (nomatch h),
        fun h => (nomatch h), fun h => (nomatch h), fun h => (nomatch h), ?_,
        fun h => (nomatch h)⟩
      intro _
      obtain ⟨content, hdatabase, hsaved⟩ := hinv.saved (by rw [hstage]; rfl)
      exact ⟨content, ⟨u, List.mem_cons_self, hu ▸ rfl, hu ▸ hdatabase⟩, hsaved⟩
  | dropping | creating | bootstrappingAgain =>
      simp only [RestorePostgres.succeed, hstage] at h
      cases h
      exact hinv.late u (hstage ▸ rfl) rfl ⟨rfl, rfl⟩ (fun _ => ⟨hstage ▸ rfl, rfl⟩)
        fun h => nomatch h
  | restoring =>
      simp only [RestorePostgres.succeed, hstage] at h
      obtain ⟨content, hrestore, rfl⟩ := Option.map_eq_some_iff.mp h
      obtain ⟨archive, harchive, hcontent⟩ := Option.bind_eq_some_iff.mp hrestore
      exact hinv.late u (hstage ▸ rfl) rfl ⟨rfl, rfl⟩ (fun _ => ⟨hstage ▸ rfl, rfl⟩)
        fun _ => ⟨archive, content, harchive, hcontent, rfl⟩
  | migrating =>
      simp only [RestorePostgres.succeed, hstage] at h
      split at h
      · cases h
      · obtain ⟨content, -, rfl⟩ := Option.map_eq_some_iff.mp h
        cases s.coreWasRunning with
        | true =>
            exact hinv.late u (hstage ▸ rfl) rfl ⟨rfl, rfl⟩ (fun h => nomatch h) fun h => nomatch h
        | false =>
            exact hinv.late u (hstage ▸ rfl) rfl ⟨rfl, rfl⟩ (fun h => nomatch h) fun h => nomatch h
  | startingCore =>
      simp only [RestorePostgres.succeed, hstage] at h
      cases h
      exact hinv.late u (hstage ▸ rfl) rfl ⟨rfl, rfl⟩ (fun h => nomatch h) fun h => nomatch h
  | backingUp | completed | refused | failed =>
      simp only [RestorePostgres.succeed, hstage] at h
      cases h

theorem disturbed_of_not_begun {stage : Stage} (h : stage.begun = false)
    {database left : Database Content} : disturbed stage database left = database := by
  cases stage <;> simp_all [disturbed, Stage.replaces, Stage.begun]

theorem Inv.fail (hinv : Inv config history s) (u : Step Content) {left : Database Content}
    (h : fail s left = some t) : Inv config (u :: history) t := by
  unfold RestorePostgres.fail at h
  split at h
  · cases h
  · cases h
  · cases h
  · rename_i stage hcompleted hrefused hfailed
    cases h
    have hduring : s.stage.during = s.stage := by
      cases hstage : s.stage with
      | failed during => exact absurd hstage (hfailed during)
      | _ => rfl
    refine hinv.stays u hduring.symm rfl (by simp) ?_ (fun _ => rfl) ?_
    · intro hbootstrapping
      have hstage : s.stage = .bootstrapping := hbootstrapping
      simp [disturbed, Stage.replaces, hstage]
    · intro hbegun
      rw [hduring] at hbegun
      exact .inl (disturbed_of_not_begun hbegun)

theorem Inv.linger (hinv : Inv config history s) (u : Step Content) {left : Database Content}
    (h : linger s left = some t) : Inv config (u :: history) t := by
  unfold RestorePostgres.linger at h
  split at h
  · rename_i hstage
    cases h
    refine hinv.stays u rfl rfl (by simp [hstage]) (fun _ => rfl) ?_ fun _ => .inl rfl
    intro hdown
    rw [hstage] at hdown
    cases hdown
  · rename_i hstage
    cases h
    refine hinv.stays u rfl rfl (by simp [hstage]) (fun _ => rfl) ?_ fun _ => .inl rfl
    intro hdown
    rw [hstage] at hdown
    cases hdown
  · rename_i during _ _ hstage
    cases h
    have hduring : s.stage.during = during := by rw [hstage]; rfl
    refine hinv.stays u rfl rfl (by simp [hstage]) ?_ (fun _ => rfl) ?_
    · intro hbootstrapping
      have hbootstrapping : during = .bootstrapping := hduring.symm.trans hbootstrapping
      simp [disturbed, Stage.replaces, hbootstrapping]
    · intro hbegun
      rw [hduring] at hbegun
      exact .inl (disturbed_of_not_begun hbegun)
  · cases h

theorem Inv.saves (hinv : Inv config history s) (u : Step Content) (hstage : s.stage = .backingUp)
    {backups : BackupPostgres.State}
    (hholds : ∀ content, s.database = .present content → ∀ run, backups.runs 0 = some run →
      Holds config backups.directory content run) :
    Inv config (u :: history) { s with backups } := by
  refine ⟨hinv.down, hinv.tested, ?_, hinv.held, fun _ => hholds, ?_, ?_, ?_⟩
  all_goals
    dsimp only
    rw [hstage]
    exact fun h => nomatch h

theorem Inv.backUp (hinv : Inv config history s) (u : Step Content)
    {action : BackupPostgres.Action} (h : backUp config s action = some t) :
    Inv config (u :: history) t := by
  unfold RestorePostgres.backUp at h
  split at h
  · rename_i backups events hstage hactor hstep
    have hdown : s.coreRunning = false := hinv.down (by rw [hstage]; rfl)
    have htested := hinv.tested (by rw [hstage]; rfl)
    have holds (hdump : ∀ r run content, action = .succeed r → s.backups.runs 0 = some run →
        run.stage = .dumping → s.database = .present content →
        s.backups.directory (.partialArchive 0) = some (config.programs.dump content)) :
        ∀ content, s.database = .present content → ∀ run, backups.runs 0 = some run →
          Holds config backups.directory content run := by
      intro content hdatabase
      exact holds_step hactor (hinv.saving hstage content hdatabase)
        (fun r run haction hrun hdumping => hdump r run content haction hrun hdumping hdatabase) hstep
    dsimp only at h
    split at h
    · rename_i r hdumping
      split at h
      · rename_i hdumped
        cases h
        refine hinv.saves u hstage (holds ?_)
        intro r run content _ _ _ hdatabase
        unfold dumped at hdumped
        rw [hdatabase] at hdumped
        exact eq_of_beq hdumped
      · cases h
    · rename_i r digest hpublishing
      cases h
      obtain ⟨run, hrun, hpublishing⟩ := Option.map_eq_some_iff.mp hpublishing
      obtain rfl : r = 0 := hactor
      have hsucceed : BackupPostgres.succeed config.backup s.backups 0 run =
          some (backups, events) := by
        unfold BackupPostgres.step at hstep
        simpa only [BackupPostgres.actor, hrun] using hstep
      obtain ⟨content, hdatabase⟩ := hinv.held (by rw [hstage]; rfl)
      have hsaved := saved_of_publishing hpublishing
        (hinv.saving hstage content hdatabase run hrun) hsucceed
      exact ⟨fun _ => hdown, fun _ => htested, fun h => (nomatch h),
        fun _ => ⟨content, hdatabase⟩, fun h => (nomatch h), fun _ => ⟨content, hdatabase, hsaved⟩,
        fun h => (nomatch h), fun h => (nomatch h)⟩
    · rename_i hnotDumping hnotPublishing
      have holds := holds fun r run content haction hrun hdumping _ =>
        (hnotDumping r haction (by rw [hrun, Option.map_some, hdumping])).elim
      split at h
      · cases h
        exact ⟨fun _ => hdown, fun _ => htested, fun h => (nomatch h),
          fun _ => hinv.held (by rw [hstage]; rfl), fun h => (nomatch h), fun h => (nomatch h),
          fun h => (nomatch h), fun h => (nomatch h)⟩
      · cases h
        exact hinv.saves u hstage holds
  · cases h

theorem Inv.step (hinv : Inv config history s) (h : step config s action = some (t, events)) :
    Inv config (⟨s, action, events, t⟩ :: history) t := by
  cases action with
  | succeed =>
      obtain ⟨t', ht, heq⟩ := Option.map_eq_some_iff.mp h
      cases heq
      exact hinv.succeed _ rfl ht
  | fail left =>
      obtain ⟨t', ht, heq⟩ := Option.map_eq_some_iff.mp h
      cases heq
      exact hinv.fail _ ht
  | linger left =>
      obtain ⟨t', ht, heq⟩ := Option.map_eq_some_iff.mp h
      cases heq
      exact hinv.linger _ ht
  | coreStarts =>
      simp only [RestorePostgres.step] at h
      split at h
      · rename_i hstage
        cases h
        refine hinv.stays _ rfl rfl (by simp [hstage]) (fun _ => rfl) ?_ fun _ => .inl rfl
        intro hdown
        rw [hstage] at hdown
        cases hdown
      · cases h
  | coreWrites content =>
      simp only [RestorePostgres.step] at h
      split at h
      · rename_i hrunning
        cases h
        have hup : s.stage.during.down = false := by
          by_contra hdown
          rw [hinv.down (by simpa using hdown)] at hrunning
          cases hrunning
        refine hinv.stays _ rfl rfl ?_ ?_ (fun _ => rfl) fun _ => .inr ⟨content, rfl⟩
        · rintro (hstage | hstage)
          all_goals
            rw [show s.stage = _ from hstage] at hup
            cases hup
        · intro hbootstrapping
          rw [show s.stage.during = _ from hbootstrapping] at hup
          cases hup
      · cases h
  | inspectionFails =>
      simp only [RestorePostgres.step] at h
      split at h
      · rename_i hstage
        cases h
        exact hinv.early _ (hstage ▸ rfl) rfl rfl ⟨rfl, by simp, by simp⟩
          fun _ => hinv.tested (hstage ▸ rfl)
      · cases h
  | backup action =>
      obtain ⟨t', ht, heq⟩ := Option.map_eq_some_iff.mp h
      cases heq
      exact hinv.backUp _ ht

theorem step_database (h : step config s action = some (t, events)) :
    t.database = s.database ∨ (∃ content, action = .coreWrites content) ∨
      s.stage.during.begun = true := by
  by_cases hbegun : s.stage.during.begun = true
  · exact .inr (.inr hbegun)
  · have hbegun : s.stage.during.begun = false := by simpa using hbegun
    cases action with
    | succeed =>
        obtain ⟨t', ht, heq⟩ := Option.map_eq_some_iff.mp h
        cases heq
        left
        unfold succeed at ht
        cases hstage : s.stage with
        | checking | checkingEnvironment =>
            simp only [hstage] at ht
            split at ht
            all_goals
              cases ht
              rfl
        | configuring | startingPostgres | listing | inspectingCore | stoppingCore
        | bootstrapping =>
            simp only [hstage] at ht
            cases ht
            rfl
        | dropping | creating | bootstrappingAgain | restoring | migrating | startingCore
        | completed =>
            rw [hstage] at hbegun
            cases hbegun
        | backingUp | refused | failed =>
            simp only [hstage] at ht
            cases ht
    | fail left =>
        obtain ⟨t', ht, heq⟩ := Option.map_eq_some_iff.mp h
        cases heq
        unfold fail at ht
        split at ht
        · cases ht
        · cases ht
        · cases ht
        · rename_i stage _ _ hfailed
          cases ht
          have hduring : s.stage.during = s.stage := by
            cases hstage : s.stage with
            | failed during => exact absurd hstage (hfailed during)
            | _ => rfl
          exact .inl (disturbed_of_not_begun (hduring ▸ hbegun))
    | linger left =>
        obtain ⟨t', ht, heq⟩ := Option.map_eq_some_iff.mp h
        cases heq
        unfold linger at ht
        split at ht
        · cases ht
          exact .inl rfl
        · cases ht
          exact .inl rfl
        · rename_i during _ _ hstage
          cases ht
          rw [hstage] at hbegun
          exact .inl (disturbed_of_not_begun hbegun)
        · cases ht
    | coreStarts =>
        simp only [step] at h
        split at h
        · cases h
          exact .inl rfl
        · cases h
    | coreWrites content => exact .inr (.inl ⟨content, rfl⟩)
    | inspectionFails =>
        simp only [step] at h
        split at h
        · cases h
          exact .inl rfl
        · cases h
    | backup action =>
        obtain ⟨t', ht, heq⟩ := Option.map_eq_some_iff.mp h
        cases heq
        left
        unfold backUp at ht
        split at ht
        · dsimp only at ht
          split at ht
          · split at ht
            · cases ht
              rfl
            · cases ht
          · cases ht
            rfl
          · split at ht
            · cases ht
              rfl
            · cases ht
              rfl
        · cases ht

theorem Inv.migrated (hinv : Inv config history s) (hstage : s.stage = .migrating)
    (h : RestorePostgres.step config s .succeed = some (t, events)) : ∃ archive checksum restored upgraded,
    config.invocation.archive = some archive ∧ config.invocation.checksum = some checksum ∧
      digestVerified config archive checksum = true ∧
      config.programs.restore archive = some restored ∧
      config.programs.upgrade restored = some upgraded ∧ t.database = .present upgraded := by
  obtain ⟨archive, checksum, harchive, hchecksum, hverified⟩ :=
    hinv.tested (by rw [hstage]; rfl)
  obtain ⟨archive', restored, harchive', hrestored, hdatabase⟩ := hinv.restored hstage
  obtain rfl := Option.some.inj (harchive.symm.trans harchive')
  obtain ⟨t', ht, heq⟩ := Option.map_eq_some_iff.mp h
  cases heq
  simp only [RestorePostgres.succeed, hstage, hdatabase] at ht
  obtain ⟨upgraded, hupgraded, rfl⟩ := Option.map_eq_some_iff.mp ht
  exact ⟨archive, checksum, restored, upgraded, harchive, hchecksum, hverified, hrestored,
    hupgraded, rfl⟩

end Steps

section Runs

variable {config} {database : Content} {coreRunning : Bool} {directory : Directory Name Bytes}
  {history : List (Step Content)} {s : State Content}

theorem inv_of_run (hrun : Run (restoration config database coreRunning directory)
    (.initial database coreRunning directory) history s) : Inv config history s := by
  refine hrun.historyInvariant (Inv config) ?_ fun _ _ _ _ _ _ hinv h => hinv.step h
  exact ⟨fun h => (nomatch h), fun h => (nomatch h), fun _ => rfl, fun _ => ⟨database, rfl⟩,
    fun h => (nomatch h), fun h => (nomatch h), fun h => (nomatch h), fun h => (nomatch h)⟩

/-- Wherever the restoration stops, no data of Core is lost, and Core does not see the database
in between. Core writes nothing from the time it is stopped until the migration is over. Until
`dropdb` only Core changes the database, and from then on the backups have what it held. If the
migration succeeds, the database is the upgraded content of an archive that passed the checksum. -/
theorem restoration_loses_nothing (hrun : Run (restoration config database coreRunning directory)
    (.initial database coreRunning directory) history s) :
    (∀ u ∈ history, ∀ content, u.action = .coreWrites content →
      u.source.stage.during.down = false) ∧
    (∀ u ∈ history, u.target.database ≠ u.source.database →
      (∃ content, u.action = .coreWrites content) ∨ u.source.stage.during.begun = true) ∧
    (s.stage.during.begun = true → ∃ content, HeldAtDrop history content ∧
      Saved config s.backups.directory content) ∧
    ∀ u ∈ history, u.source.stage = .migrating → u.action = .succeed →
      ∃ archive checksum restored upgraded, config.invocation.archive = some archive ∧
        config.invocation.checksum = some checksum ∧
        digestVerified config archive checksum = true ∧
        config.programs.restore archive = some restored ∧
        config.programs.upgrade restored = some upgraded ∧
        u.target.database = .present upgraded := by
  refine ⟨?_, ?_, (inv_of_run hrun).begun, ?_⟩
  · intro u hu content haction
    obtain ⟨-, earlier, -, hearlier, hfired, -⟩ := hrun.exists_of_mem hu
    have hfired : step config u.source u.action = some (u.target, u.events) := hfired
    rw [haction] at hfired
    simp only [step] at hfired
    split at hfired
    · rename_i hrunning
      by_contra hdown
      rw [(inv_of_run hearlier).down (by simpa using hdown)] at hrunning
      cases hrunning
    · cases hfired
  · intro u hu hchanged
    obtain ⟨-, -, -, -, hfired, -⟩ := hrun.exists_of_mem hu
    exact (step_database hfired).resolve_left hchanged
  · intro u hu hstage haction
    obtain ⟨-, earlier, -, hearlier, hfired, -⟩ := hrun.exists_of_mem hu
    have hfired : step config u.source u.action = some (u.target, u.events) := hfired
    rw [haction] at hfired
    exact (inv_of_run hearlier).migrated hstage hfired

end Runs

section Samples

open JarvisCore.Scripts.BackupPostgres (sampleConfig sampleDigest sampleSecond emptyDirectory)

/-- A database is a number, and its dump is one byte. -/
def samplePrograms : Programs Nat where
  created := 0
  dump content := [UInt8.ofNat content]
  restore archive := archive.head?.map UInt8.toNat
  upgrade content := some (content + 10)

def sampleInvocation : Invocation where
  arguments := ["old.dump", confirmation]
  archive := some [2]
  checksum := some (checksumText (sampleDigest [2]) sampleSecond)
  composeFile := true
  envFile := true
  docker := true
  sha256sum := true
  environment := ⟨"jarvis", "admin", "admin password", "jarvis", "application password"⟩

def sampleRestore : Config Nat where
  programs := samplePrograms
  backup := sampleConfig
  archiveEscaped := false
  invocation := sampleInvocation

def sampleBackup : List BackupPostgres.Action :=
  [.start 0 sampleSecond, .succeed 0, .succeed 0, .succeed 0, .succeed 0, .write 0 [1]] ++
    List.replicate 7 (.succeed 0)

/-- Core writes until it is stopped, and the database is dumped. -/
def sampleSaved : List (Action Nat) :=
  [.coreWrites 7] ++ List.replicate 6 .succeed ++ [.coreWrites 1, .succeed] ++
    sampleBackup.map .backup

/-- `pg_restore` fails over the new database. -/
def sampleTorn : List (Action Nat) :=
  sampleSaved ++ List.replicate 4 .succeed ++ [.fail .absent]

def tornAtRestoring (s : State Nat) : Bool :=
  match s.stage with
  | .failed .restoring => true
  | _ => false

theorem restoration_loses_nothing_torn :
    ∃ (history : List (Step Nat)) (s : State Nat),
      Run (restoration sampleRestore 5 true emptyDirectory) (.initial 5 true emptyDirectory)
        history s ∧ s.stage = .failed .restoring ∧
      ∃ content, HeldAtDrop history content ∧
        Saved sampleRestore s.backups.directory content := by
  obtain ⟨history, s, hrun, htorn⟩ := exists_run_of_replay
    (S := restoration sampleRestore 5 true emptyDirectory) (s := .initial 5 true emptyDirectory)
    sampleTorn (fun _ s => tornAtRestoring s) (by decide)
  have hstage : s.stage = .failed .restoring := by
    unfold tornAtRestoring at htorn
    split at htorn
    · assumption
    · cases htorn
  exact ⟨history, s, hrun, hstage,
    (restoration_loses_nothing hrun).2.2.1 (by rw [hstage]; rfl)⟩

end Samples

end JarvisCore.Scripts.RestorePostgres
