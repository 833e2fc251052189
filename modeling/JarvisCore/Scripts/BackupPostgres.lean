import JarvisCore.Foundation.Files
import JarvisCore.Foundation.TransitionSystem

/-!
The publication part of `backup_postgres.sh`: any number of runs in one directory,
from the reading of the clock to the exit trap.
-/

namespace JarvisCore.Scripts.BackupPostgres

open JarvisCore.Foundation.Files
open JarvisCore.Foundation.TransitionSystem

abbrev Bytes := List UInt8

/-- What `sha256sum` prints for a file's content: digits, with a backslash before them
when the path has characters that it escapes. -/
structure Config where
  sha256 : Bytes → Bytes
  plain : ∀ content, ∀ b ∈ sha256 content, b ≠ 0x20 ∧ b ≠ 0x5C
  escaped : Bool

/-- The names in the backup directory. `mktemp` makes the partial ones unique, so they
are named by the run here. -/
inductive Name
  | archive (timestamp : String)
  | checksum (timestamp : String)
  | partialArchive (run : Nat)
  | partialChecksum (run : Nat)
  deriving DecidableEq

inductive Stage
  | testingArchive
  | testingChecksum
  | makingPartial
  | makingPartialChecksum
  | dumping
  | checkingSize
  | listing
  | digesting
  | recording (digest : Bytes)
  | publishingChecksum (digest : Bytes)
  | publishingArchive (digest : Bytes)
  /-- The commands of `cleanup`. -/
  | removingPartial
  | removingPartialChecksum
  | ended

structure BackupRun where
  timestamp : String
  stage : Stage

structure State where
  directory : Directory Name Bytes
  runs : Nat → Option BackupRun

def State.initial (directory : Directory Name Bytes) : State := ⟨directory, fun _ => none⟩

def ascii (text : String) : Bytes := text.toList.map fun c => UInt8.ofNat c.toNat

def filename (timestamp : String) : Bytes := ascii ("jarvis-postgres-" ++ timestamp ++ ".dump")

variable (config : Config)

/-- `sha256sum -- "${partial}" | cut -d ' ' -f 1` -/
def printedDigest (content : Bytes) : Bytes :=
  (if config.escaped then [0x5C] else []) ++ config.sha256 content

/-- `printf '%s  %s\n'` -/
def checksumText (digest : Bytes) (timestamp : String) : Bytes :=
  digest ++ [0x20, 0x20] ++ filename timestamp ++ [0x0A]

/-- `cut -d ' ' -f 1` of a checksum file. -/
def digestField (text : Bytes) : Bytes := text.takeWhile (· ≠ 0x20)

def enter (s : State) (r : Nat) (run : BackupRun) (stage : Stage) : State :=
  { s with runs := Function.update s.runs r (some { run with stage }) }

/-- The names that a rename onto `name` replaces. -/
def replaced (s : State) (name : Name) : List Name :=
  if (s.directory name).isSome then [name] else []

/-- The next command of the run, when it succeeds. -/
def succeed (s : State) (r : Nat) (run : BackupRun) : Option (State × List Name) :=
  match run.stage with
  | .testingArchive =>
      if (s.directory (.archive run.timestamp)).isSome then some (enter s r run .ended, [])
      else some (enter s r run .testingChecksum, [])
  | .testingChecksum =>
      if (s.directory (.checksum run.timestamp)).isSome then some (enter s r run .ended, [])
      else some (enter s r run .makingPartial, [])
  | .makingPartial =>
      some (enter { s with directory := s.directory.write (.partialArchive r) [] } r run
        .makingPartialChecksum, [])
  | .makingPartialChecksum =>
      some (enter { s with directory := s.directory.write (.partialChecksum r) [] } r run
        .dumping, [])
  | .dumping => some (enter s r run .checkingSize, [])
  | .checkingSize =>
      match s.directory (.partialArchive r) with
      | none | some [] => some (enter s r run .removingPartial, [])
      | some _ => some (enter s r run .listing, [])
  | .listing => some (enter s r run .digesting, [])
  | .digesting =>
      match s.directory (.partialArchive r) with
      | none => none
      | some content => some (enter s r run (.recording (printedDigest config content)), [])
  | .recording digest =>
      let text := checksumText digest run.timestamp
      some (enter { s with directory := s.directory.write (.partialChecksum r) text } r run
        (.publishingChecksum digest), [])
  | .publishingChecksum digest =>
      (s.directory.rename (.partialChecksum r) (.checksum run.timestamp)).map fun directory =>
        (enter { s with directory } r run (.publishingArchive digest),
          replaced s (.checksum run.timestamp))
  | .publishingArchive _ =>
      (s.directory.rename (.partialArchive r) (.archive run.timestamp)).map fun directory =>
        (enter { s with directory } r run .ended, replaced s (.archive run.timestamp))
  | .removingPartial =>
      some (enter { s with directory := s.directory.remove (.partialArchive r) } r run
        .removingPartialChecksum, [])
  | .removingPartialChecksum =>
      some (enter { s with directory := s.directory.remove (.partialChecksum r) } r run .ended, [])
  | .ended => none

/-- A command that is under way has written this much. -/
def write (s : State) (r : Nat) (run : BackupRun) (content : Bytes) : Option (State × List Name) :=
  match run.stage with
  | .dumping =>
      some ({ s with directory := s.directory.write (.partialArchive r) content }, [])
  | .recording _ =>
      some ({ s with directory := s.directory.write (.partialChecksum r) content }, [])
  | _ => none

/-- `set -e`: the next command fails, or a signal that bash handles arrives. The trap
is set once both partial files are made. -/
def fail (s : State) (r : Nat) (run : BackupRun) : Option (State × List Name) :=
  match run.stage with
  | .testingArchive | .testingChecksum | .makingPartial | .makingPartialChecksum
  | .removingPartial | .removingPartialChecksum => some (enter s r run .ended, [])
  | .dumping | .checkingSize | .listing | .digesting | .recording _ | .publishingChecksum _
  | .publishingArchive _ => some (enter s r run .removingPartial, [])
  | .ended => none

inductive Action
  | start (run : Nat) (timestamp : String)
  | succeed (run : Nat)
  | write (run : Nat) (content : Bytes)
  | fail (run : Nat)
  /-- The run is killed where it stands, without the trap. -/
  | kill (run : Nat)

def actor : Action → Nat
  | .start r _ | .succeed r | .write r _ | .fail r | .kill r => r

def step (s : State) (action : Action) : Option (State × List Name) :=
  match action, s.runs (actor action) with
  | .start r timestamp, none => some (enter s r ⟨timestamp, .ended⟩ .testingArchive, [])
  | .start _ _, some _ => none
  | _, none => none
  | .succeed r, some run => succeed config s r run
  | .write r content, some run => write s r run content
  | .fail r, some run => fail s r run
  | .kill r, some run => some (enter s r run .ended, [])

/-- The runs of the script in a directory that may already hold backups. -/
def backup (directory : Directory Name Bytes) : System State Action Name where
  start := State.initial directory
  step := step config

/-- Every visible archive has a checksum file with its digest. -/
def Matched (directory : Directory Name Bytes) : Prop :=
  ∀ timestamp archive, directory (.archive timestamp) = some archive →
    ∃ text, directory (.checksum timestamp) = some text ∧
      digestField text = config.sha256 archive

abbrev Step := Transition State Action Name

/-- The backups are matched, and the step before has replaced no archive. -/
def Published (history : List Step) (s : State) : Prop :=
  Matched config s.directory ∧
    ∀ u ∈ history.head?, ∀ timestamp, Name.archive timestamp ∉ u.events

inductive File
  | archive
  | checksum
  deriving DecidableEq

/-- A run gives one of its files its visible name. `dump` is the archive of the run. -/
structure Publication where
  file : File
  timestamp : String
  run : Nat
  dump : Bytes

def publication (s : State) : Action → Option Publication
  | .succeed r =>
      match s.runs r, s.directory (.partialArchive r) with
      | some ⟨timestamp, .publishingArchive _⟩, some dump => some ⟨.archive, timestamp, r, dump⟩
      | some ⟨timestamp, .publishingChecksum _⟩, some dump => some ⟨.checksum, timestamp, r, dump⟩
      | _, _ => none
  | _ => none

/-- The last time that the file of this second was given its visible name. -/
def lastPublication (file : File) (timestamp : String) (history : List Step) : Option Publication :=
  (history.filterMap fun u => publication u.source u.action).find? fun n =>
    n.file = file ∧ n.timestamp = timestamp

/-- Another run of the second was the last to rename this file, and its archive has
another digest. -/
def Foreign (file : File) (history : List Step) (n : Publication) : Prop :=
  ∃ other, lastPublication file n.timestamp history = some other ∧ other.run ≠ n.run ∧
    config.sha256 other.dump ≠ config.sha256 n.dump

/-- The renamings of two runs of one second get into each other's way: a run renames its
checksum after another one has published a different archive, or it renames its archive
after another one has published one, or has put the checksum of a different archive there.
Behind a path that `sha256sum` escapes no archive can be published. -/
def Collides (history : List Step) (u : Step) : Prop :=
  ∃ n, publication u.source u.action = some n ∧
    match n.file with
    | .checksum => Foreign config .archive history n
    | .archive => config.escaped = true ∨
        (∃ other, lastPublication .archive n.timestamp history = some other ∧ other.run ≠ n.run) ∨
        Foreign config .checksum history n

/-- What the files of a run hold when it is about to publish them. -/
def RunSound (d : Directory Name Bytes) (r : Nat) (run : BackupRun) : Prop :=
  match run.stage with
  | .recording digest =>
      ∃ content, d (.partialArchive r) = some content ∧ digest = printedDigest config content
  | .publishingChecksum digest =>
      (∃ content, d (.partialArchive r) = some content ∧ digest = printedDigest config content) ∧
        d (.partialChecksum r) = some (checksumText digest run.timestamp)
  | .publishingArchive digest =>
      (∃ content, d (.partialArchive r) = some content ∧ digest = printedDigest config content) ∧
        (d (.checksum run.timestamp)).isSome
  | _ => True

def Sound (s : State) : Prop :=
  ∀ r run, s.runs r = some run → RunSound config s.directory r run

/-- The run is past its last rename, or has given up. -/
def Stage.Over : Stage → Prop
  | .removingPartial | .removingPartialChecksum | .ended => True
  | _ => False

/-- The run has found no archive of its second. -/
def Stage.FoundNoArchive : Stage → Prop
  | .testingArchive | .removingPartial | .removingPartialChecksum | .ended => False
  | _ => True

/-- The run has found no checksum of its second either. -/
def Stage.FoundNothing : Stage → Prop
  | .testingArchive | .testingChecksum | .removingPartial | .removingPartialChecksum
  | .ended => False
  | _ => True

/-- How a step takes a run on. -/
structure Advances (s : State) (r : Nat) (after : BackupRun) : Prop where
  archive : after.stage.FoundNoArchive →
    s.directory (.archive after.timestamp) = none ∨
      ∃ run, s.runs r = some run ∧ run.timestamp = after.timestamp ∧ run.stage.FoundNoArchive
  checksum : after.stage.FoundNothing →
    s.directory (.checksum after.timestamp) = none ∨
      ∃ run, s.runs r = some run ∧ run.timestamp = after.timestamp ∧ run.stage.FoundNothing
  ended : ∀ run, s.runs r = some run →
    run.stage.Over ∨ (∃ digest, run.stage = .publishingArchive digest) → after.stage.Over

/-- What a step of run `r` leaves of the other runs and of the visible checksums. -/
structure Moves (s : State) (r : Nat) (t : State) : Prop where
  runs : ∀ r', r' ≠ r → t.runs r' = s.runs r'
  archives : ∀ r', r' ≠ r → t.directory (.partialArchive r') = s.directory (.partialArchive r')
  checksums : ∀ r', r' ≠ r → t.directory (.partialChecksum r') = s.directory (.partialChecksum r')
  kept : ∀ timestamp, (s.directory (.checksum timestamp)).isSome →
    (t.directory (.checksum timestamp)).isSome
  sound : ∀ run, t.runs r = some run → RunSound config t.directory r run

/-- A step touches hidden files only, or is one of the two renames. -/
inductive Moved (s : State) : Action → State → List Name → Prop
  | hidden (action : Action) (t : State) : Moves config s (actor action) t →
      (∀ timestamp, t.directory (.archive timestamp) = s.directory (.archive timestamp)) →
      (∀ timestamp, t.directory (.checksum timestamp) = s.directory (.checksum timestamp)) →
      publication s action = none → Moved s action t []
  | checksum (r : Nat) (run : BackupRun) (digest content : Bytes) (t : State) :
      Moves config s r t → s.runs r = some run → run.stage = .publishingChecksum digest →
      s.directory (.partialArchive r) = some content → digest = printedDigest config content →
      t.runs r = some { run with stage := .publishingArchive digest } →
      t.directory (.partialArchive r) = some content →
      (∀ timestamp, t.directory (.archive timestamp) = s.directory (.archive timestamp)) →
      t.directory (.checksum run.timestamp) = some (checksumText digest run.timestamp) →
      (∀ timestamp, timestamp ≠ run.timestamp →
        t.directory (.checksum timestamp) = s.directory (.checksum timestamp)) →
      Moved s (.succeed r) t (replaced s (.checksum run.timestamp))
  | archive (r : Nat) (run : BackupRun) (digest content : Bytes) (t : State) :
      Moves config s r t → s.runs r = some run → run.stage = .publishingArchive digest →
      s.directory (.partialArchive r) = some content →
      (s.directory (.checksum run.timestamp)).isSome →
      t.runs r = some { run with stage := .ended } →
      t.directory (.archive run.timestamp) = some content →
      (∀ timestamp, timestamp ≠ run.timestamp →
        t.directory (.archive timestamp) = s.directory (.archive timestamp)) →
      (∀ timestamp, t.directory (.checksum timestamp) = s.directory (.checksum timestamp)) →
      Moved s (.succeed r) t (replaced s (.archive run.timestamp))

variable {config} {s t : State} {r : Nat} {run : BackupRun} {action : Action} {events : List Name}

theorem RunSound.frame {d d' : Directory Name Bytes} (h : RunSound config d r run)
    (harchive : d' (.partialArchive r) = d (.partialArchive r))
    (hchecksum : d' (.partialChecksum r) = d (.partialChecksum r))
    (hkept : (d (.checksum run.timestamp)).isSome → (d' (.checksum run.timestamp)).isSome) :
    RunSound config d' r run := by
  unfold RunSound at h ⊢
  rw [harchive, hchecksum]
  split at h
  · exact h
  · exact h
  · exact ⟨h.1, hkept h.2⟩
  · trivial

theorem Moves.preserves (h : Moves config s r t) (hsound : Sound config s) : Sound config t := by
  intro r' run hrun
  by_cases hr : r' = r
  · subst hr
    exact h.sound run hrun
  · rw [h.runs r' hr] at hrun
    exact (hsound r' run hrun).frame (h.archives r' hr) (h.checksums r' hr) (h.kept run.timestamp)

/-- The files of run `r` apart, the directory is as it was. -/
def OnlyHidden (r : Nat) (d d' : Directory Name Bytes) : Prop :=
  ∀ name, name ≠ .partialArchive r → name ≠ .partialChecksum r → d' name = d name

theorem onlyHidden_refl (r : Nat) (d : Directory Name Bytes) : OnlyHidden r d d := fun _ _ _ => rfl

theorem moves_enter {d : Directory Name Bytes} {stage : Stage}
    (hothers : ∀ r', r' ≠ r → d (.partialArchive r') = s.directory (.partialArchive r') ∧
      d (.partialChecksum r') = s.directory (.partialChecksum r'))
    (hkept : ∀ timestamp, (s.directory (.checksum timestamp)).isSome →
      (d (.checksum timestamp)).isSome)
    (hsound : RunSound config d r { run with stage }) :
    Moves config s r (enter { s with directory := d } r run stage) where
  runs r' hr := Function.update_of_ne hr _ _
  archives r' hr := (hothers r' hr).1
  checksums r' hr := (hothers r' hr).2
  kept := hkept
  sound run' hrun := by
    have hupdated : (enter { s with directory := d } r run stage).runs r =
        some { run with stage } := Function.update_self _ _ _
    rw [hupdated] at hrun
    cases hrun
    exact hsound

theorem OnlyHidden.others {d d' : Directory Name Bytes} (h : OnlyHidden r d d') (r' : Nat)
    (hr : r' ≠ r) : d' (.partialArchive r') = d (.partialArchive r') ∧
      d' (.partialChecksum r') = d (.partialChecksum r') :=
  ⟨h _ (by simpa using hr) (by simp), h _ (by simp) (by simpa using hr)⟩

theorem OnlyHidden.kept {d d' : Directory Name Bytes} (h : OnlyHidden r d d')
    (timestamp : String) (hsome : (d (.checksum timestamp)).isSome) :
    (d' (.checksum timestamp)).isSome := by
  rw [h (.checksum timestamp) (by simp) (by simp)]
  exact hsome

theorem moved_enter {d : Directory Name Bytes} {stage : Stage} (hactor : actor action = r)
    (hd : OnlyHidden r s.directory d) (hsound : RunSound config d r { run with stage })
    (hcalm : publication s action = none) :
    Moved config s action (enter { s with directory := d } r run stage) [] := by
  subst hactor
  exact .hidden action _ (moves_enter hd.others hd.kept hsound) (fun _ => hd _ (by simp) (by simp))
    (fun _ => hd _ (by simp) (by simp)) hcalm

theorem onlyHidden_write {d : Directory Name Bytes} {name : Name}
    (hname : name = .partialArchive r ∨ name = .partialChecksum r) (content : Bytes) :
    OnlyHidden r d (d.write name content) := by
  intro other harchive hchecksum
  apply Directory.write_other
  rcases hname with rfl | rfl
  · exact harchive
  · exact hchecksum

theorem onlyHidden_remove {d : Directory Name Bytes} {name : Name}
    (hname : name = .partialArchive r ∨ name = .partialChecksum r) :
    OnlyHidden r d (d.remove name) := by
  intro other harchive hchecksum
  apply Directory.remove_other
  rcases hname with rfl | rfl
  · exact harchive
  · exact hchecksum

theorem publication_of_stage {stage : Stage} (hrun : s.runs r = some run)
    (hstage : run.stage = stage) (hchecksum : ∀ digest, stage ≠ .publishingChecksum digest)
    (harchive : ∀ digest, stage ≠ .publishingArchive digest) :
    publication s (.succeed r) = none := by
  subst hstage
  simp only [publication, hrun]
  split
  · rename_i hpublishing _
    exact absurd (congrArg BackupRun.stage (Option.some.inj hpublishing)) (harchive _)
  · rename_i hpublishing _
    exact absurd (congrArg BackupRun.stage (Option.some.inj hpublishing)) (hchecksum _)
  · rfl

theorem publication_archive {digest content : Bytes} (hrun : s.runs r = some run)
    (hstage : run.stage = .publishingArchive digest)
    (hcontent : s.directory (.partialArchive r) = some content) :
    publication s (.succeed r) = some ⟨.archive, run.timestamp, r, content⟩ := by
  obtain ⟨timestamp, stage⟩ := run
  obtain rfl : stage = _ := hstage
  simp only [publication, hrun, hcontent]

theorem publication_checksum {digest content : Bytes} (hrun : s.runs r = some run)
    (hstage : run.stage = .publishingChecksum digest)
    (hcontent : s.directory (.partialArchive r) = some content) :
    publication s (.succeed r) = some ⟨.checksum, run.timestamp, r, content⟩ := by
  obtain ⟨timestamp, stage⟩ := run
  obtain rfl : stage = _ := hstage
  simp only [publication, hrun, hcontent]

theorem moved_succeed {d : Directory Name Bytes} {before after : Stage}
    (hrun : s.runs r = some run) (hstage : run.stage = before)
    (hchecksum : ∀ digest, before ≠ .publishingChecksum digest)
    (harchive : ∀ digest, before ≠ .publishingArchive digest)
    (hd : OnlyHidden r s.directory d) (hsound : RunSound config d r { run with stage := after }) :
    Moved config s (.succeed r) (enter { s with directory := d } r run after) [] :=
  moved_enter rfl hd hsound (publication_of_stage hrun hstage hchecksum harchive)

theorem publishingChecksum_moved {d : Directory Name Bytes} {digest : Bytes}
    (hrun : s.runs r = some run) (hstage : run.stage = .publishingChecksum digest)
    (hown : ∃ content, s.directory (.partialArchive r) = some content ∧
      digest = printedDigest config content)
    (htext : s.directory (.partialChecksum r) = some (checksumText digest run.timestamp))
    (hd : s.directory.rename (.partialChecksum r) (.checksum run.timestamp) = some d) :
    Moved config s (.succeed r)
      (enter { s with directory := d } r run (.publishingArchive digest))
      (replaced s (.checksum run.timestamp)) := by
  obtain ⟨content, hcontent, hdigest⟩ := hown
  have hnew : d (.checksum run.timestamp) = some (checksumText digest run.timestamp) :=
    (Directory.rename_new hd).trans htext
  have hother : ∀ name, name ≠ .partialChecksum r → name ≠ .checksum run.timestamp →
      d name = s.directory name := fun name hold hname => Directory.rename_other hd hold hname
  have hkept : d (.partialArchive r) = some content := (hother _ (by simp) (by simp)).trans hcontent
  refine .checksum r run digest content _ (moves_enter ?_ ?_ ?_) hrun hstage hcontent hdigest
    (Function.update_self _ _ _) hkept (fun timestamp => hother _ (by simp) (by simp)) hnew
    (fun timestamp hne => hother _ (by simp) (by simpa using hne))
  · intro r' hr
    exact ⟨hother _ (by simp) (by simp), hother _ (by simpa using hr) (by simp)⟩
  · intro timestamp hsome
    by_cases hsame : timestamp = run.timestamp
    · rw [hsame, hnew]
      rfl
    · rw [hother _ (by simp) (by simpa using hsame)]
      exact hsome
  · refine ⟨⟨content, hkept, hdigest⟩, ?_⟩
    rw [hnew]
    rfl

theorem publishingArchive_moved {d : Directory Name Bytes} {digest content : Bytes}
    (hrun : s.runs r = some run) (hstage : run.stage = .publishingArchive digest)
    (hcontent : s.directory (.partialArchive r) = some content)
    (hchecksum : (s.directory (.checksum run.timestamp)).isSome)
    (hd : s.directory.rename (.partialArchive r) (.archive run.timestamp) = some d) :
    Moved config s (.succeed r) (enter { s with directory := d } r run .ended)
      (replaced s (.archive run.timestamp)) := by
  have hnew : d (.archive run.timestamp) = some content :=
    (Directory.rename_new hd).trans hcontent
  have hother : ∀ name, name ≠ .partialArchive r → name ≠ .archive run.timestamp →
      d name = s.directory name := fun name hold hname => Directory.rename_other hd hold hname
  refine .archive r run digest content _ (moves_enter ?_ ?_ trivial) hrun hstage hcontent
    hchecksum (Function.update_self _ _ _) hnew
    (fun timestamp hne => hother _ (by simp) (by simpa using hne))
    (fun timestamp => hother _ (by simp) (by simp))
  · intro r' hr
    exact ⟨hother _ (by simpa using hr) (by simp), hother _ (by simp) (by simp)⟩
  · intro timestamp hsome
    rw [hother _ (by simp) (by simp)]
    exact hsome

theorem succeed_moved (hsound : Sound config s) (hrun : s.runs r = some run)
    (h : succeed config s r run = some (t, events)) :
    Moved config s (.succeed r) t events := by
  have hown := hsound r run hrun
  unfold succeed at h
  unfold RunSound at hown
  cases hstage : run.stage with
  | testingArchive | testingChecksum | checkingSize =>
      rw [hstage] at h
      dsimp only at h
      split at h
      all_goals
        cases h
        exact moved_succeed hrun hstage (by simp) (by simp) (onlyHidden_refl r _) trivial
  | makingPartial =>
      rw [hstage] at h
      cases h
      exact moved_succeed hrun hstage (by simp) (by simp) (onlyHidden_write (.inl rfl) _) trivial
  | makingPartialChecksum =>
      rw [hstage] at h
      cases h
      exact moved_succeed hrun hstage (by simp) (by simp) (onlyHidden_write (.inr rfl) _) trivial
  | dumping | listing =>
      rw [hstage] at h
      cases h
      exact moved_succeed hrun hstage (by simp) (by simp) (onlyHidden_refl r _) trivial
  | digesting =>
      rw [hstage] at h
      dsimp only at h
      split at h
      · cases h
      · rename_i content hcontent
        cases h
        exact moved_succeed hrun hstage (by simp) (by simp) (onlyHidden_refl r _)
          ⟨content, hcontent, rfl⟩
  | recording digest =>
      rw [hstage] at h hown
      obtain ⟨content, hcontent, hdigest⟩ := hown
      cases h
      refine moved_succeed hrun hstage (by simp) (by simp) (onlyHidden_write (.inr rfl) _)
        ⟨⟨content, ?_, hdigest⟩, ?_⟩
      · rw [Directory.write_other _ _ (by simp)]
        exact hcontent
      · exact Directory.write_same _ _ _
  | publishingChecksum digest =>
      rw [hstage] at h hown
      obtain ⟨d, hd, heq⟩ := Option.map_eq_some_iff.mp h
      cases heq
      exact publishingChecksum_moved hrun hstage hown.1 hown.2 hd
  | publishingArchive digest =>
      rw [hstage] at h hown
      obtain ⟨⟨content, hcontent, -⟩, hchecksum⟩ := hown
      obtain ⟨d, hd, heq⟩ := Option.map_eq_some_iff.mp h
      cases heq
      exact publishingArchive_moved hrun hstage hcontent hchecksum hd
  | removingPartial =>
      rw [hstage] at h
      cases h
      exact moved_succeed hrun hstage (by simp) (by simp) (onlyHidden_remove (.inl rfl)) trivial
  | removingPartialChecksum =>
      rw [hstage] at h
      cases h
      exact moved_succeed hrun hstage (by simp) (by simp) (onlyHidden_remove (.inr rfl)) trivial
  | ended =>
      rw [hstage] at h
      cases h

theorem enter_stage (d : Directory Name Bytes) (hrun : s.runs r = some run) :
    enter { s with directory := d } r run run.stage = { s with directory := d } := by
  have hsame : Function.update s.runs r (some run) = s.runs := by
    rw [← hrun]
    exact Function.update_eq_self _ _
  exact congrArg (State.mk d) hsame

theorem write_moved {content : Bytes} (hsound : Sound config s) (hrun : s.runs r = some run)
    (h : write s r run content = some (t, events)) :
    Moved config s (.write r content) t events := by
  have hown := hsound r run hrun
  unfold write at h
  unfold RunSound at hown
  split at h
  · rename_i hstage
    cases h
    rw [← enter_stage _ hrun]
    refine moved_enter rfl (onlyHidden_write (.inl rfl) _) ?_ rfl
    unfold RunSound
    rw [hstage]
    trivial
  · rename_i digest hstage
    rw [hstage] at hown
    obtain ⟨archive, harchive, hdigest⟩ := hown
    cases h
    rw [← enter_stage _ hrun]
    refine moved_enter rfl (onlyHidden_write (.inr rfl) _) ?_ rfl
    unfold RunSound
    rw [hstage]
    refine ⟨archive, ?_, hdigest⟩
    rw [Directory.write_other _ _ (by simp)]
    exact harchive
  · cases h

theorem fail_moved (h : fail s r run = some (t, events)) : Moved config s (.fail r) t events := by
  unfold fail at h
  split at h
  case h_14 => cases h
  all_goals
    cases h
    exact moved_enter rfl (onlyHidden_refl r _) trivial rfl

theorem step_moved (hsound : Sound config s) (h : step config s action = some (t, events)) :
    Moved config s action t events := by
  unfold step at h
  split at h
  · cases h
    exact moved_enter rfl (onlyHidden_refl _ _) trivial rfl
  · cases h
  · cases h
  · rename_i hrun
    exact succeed_moved hsound hrun h
  · rename_i hrun
    exact write_moved hsound hrun h
  · exact fail_moved h
  · cases h
    exact moved_enter rfl (onlyHidden_refl _ _) trivial rfl

theorem Moved.preserves (h : Moved config s action t events) (hsound : Sound config s) :
    Sound config t := by
  cases h with
  | hidden _ _ hmoves | checksum _ _ _ _ _ hmoves | archive _ _ _ _ _ hmoves =>
      exact hmoves.preserves hsound

theorem sound_of_run {directory : Directory Name Bytes} {history : List Step}
    (hrun : Run (backup config directory) (State.initial directory) history s) :
    Sound config s := by
  refine hrun.invariant (Sound config) ?_ ?_
  · intro r run hnone
    cases hnone
  · intro s action t events hsound hstep
    exact (step_moved hsound hstep).preserves hsound

section Advances

theorem advances_enter {stage : Stage} (hrun : s.runs r = some run)
    (harchive : stage.FoundNoArchive →
      s.directory (.archive run.timestamp) = none ∨ run.stage.FoundNoArchive)
    (hchecksum : stage.FoundNothing →
      s.directory (.checksum run.timestamp) = none ∨ run.stage.FoundNothing)
    (hover : run.stage.Over ∨ (∃ digest, run.stage = .publishingArchive digest) → stage.Over) :
    Advances s r { run with stage } where
  archive h := (harchive h).imp_right fun hfound => ⟨run, hrun, rfl, hfound⟩
  checksum h := (hchecksum h).imp_right fun hfound => ⟨run, hrun, rfl, hfound⟩
  ended run' hrun' h := by
    obtain rfl : run = run' := Option.some.inj (hrun.symm.trans hrun')
    exact hover h

theorem advances_over {stage : Stage} (hrun : s.runs r = some run) (hover : stage.Over) :
    Advances s r { run with stage } := by
  refine advances_enter hrun ?_ ?_ fun _ => hover
  · cases stage <;> first | exact False.elim | exact hover.elim
  · cases stage <;> first | exact False.elim | exact hover.elim

theorem advances_found {stage : Stage} (hrun : s.runs r = some run)
    (harchive : run.stage.FoundNoArchive) (hchecksum : run.stage.FoundNothing)
    (hover : ¬ run.stage.Over ∧ ∀ digest, run.stage ≠ .publishingArchive digest) :
    Advances s r { run with stage } := by
  refine advances_enter hrun (fun _ => .inr harchive) (fun _ => .inr hchecksum) ?_
  rintro (h | ⟨digest, h⟩)
  · exact absurd h hover.1
  · exact absurd h (hover.2 digest)

theorem succeed_advances (hrun : s.runs r = some run)
    (h : succeed config s r run = some (t, events)) :
    ∃ after, t.runs r = some after ∧ Advances s r after := by
  have entered {stage : Stage} (ht : t.runs r = some { run with stage })
      (hadvances : Advances s r { run with stage }) :
      ∃ after, t.runs r = some after ∧ Advances s r after := ⟨_, ht, hadvances⟩
  have found {stage : Stage} (ht : t.runs r = some { run with stage })
      (hstage : run.stage.FoundNoArchive ∧ run.stage.FoundNothing ∧ ¬ run.stage.Over ∧
        ∀ digest, run.stage ≠ .publishingArchive digest) :
      ∃ after, t.runs r = some after ∧ Advances s r after :=
    ⟨_, ht, advances_found hrun hstage.1 hstage.2.1 hstage.2.2⟩
  unfold succeed at h
  cases hstage : run.stage with
  | testingArchive =>
      rw [hstage] at h
      dsimp only at h
      split at h
      · cases h
        exact entered (Function.update_self _ _ _) (advances_over hrun trivial)
      · rename_i hnone
        cases h
        refine entered (Function.update_self _ _ _)
          (advances_enter hrun (fun _ => .inl ?_) False.elim ?_)
        · exact Option.not_isSome_iff_eq_none.mp hnone
        · simp [hstage, Stage.Over]
  | testingChecksum =>
      rw [hstage] at h
      dsimp only at h
      split at h
      · cases h
        exact entered (Function.update_self _ _ _) (advances_over hrun trivial)
      · rename_i hnone
        cases h
        refine entered (Function.update_self _ _ _)
          (advances_enter hrun (fun _ => .inr ?_) (fun _ => .inl ?_) ?_)
        · simp [hstage, Stage.FoundNoArchive]
        · exact Option.not_isSome_iff_eq_none.mp hnone
        · simp [hstage, Stage.Over]
  | makingPartial | makingPartialChecksum | dumping | listing | recording =>
      rw [hstage] at h
      cases h
      exact found (Function.update_self _ _ _)
        (by simp [hstage, Stage.FoundNoArchive, Stage.FoundNothing, Stage.Over])
  | checkingSize =>
      rw [hstage] at h
      dsimp only at h
      split at h
      all_goals
        cases h
        exact found (Function.update_self _ _ _)
          (by simp [hstage, Stage.FoundNoArchive, Stage.FoundNothing, Stage.Over])
  | digesting =>
      rw [hstage] at h
      dsimp only at h
      split at h
      · cases h
      · cases h
        exact found (Function.update_self _ _ _)
          (by simp [hstage, Stage.FoundNoArchive, Stage.FoundNothing, Stage.Over])
  | publishingChecksum digest =>
      rw [hstage] at h
      obtain ⟨d, -, heq⟩ := Option.map_eq_some_iff.mp h
      cases heq
      exact found (Function.update_self _ _ _)
        (by simp [hstage, Stage.FoundNoArchive, Stage.FoundNothing, Stage.Over])
  | publishingArchive digest =>
      rw [hstage] at h
      obtain ⟨d, -, heq⟩ := Option.map_eq_some_iff.mp h
      cases heq
      exact entered (Function.update_self _ _ _) (advances_over hrun trivial)
  | removingPartial | removingPartialChecksum =>
      rw [hstage] at h
      cases h
      exact entered (Function.update_self _ _ _) (advances_over hrun trivial)
  | ended =>
      rw [hstage] at h
      cases h

theorem step_advances (h : step config s action = some (t, events)) :
    ∃ after, t.runs (actor action) = some after ∧ Advances s (actor action) after := by
  have ended {r : Nat} {run : BackupRun} (hrun : s.runs r = some run) {stage : Stage}
      (ht : t.runs r = some { run with stage }) (hover : stage.Over) :
      ∃ after, t.runs r = some after ∧ Advances s r after := ⟨_, ht, advances_over hrun hover⟩
  unfold step at h
  split at h
  · rename_i r timestamp hfresh
    cases h
    refine ⟨⟨timestamp, .testingArchive⟩, Function.update_self _ _ _, False.elim, False.elim, ?_⟩
    intro run hrun
    rw [hfresh] at hrun
    cases hrun
  · cases h
  · cases h
  · rename_i r run hrun
    exact succeed_advances hrun h
  · rename_i r content run hrun
    unfold write at h
    split at h
    · rename_i hstage
      cases h
      exact ⟨run, hrun, advances_found hrun (by simp [hstage, Stage.FoundNoArchive])
        (by simp [hstage, Stage.FoundNothing]) (by simp [hstage, Stage.Over])⟩
    · rename_i hstage
      cases h
      exact ⟨run, hrun, advances_found hrun (by simp [hstage, Stage.FoundNoArchive])
        (by simp [hstage, Stage.FoundNothing]) (by simp [hstage, Stage.Over])⟩
    · cases h
  · rename_i r run hrun
    unfold fail at h
    split at h
    case h_14 => cases h
    all_goals
      cases h
      exact ended hrun (Function.update_self _ _ _) trivial
  · rename_i r run hrun
    cases h
    exact ended hrun (Function.update_self _ _ _) trivial

end Advances

theorem digestField_checksumText {digest : Bytes} (timestamp : String)
    (h : (0x20 : UInt8) ∉ digest) : digestField (checksumText digest timestamp) = digest := by
  have hall : ∀ b ∈ digest, decide (b ≠ 0x20) = true := by
    intro b hb
    have hne : b ≠ 0x20 := fun heq => h (heq ▸ hb)
    exact decide_eq_true hne
  unfold digestField checksumText
  rw [List.append_assoc, List.append_assoc, List.takeWhile_append_of_pos hall]
  exact List.append_nil _

theorem notMem_printedDigest (config : Config) (content : Bytes) :
    (0x20 : UInt8) ∉ printedDigest config content := by
  intro hmem
  rcases List.mem_append.mp hmem with hescape | hdigest
  · cases hescaped : config.escaped with
    | false => simp [hescaped] at hescape
    | true => simp [hescaped] at hescape
  · exact (config.plain content _ hdigest).1 rfl

section Publications

variable {directory : Directory Name Bytes} {history : List Step} {file : File}
  {timestamp : String} {n : Publication}

theorem lastPublication_of_none (h : publication s action = none) :
    lastPublication file timestamp (⟨s, action, events, t⟩ :: history) =
      lastPublication file timestamp history := by
  simp [lastPublication, h]

theorem lastPublication_of_some (h : publication s action = some n) :
    lastPublication file timestamp (⟨s, action, events, t⟩ :: history) =
      if n.file = file ∧ n.timestamp = timestamp then some n
      else lastPublication file timestamp history := by
  simp only [lastPublication, List.filterMap_cons, h, List.find?_cons]
  by_cases hn : n.file = file ∧ n.timestamp = timestamp
  · simp [hn]
  · simp only [hn, decide_false, if_false]

/-- What has become of the run that published the file. -/
def Followed (s : State) (n : Publication) : Prop :=
  ∃ run, s.runs n.run = some run ∧ (run.stage.Over ∨ n.file = .checksum ∧
    (∃ digest, run.stage = .publishingArchive digest) ∧
      s.directory (.partialArchive n.run) = some n.dump)

/-- The visible files are those that were published last, or have been there from the
start; and a run that has found none of its second goes on in a directory that had none. -/
structure Traced (config : Config) (directory : Directory Name Bytes) (history : List Step)
    (s : State) : Prop where
  archives : ∀ timestamp, s.directory (.archive timestamp) =
    ((lastPublication .archive timestamp history).map fun n => n.dump).or
      (directory (.archive timestamp))
  checksums : ∀ timestamp, s.directory (.checksum timestamp) =
    ((lastPublication .checksum timestamp history).map fun n =>
      checksumText (printedDigest config n.dump) timestamp).or (directory (.checksum timestamp))
  foundNoArchive : ∀ r run, s.runs r = some run → run.stage.FoundNoArchive →
    directory (.archive run.timestamp) = none
  foundNothing : ∀ r run, s.runs r = some run → run.stage.FoundNothing →
    directory (.checksum run.timestamp) = none
  followed : ∀ u ∈ history, ∀ n, publication u.source u.action = some n → Followed s n

theorem Moved.moves (h : Moved config s action t events) : Moves config s (actor action) t := by
  cases h with
  | hidden _ _ hmoves | checksum _ _ _ _ _ hmoves | archive _ _ _ _ _ hmoves => exact hmoves

theorem Followed.step (hfollowed : Followed s n) (hmoved : Moved config s action t events)
    (h : step config s action = some (t, events)) : Followed t n := by
  obtain ⟨run, hrun, hstage⟩ := hfollowed
  by_cases hactor : n.run = actor action
  · obtain ⟨after, hafter, hadvances⟩ := step_advances h
    rw [hactor] at hrun
    refine ⟨after, hactor ▸ hafter, .inl (hadvances.ended run hrun ?_)⟩
    exact hstage.imp_right fun hlater => hlater.2.1
  · refine ⟨run, (hmoved.moves.runs _ hactor).trans hrun, ?_⟩
    rw [hmoved.moves.archives _ hactor]
    exact hstage

theorem Traced.step (htraced : Traced config directory history s)
    (hmoved : Moved config s action t events) (h : step config s action = some (t, events)) :
    Traced config directory (⟨s, action, events, t⟩ :: history) t := by
  have absent {name : Name} {α : Type} {last : Option α} {f : α → Bytes}
      (hvisible : s.directory name = (last.map f).or (directory name))
      (hnone : s.directory name = none) : directory name = none := by
    rw [hvisible] at hnone
    exact (Option.or_eq_none_iff.mp hnone).2
  refine ⟨?_, ?_, ?_, ?_, ?_⟩
  · intro timestamp
    cases hmoved with
    | hidden _ _ _ harchives _ hcalm =>
        rw [lastPublication_of_none hcalm, harchives]
        exact htraced.archives timestamp
    | checksum r run digest content _ _ hrun hstage hcontent _ _ _ harchives =>
        rw [lastPublication_of_some (publication_checksum hrun hstage hcontent), if_neg (by simp),
          harchives]
        exact htraced.archives timestamp
    | archive r run digest content _ _ hrun hstage hcontent _ _ hnew hothers =>
        rw [lastPublication_of_some (publication_archive hrun hstage hcontent)]
        by_cases hsame : run.timestamp = timestamp
        · subst hsame
          rw [if_pos ⟨rfl, rfl⟩, hnew]
          rfl
        · rw [if_neg (by simp [hsame]), hothers timestamp (Ne.symm hsame)]
          exact htraced.archives timestamp
  · intro timestamp
    cases hmoved with
    | hidden _ _ _ _ hchecksums hcalm =>
        rw [lastPublication_of_none hcalm, hchecksums]
        exact htraced.checksums timestamp
    | checksum r run digest content _ _ hrun hstage hcontent hdigest _ _ _ hnew hothers =>
        rw [lastPublication_of_some (publication_checksum hrun hstage hcontent)]
        by_cases hsame : run.timestamp = timestamp
        · subst hsame
          rw [if_pos ⟨rfl, rfl⟩, hnew, hdigest]
          rfl
        · rw [if_neg (by simp [hsame]), hothers timestamp (Ne.symm hsame)]
          exact htraced.checksums timestamp
    | archive r run digest content _ _ hrun hstage hcontent _ _ _ _ hchecksums =>
        rw [lastPublication_of_some (publication_archive hrun hstage hcontent), if_neg (by simp),
          hchecksums]
        exact htraced.checksums timestamp
  · intro r run hrun hfound
    by_cases hactor : r = actor action
    · subst hactor
      obtain ⟨after, hafter, hadvances⟩ := step_advances h
      obtain rfl : after = run := Option.some.inj (hafter.symm.trans hrun)
      rcases hadvances.archive hfound with hnone | ⟨before, hbefore, htimestamp, hearlier⟩
      · exact absent (htraced.archives _) hnone
      · rw [← htimestamp]
        exact htraced.foundNoArchive _ before hbefore hearlier
    · exact htraced.foundNoArchive r run ((hmoved.moves.runs r hactor).symm.trans hrun) hfound
  · intro r run hrun hfound
    by_cases hactor : r = actor action
    · subst hactor
      obtain ⟨after, hafter, hadvances⟩ := step_advances h
      obtain rfl : after = run := Option.some.inj (hafter.symm.trans hrun)
      rcases hadvances.checksum hfound with hnone | ⟨before, hbefore, htimestamp, hearlier⟩
      · exact absent (htraced.checksums _) hnone
      · rw [← htimestamp]
        exact htraced.foundNothing _ before hbefore hearlier
    · exact htraced.foundNothing r run ((hmoved.moves.runs r hactor).symm.trans hrun) hfound
  · rw [List.forall_mem_cons]
    refine ⟨?_, fun u hu n hn => (htraced.followed u hu n hn).step hmoved h⟩
    intro n hn
    cases hmoved with
    | hidden _ _ _ _ _ hcalm =>
        rw [hcalm] at hn
        cases hn
    | checksum r run digest content _ _ hrun hstage hcontent _ hafter hkept =>
        rw [publication_checksum hrun hstage hcontent] at hn
        cases hn
        exact ⟨_, hafter, .inr ⟨rfl, ⟨digest, rfl⟩, hkept⟩⟩
    | archive r run digest content _ _ hrun hstage hcontent _ hafter =>
        rw [publication_archive hrun hstage hcontent] at hn
        cases hn
        exact ⟨_, hafter, .inl trivial⟩

theorem traced_of_run (hrun : Run (backup config directory) (State.initial directory) history s) :
    Traced config directory history s := by
  induction hrun with
  | nil =>
      refine ⟨fun _ => rfl, fun _ => rfl, ?_, ?_, ?_⟩
      · intro r run hnone
        cases hnone
      · intro r run hnone
        cases hnone
      · intro u hu
        cases hu
  | step action events t hprev hstep ih =>
      exact ih.step (step_moved (sound_of_run hprev) hstep) hstep

theorem Traced.last (htraced : Traced config directory history s) {other : Publication}
    (hlast : lastPublication file timestamp history = some other) :
    other.file = file ∧ Followed s other := by
  have hmatches := List.find?_some hlast
  obtain ⟨u, hu, hother⟩ := List.mem_filterMap.mp (List.mem_of_find?_eq_some hlast)
  simp only [decide_eq_true_eq] at hmatches
  exact ⟨hmatches.1, htraced.followed u hu other hother⟩

theorem Traced.other_run (htraced : Traced config directory history s) (hrun : s.runs r = some run)
    (hstage : ¬ run.stage.Over) {other : Publication}
    (hlast : lastPublication .archive timestamp history = some other) : other.run ≠ r := by
  rintro rfl
  obtain ⟨hfile, after, hafter, hover | ⟨hchecksum, -⟩⟩ := htraced.last hlast
  · obtain rfl : after = run := Option.some.inj (hafter.symm.trans hrun)
    exact hstage hover
  · rw [hfile] at hchecksum
    cases hchecksum

/-- The checksum that a run has published is that of the archive it is about to publish. -/
theorem Traced.own_dump (htraced : Traced config directory history s)
    (hrun : s.runs r = some run) (hstage : ¬ run.stage.Over) {other : Publication}
    (hlast : lastPublication .checksum timestamp history = some other) (hown : other.run = r)
    {content : Bytes} (hcontent : s.directory (.partialArchive r) = some content) :
    other.dump = content := by
  subst hown
  obtain ⟨-, after, hafter, hover | ⟨-, -, hdump⟩⟩ := htraced.last hlast
  · obtain rfl : after = run := Option.some.inj (hafter.symm.trans hrun)
    exact absurd hover hstage
  · exact Option.some.inj (hdump.symm.trans hcontent)

end Publications

/-- The checksum of a run replaces what the visible archive has, if there is one. -/
theorem matched_checksum {digest : Bytes} (hplain : (0x20 : UInt8) ∉ digest)
    (hmatched : Matched config s.directory)
    (harchives : ∀ timestamp, t.directory (.archive timestamp) = s.directory (.archive timestamp))
    (hnew : t.directory (.checksum run.timestamp) = some (checksumText digest run.timestamp))
    (hothers : ∀ timestamp, timestamp ≠ run.timestamp →
      t.directory (.checksum timestamp) = s.directory (.checksum timestamp)) :
    Matched config t.directory ↔
      ¬ ∃ archive, s.directory (.archive run.timestamp) = some archive ∧
        digest ≠ config.sha256 archive := by
  constructor
  · rintro hafter ⟨archive, harchive, hne⟩
    obtain ⟨text, htext, hdigest⟩ :=
      hafter run.timestamp archive ((harchives run.timestamp).trans harchive)
    obtain rfl : checksumText digest run.timestamp = text := Option.some.inj (hnew.symm.trans htext)
    rw [digestField_checksumText _ hplain] at hdigest
    exact hne hdigest
  · intro hgood timestamp archive harchive
    rw [harchives timestamp] at harchive
    by_cases hsame : timestamp = run.timestamp
    · subst hsame
      refine ⟨_, hnew, ?_⟩
      rw [digestField_checksumText _ hplain]
      by_contra hne
      exact hgood ⟨archive, harchive, hne⟩
    · rw [hothers timestamp hsame]
      exact hmatched timestamp archive harchive

/-- The archive of a run is matched if the visible checksum is the one of its content. -/
theorem matched_archive {content text : Bytes} (hmatched : Matched config s.directory)
    (htext : s.directory (.checksum run.timestamp) = some text)
    (hnew : t.directory (.archive run.timestamp) = some content)
    (hothers : ∀ timestamp, timestamp ≠ run.timestamp →
      t.directory (.archive timestamp) = s.directory (.archive timestamp))
    (hchecksums : ∀ timestamp,
      t.directory (.checksum timestamp) = s.directory (.checksum timestamp)) :
    Matched config t.directory ↔ digestField text = config.sha256 content := by
  constructor
  · intro hafter
    obtain ⟨found, hfound, hdigest⟩ := hafter run.timestamp content hnew
    rw [hchecksums, htext] at hfound
    cases hfound
    exact hdigest
  · intro hdigest timestamp archive harchive
    rw [hchecksums timestamp]
    by_cases hsame : timestamp = run.timestamp
    · subst hsame
      obtain rfl : content = archive := Option.some.inj (hnew.symm.trans harchive)
      exact ⟨text, htext, hdigest⟩
    · rw [hothers timestamp hsame] at harchive
      exact hmatched timestamp archive harchive

theorem published_cons {history : List Step} :
    Published config (⟨s, action, events, t⟩ :: history) t ↔
      Matched config t.directory ∧ ∀ timestamp, Name.archive timestamp ∉ events := by
  simp [Published]

theorem archive_notMem_replaced (name : Name) :
    (∀ timestamp, Name.archive timestamp ∉ replaced s name) ↔
      ∀ timestamp, name = .archive timestamp → (s.directory name).isNone := by
  unfold replaced
  cases hname : s.directory name with
  | none => simp
  | some content => simp [eq_comm]

section Collisions

variable {directory : Directory Name Bytes} {history : List Step} {n : Publication}

theorem printedDigest_of_plain (hescaped : config.escaped = false) (content : Bytes) :
    printedDigest config content = config.sha256 content := by
  simp [printedDigest, hescaped]

theorem printedDigest_ne (hescaped : config.escaped = true) (content content' : Bytes) :
    printedDigest config content ≠ config.sha256 content' := by
  intro heq
  have hmem : (0x5C : UInt8) ∈ config.sha256 content' := by
    rw [← heq]
    simp [printedDigest, hescaped]
  exact (config.plain content' _ hmem).2 rfl

/-- While a run that has found nothing goes on, the visible archive of its second is one
that another run has published. -/
theorem Traced.archive_eq (htraced : Traced config directory history s)
    (hrun : s.runs r = some run) (hfound : run.stage.FoundNoArchive) :
    s.directory (.archive run.timestamp) =
      (lastPublication .archive run.timestamp history).map fun n => n.dump := by
  rw [htraced.archives, htraced.foundNoArchive r run hrun hfound, Option.or_none]

theorem Traced.checksum_eq (htraced : Traced config directory history s)
    (hrun : s.runs r = some run) (hfound : run.stage.FoundNothing) :
    s.directory (.checksum run.timestamp) =
      (lastPublication .checksum run.timestamp history).map fun n =>
        checksumText (printedDigest config n.dump) run.timestamp := by
  rw [htraced.checksums, htraced.foundNothing r run hrun hfound, Option.or_none]

/-- A matched archive that was published in the run has a checksum without a backslash. -/
theorem Traced.plain_of_visible (htraced : Traced config directory history s)
    (hmatched : Matched config s.directory) (hrun : s.runs r = some run)
    (hfound : run.stage.FoundNothing) {archive : Bytes}
    (harchive : s.directory (.archive run.timestamp) = some archive) : config.escaped = false := by
  obtain ⟨text, htext, hdigest⟩ := hmatched run.timestamp archive harchive
  rw [htraced.checksum_eq hrun hfound] at htext
  obtain ⟨other, -, rfl⟩ := Option.map_eq_some_iff.mp htext
  rw [digestField_checksumText _ (notMem_printedDigest config other.dump)] at hdigest
  cases hescaped : config.escaped with
  | false => rfl
  | true => exact absurd hdigest (printedDigest_ne hescaped _ _)

/-- A run that renames its checksum spoils the archive that is there exactly if another run
has published a different one. -/
theorem checksum_collides (htraced : Traced config directory history s)
    (hmatched : Matched config s.directory) (hrun : s.runs r = some run) {digest content : Bytes}
    (hstage : run.stage = .publishingChecksum digest) :
    (∃ archive, s.directory (.archive run.timestamp) = some archive ∧
        printedDigest config content ≠ config.sha256 archive) ↔
      Foreign config .archive history ⟨.checksum, run.timestamp, r, content⟩ := by
  have hnothing : run.stage.FoundNothing := by simp [hstage, Stage.FoundNothing]
  have hvisible := htraced.archive_eq hrun (by simp [hstage, Stage.FoundNoArchive])
  constructor
  · rintro ⟨archive, harchive, hne⟩
    have hplain := htraced.plain_of_visible hmatched hrun hnothing harchive
    rw [hvisible] at harchive
    obtain ⟨other, hlast, rfl⟩ := Option.map_eq_some_iff.mp harchive
    refine ⟨other, hlast, htraced.other_run hrun (by simp [hstage, Stage.Over]) hlast, ?_⟩
    rw [printedDigest_of_plain hplain] at hne
    exact hne.symm
  · rintro ⟨other, hlast, -, hne⟩
    have harchive : s.directory (.archive run.timestamp) = some other.dump := by
      rw [hvisible, hlast]
      rfl
    refine ⟨other.dump, harchive, ?_⟩
    rw [printedDigest_of_plain (htraced.plain_of_visible hmatched hrun hnothing harchive)]
    exact hne.symm

/-- A run that renames its archive finds its own digest and no archive exactly if no other
run has been there. -/
theorem archive_collides (htraced : Traced config directory history s)
    (hrun : s.runs r = some run) {digest content text : Bytes}
    (hstage : run.stage = .publishingArchive digest)
    (hcontent : s.directory (.partialArchive r) = some content)
    (htext : s.directory (.checksum run.timestamp) = some text) :
    (digestField text = config.sha256 content ∧ s.directory (.archive run.timestamp) = none) ↔
      ¬ (config.escaped = true ∨
        (∃ other, lastPublication .archive run.timestamp history = some other ∧ other.run ≠ r) ∨
          Foreign config .checksum history ⟨.archive, run.timestamp, r, content⟩) := by
  have hover : ¬ run.stage.Over := by simp [hstage, Stage.Over]
  rw [htraced.checksum_eq hrun (by simp [hstage, Stage.FoundNothing])] at htext
  rw [htraced.archive_eq hrun (by simp [hstage, Stage.FoundNoArchive])]
  obtain ⟨last, hlast, rfl⟩ := Option.map_eq_some_iff.mp htext
  rw [digestField_checksumText _ (notMem_printedDigest config last.dump)]
  constructor
  · rintro ⟨hdigest, hnone⟩ (hescaped | ⟨other, hother, -⟩ | ⟨other, hother, -, hne⟩)
    · exact printedDigest_ne hescaped _ _ hdigest
    · rw [hother] at hnone
      cases hnone
    · obtain rfl : last = other := Option.some.inj (hlast.symm.trans hother)
      cases hescaped : config.escaped with
      | false =>
          rw [printedDigest_of_plain hescaped] at hdigest
          exact hne hdigest
      | true => exact printedDigest_ne hescaped _ _ hdigest
  · intro hcalm
    have hescaped : config.escaped = false := by
      by_contra hescaped
      exact hcalm (.inl (by simpa using hescaped))
    constructor
    · rw [printedDigest_of_plain hescaped]
      by_contra hne
      have hother : last.run ≠ r := fun hown =>
        hne (congrArg config.sha256 (htraced.own_dump hrun hover hlast hown hcontent))
      exact hcalm (.inr (.inr ⟨last, hlast, hother, hne⟩))
    · rw [Option.map_eq_none_iff]
      by_contra hsome
      obtain ⟨other, hother⟩ := Option.ne_none_iff_exists'.mp hsome
      exact hcalm (.inr (.inl ⟨other, hother, htraced.other_run hrun hover hother⟩))

theorem collides_iff (hn : publication s action = some n) :
    Collides config history ⟨s, action, events, t⟩ ↔
      match n.file with
      | .checksum => Foreign config .archive history n
      | .archive => config.escaped = true ∨
          (∃ other, lastPublication .archive n.timestamp history = some other ∧
            other.run ≠ n.run) ∨ Foreign config .checksum history n := by
  constructor
  · rintro ⟨found, hfound, hcollides⟩
    obtain rfl : n = found := Option.some.inj (hn.symm.trans hfound)
    exact hcollides
  · intro hcollides
    exact ⟨n, hn, hcollides⟩

/-- From a directory with matched backups a step leads to one, and replaces no archive,
exactly when it does not collide with another run. -/
theorem published_step (htraced : Traced config directory history s)
    (hmatched : Matched config s.directory) (h : Moved config s action t events) :
    Published config (⟨s, action, events, t⟩ :: history) t ↔
      ¬ Collides config history ⟨s, action, events, t⟩ := by
  rw [published_cons]
  cases h with
  | hidden _ _ hmoves harchives hchecksums hcalm =>
      have hafter : Matched config t.directory := by
        intro timestamp archive harchive
        rw [harchives timestamp] at harchive
        rw [hchecksums timestamp]
        exact hmatched timestamp archive harchive
      refine ⟨fun _ => ?_, fun _ => ⟨hafter, fun _ => List.not_mem_nil⟩⟩
      rintro ⟨n, hn, -⟩
      rw [show publication s action = some n from hn] at hcalm
      cases hcalm
  | checksum r run digest content _ _ hrun hstage hcontent hdigest _ _ harchives hnew hothers =>
      subst hdigest
      rw [collides_iff (publication_checksum hrun hstage hcontent),
        matched_checksum (notMem_printedDigest config content) hmatched harchives hnew hothers,
        checksum_collides htraced hmatched hrun hstage, archive_notMem_replaced]
      exact ⟨fun h => h.1, fun h => ⟨h, fun _ heq => nomatch heq⟩⟩
  | archive r run digest content _ _ hrun hstage hcontent hchecksum _ hnew hothers hchecksums =>
      obtain ⟨text, htext⟩ := Option.isSome_iff_exists.mp hchecksum
      rw [collides_iff (publication_archive hrun hstage hcontent),
        matched_archive hmatched htext hnew hothers hchecksums, archive_notMem_replaced,
        ← archive_collides htraced hrun hstage hcontent htext]
      simp [Option.isNone_iff_eq_none]

end Collisions

/-- Throughout a run the visible archives have their checksums and none is replaced,
exactly if the renamings of no two runs of one second get into each other's way. -/
theorem backups_match_iff (config : Config) (directory : Directory Name Bytes)
    (hmatched : Matched config directory) {history : List Step} {s : State}
    (hrun : Run (backup config directory) (State.initial directory) history s) :
    Throughout (Published config) (State.initial directory) history ↔
      Never (Collides config) history := by
  constructor
  · refine hrun.never_of_throughout _ _ ?_
    intro history s action events t hprev hpoint hstep hbad
    have hmoved := step_moved (sound_of_run hprev) hstep
    exact fun hpublished =>
      (published_step (traced_of_run hprev) hpoint.1 hmoved).mp hpublished hbad
  · refine hrun.throughout_of_never _ _ ⟨hmatched, fun _ hnone => nomatch hnone⟩ ?_
    intro history s action events t hprev hpoint hstep hgood
    have hmoved := step_moved (sound_of_run hprev) hstep
    exact (published_step (traced_of_run hprev) hpoint.1 hmoved).mpr hgood

section Samples

/-- The SHA-256 digests of the two archives below. -/
def sampleDigest (content : Bytes) : Bytes :=
  if content = [1] then
    ascii "4bf5122f344554c53bde2ebb8cd2b7e3d1600ad631c385a5d7cce23c7785459a"
  else if content = [2] then
    ascii "dbc1b4c900ffe48d575b5da5c638040125f65db0fe3e24494b76ea986457d986"
  else []

def sampleConfig : Config where
  sha256 := sampleDigest
  plain content := by
    unfold sampleDigest
    split
    · decide +kernel
    split
    · decide +kernel
    · intro b hb
      cases hb
  escaped := false

def sampleSecond : String := "20260101T000000Z"

def emptyDirectory : Directory Name Bytes := fun _ => none

theorem matched_empty : Matched sampleConfig emptyDirectory := fun _ _ hnone => nomatch hnone

/-- Run `r` up to the renames, with a dump of one byte. -/
def dumps (r : Nat) : List Action :=
  [.succeed r, .succeed r, .write r [UInt8.ofNat r], .succeed r, .succeed r, .succeed r,
    .succeed r, .succeed r]

def sampleLone : List Action :=
  [.start 1 sampleSecond, .succeed 1, .succeed 1] ++ dumps 1 ++ [.succeed 1, .succeed 1]

/-- Both runs test for the files before either has published any. -/
def sampleRace : List Action :=
  [.start 1 sampleSecond, .start 2 sampleSecond, .succeed 1, .succeed 1, .succeed 2, .succeed 2] ++
    dumps 1 ++ dumps 2 ++ [.succeed 1, .succeed 2, .succeed 1]

def visible (s : State) (archive digest : Bytes) : Bool :=
  s.directory (.archive sampleSecond) = some archive &&
    (s.directory (.checksum sampleSecond)).map digestField = some digest

theorem backups_match_lone :
    ∃ history s, Run (backup sampleConfig emptyDirectory) (State.initial emptyDirectory) history s ∧
      visible s [1] (sampleDigest [1]) = true ∧
      (Throughout (Published sampleConfig) (State.initial emptyDirectory) history ↔
        Never (Collides sampleConfig) history) := by
  obtain ⟨history, s, hrun, htest⟩ := exists_run_of_replay
    (S := backup sampleConfig emptyDirectory) (s := State.initial emptyDirectory) sampleLone
    (fun _ s => visible s [1] (sampleDigest [1])) (by decide)
  exact ⟨history, s, hrun, htest, backups_match_iff sampleConfig emptyDirectory matched_empty hrun⟩

/-- Two runs of one second: the first archive becomes visible beside the checksum of the
second, and then the second archive replaces it. -/
theorem same_second_mismatch :
    (∃ history s,
      Run (backup sampleConfig emptyDirectory) (State.initial emptyDirectory) history s ∧
      ¬ Matched sampleConfig s.directory) ∧
    ∃ history s, Run (backup sampleConfig emptyDirectory) (State.initial emptyDirectory) history s ∧
      ∃ u ∈ history, Name.archive sampleSecond ∈ u.events := by
  constructor
  · obtain ⟨history, s, hrun, htest⟩ := exists_run_of_replay
      (S := backup sampleConfig emptyDirectory) (s := State.initial emptyDirectory) sampleRace
      (fun _ s => visible s [1] (sampleDigest [2])) (by decide)
    refine ⟨history, s, hrun, fun hmatched => ?_⟩
    simp only [visible, Bool.and_eq_true, decide_eq_true_eq] at htest
    obtain ⟨text, htext, hdigest⟩ := hmatched sampleSecond [1] htest.1
    have hfield := htest.2
    rw [htext, Option.map_some, hdigest] at hfield
    exact absurd (Option.some.inj hfield) (by decide)
  · obtain ⟨history, s, hrun, htest⟩ := exists_run_of_replay
      (S := backup sampleConfig emptyDirectory) (s := State.initial emptyDirectory)
      (sampleRace ++ [.succeed 2])
      (fun history _ => history.any fun u => Name.archive sampleSecond ∈ u.events) (by decide)
    obtain ⟨u, hu, hreplaced⟩ := List.any_eq_true.mp htest
    exact ⟨history, s, hrun, u, hu, of_decide_eq_true hreplaced⟩

end Samples

end JarvisCore.Scripts.BackupPostgres
