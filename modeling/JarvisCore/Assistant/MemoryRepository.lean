import JarvisCore.Assistant.PromptBuilder
import JarvisCore.Pairing.Backends

/-!
The table `memories`, and `upsert` of `SqlAlchemyMemoryRepository`, which commits each
entry on its own.
-/

namespace JarvisCore.Assistant.MemoryRepository

open JarvisCore.Assistant.PromptBuilder
open JarvisCore.Domain.Errors
open JarvisCore.Domain.Values
open JarvisCore.Foundation.Dictionary
open JarvisCore.Pairing.Backends (AwaitOutcome)
open JarvisCore.Security.DeviceTables (Dialect)

/-- The columns of `memories` that `upsert` sets, next to the category and the key. -/
structure MemoryRecord where
  value : String
  updatedAt : AwareDatetime

/-- The committed rows, by the columns of `uq_memory_category_key`. -/
abbrev MemoryTable := Dict (String × String) MemoryRecord

/-- The table as a map from category and key to value. -/
def contents (table : MemoryTable) (entry : String × String) : Option String :=
  (table.lookup entry).map MemoryRecord.value

/-- A coroutine that works on a session. What it has committed stays when it raises. -/
abbrev Session := ExceptT Raised (StateM MemoryTable)

/-- What a call of `upsert` meets: the clock, and how its awaits of the database end. They
are interrupted by a cancellation, by a lost connection, and by a database that refuses the
statement. -/
structure Attempt where
  now : AwareDatetime
  outcome : AwaitOutcome

def dialectName : Dialect → String
  | .postgresql => "postgresql"
  | .sqlite => "sqlite"

def toDomain (entry : String × String) (record : MemoryRecord) : Except Raised MemoryEntry :=
  match MemoryCategory.all.find? fun category => category.value = entry.1 with
  | some category => .ok ⟨category, entry.2, record.value⟩
  | none => .error (.valueError ("'" ++ entry.1 ++ "' is not a valid MemoryCategory"))

/-- `upsert`. `on_conflict_do_update` sets the same columns as the insertion. -/
def upsert (dialect : String) (attempt : Attempt) (category : MemoryCategory)
    (key value : String) : Session MemoryEntry := do
  unless dialect = "postgresql" ∨ dialect = "sqlite" do
    throw (.runtimeError ("Atomic memory upsert is not implemented for '" ++ dialect ++ "'."))
  let record : MemoryRecord := ⟨value, attempt.now⟩
  match attempt.outcome with
  | .interrupted error false => throw error
  | outcome =>
      let entry ← liftExcept (toDomain (category.value, key) record)
      modify fun table => table.insert (category.value, key) record
      match outcome with
      | .interrupted error _ => throw error
      | .completed => return entry

def upsertMemory (dialect : String) (attempt : Attempt) (category : MemoryCategory)
    (key value : String) : Session MemoryEntry :=
  upsert dialect attempt category key value

theorem contents_insert (table : MemoryTable) (key : String × String) (record : MemoryRecord) :
    contents (table.insert key record) =
      fun entry => if entry = key then some record.value else contents table entry := by
  funext entry
  rw [contents, Dict.lookup_insert_eq]
  split
  · rfl
  · rfl

theorem toDomain_value (category : MemoryCategory) (key : String) (record : MemoryRecord) :
    toDomain (category.value, key) record = .ok ⟨category, key, record.value⟩ := by
  have hfind : MemoryCategory.all.find? (fun c => c.value = category.value) = some category := by
    cases category <;> decide
  rw [toDomain, hfind]

theorem run_upsertMemory (dialect : Dialect) (attempt : Attempt) (category : MemoryCategory)
    (key value : String) (table : MemoryTable) :
    (upsertMemory (dialectName dialect) attempt category key value).run.run table =
      match attempt.outcome with
      | .completed =>
          (.ok ⟨category, key, value⟩,
            table.insert (category.value, key) ⟨value, attempt.now⟩)
      | .interrupted error applied =>
          (.error error,
            if applied then table.insert (category.value, key) ⟨value, attempt.now⟩
            else table) := by
  have hdialect : dialectName dialect = "postgresql" ∨ dialectName dialect = "sqlite" := by
    cases dialect <;> decide
  simp only [upsertMemory, upsert, if_pos hdialect, toDomain_value]
  cases attempt.outcome with
  | completed => rfl
  | interrupted error applied => cases applied <;> rfl

end JarvisCore.Assistant.MemoryRepository
