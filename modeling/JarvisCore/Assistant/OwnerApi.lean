import JarvisCore.Assistant.MemoryRepository
import JarvisCore.Configuration.TrustDomains
import JarvisCore.Foundation.LastWrites

namespace JarvisCore.Assistant.OwnerApi

open JarvisCore.Assistant.MemoryRepository
open JarvisCore.Assistant.PromptBuilder
open JarvisCore.Configuration.Settings
open JarvisCore.Configuration.TrustDomains
open JarvisCore.Domain.Errors
open JarvisCore.Domain.Values
open JarvisCore.Foundation.Dictionary
open JarvisCore.Foundation.LastWrites
open JarvisCore.Foundation.Text
open JarvisCore.Foundation.TransitionSystem
open JarvisCore.Foundation.Url
open JarvisCore.Pairing.Backends (AwaitOutcome)
open JarvisCore.Security.DeviceTables (Dialect)

deriving instance DecidableEq for MemoryRecord

section Repository

/-- A `MemoryEntry` with its `updated_at`. -/
structure StoredMemory where
  entry : MemoryEntry
  updatedAt : Datetime
  deriving DecidableEq

abbrev Row := Sigma fun _ : String × String => MemoryRecord

def readRow (dialect : Dialect) (row : Row) : Except Raised StoredMemory :=
  (toDomain row.1 row.2).map fun entry => ⟨entry, dialect.readBack row.2.updatedAt⟩

/-- What the database orders the rows by. SQLite compares the wall-clock fields. -/
def sortKey (dialect : Dialect) (row : Row) : Int :=
  match dialect with
  | .postgresql => row.2.updatedAt.instant
  | .sqlite => row.2.updatedAt.wall

/-- A result of the selection that `list_all` executes. Rows of one moment come in any
order. -/
def Selects (dialect : Dialect) (table : MemoryTable) (rows : List Row) : Prop :=
  rows.Perm table.entries ∧ rows.Pairwise fun a b => sortKey dialect b ≤ sortKey dialect a

instance decidableSelects (dialect : Dialect) (table : MemoryTable) (rows : List Row) :
    Decidable (Selects dialect table rows) := inferInstanceAs (Decidable (_ ∧ _))

/-- `list_all`, with the rows that the selection yields. -/
def listAll (dialect : Dialect) (outcome : AwaitOutcome) (rows : List Row) :
    Session (List StoredMemory) :=
  match outcome with
  | .interrupted error _ => throw error
  | .completed => liftExcept (rows.mapM (readRow dialect))

def delete (outcome : AwaitOutcome) (category : MemoryCategory) (key : String) :
    Session Bool := do
  match outcome with
  | .interrupted error false => throw error
  | outcome =>
      let rowcount := ((← get).lookup (category.value, key)).isSome
      modify fun table => table.erase (category.value, key)
      match outcome with
      | .interrupted error _ => throw error
      | .completed => return rowcount

end Repository

section Requests

def isKeyCharacter (c : Char) : Bool :=
  ('a' ≤ c && c ≤ 'z') || ('A' ≤ c && c ≤ 'Z') || ('0' ≤ c && c ≤ '9') ||
    c = '_' || c = '.' || c = '-'

structure MemoryUpsertRequest where
  category : MemoryCategory
  key : String
  value : String
  key_length : 1 ≤ key.length ∧ key.length ≤ 120
  key_pattern : key.toList.all isKeyCharacter = true
  value_length : 1 ≤ value.length ∧ value.length ≤ 4000

structure ChatRequest where
  message : String
  message_length : 1 ≤ message.length ∧ message.length ≤ 20000

inductive Request
  | listMemories
  | upsertMemory (request : MemoryUpsertRequest)
  | deleteMemory (category : MemoryCategory) (key : String)
  | chat (request : ChatRequest)

inductive Body
  | listMemories
  | upsertMemory (category key value : String)
  | deleteMemory (category key : String)
  | chat (message : String)

def categoryOf (value : String) : Option MemoryCategory :=
  MemoryCategory.all.find? fun category => category.value = value

/-- The checks of the schemas, and of the parameters in the path. -/
def Body.read : Body → Option Request
  | listMemories => some .listMemories
  | upsertMemory category key value =>
      match categoryOf category with
      | none => none
      | some category =>
          if hkey : 1 ≤ key.length ∧ key.length ≤ 120 then
            if hpattern : key.toList.all isKeyCharacter = true then
              if hvalue : 1 ≤ value.length ∧ value.length ≤ 4000 then
                some (.upsertMemory ⟨category, key, value, hkey, hpattern, hvalue⟩)
              else none
            else none
          else none
  | deleteMemory category key =>
      (categoryOf category).map fun category => .deleteMemory category key
  | chat message =>
      if h : 1 ≤ message.length ∧ message.length ≤ 20000 then some (.chat ⟨message, h⟩) else none

structure Incoming where
  credentials : Option HTTPAuthorizationCredentials
  body : Body

structure AIRequest where
  userMessage : String
  systemPrompt : String
  deriving DecidableEq

structure AIResponse where
  text : String
  provider : String
  model : String
  deriving DecidableEq

inductive Answer
  /-- 200 -/
  | listed (memories : List StoredMemory)
  | stored (memory : StoredMemory)
  | replied (response : AIResponse)
  /-- 204 -/
  | deleted
  /-- 404, from `memory_not_found_handler` -/
  | notFound (detail : String)
  /-- 401 or 503, from `require_owner` -/
  | refused (error : HTTPException)
  /-- 422 -/
  | unprocessable
  /-- An exception that no handler turns into an answer of its own. -/
  | failed (error : Raised)
  deriving DecidableEq

inductive Result
  | memories (memories : List StoredMemory)
  | memory (memory : StoredMemory)
  | rowcount (deleted : Bool)

inductive Stage
  /-- The statement of the request has not been executed yet. -/
  | executing (request : Request)
  | executed (request : Request) (result : Result)
  | completing (request : AIRequest)
  | finished (answer : Answer)

structure Call where
  incoming : Incoming
  stage : Stage

end Requests

/-- The application, as its settings and the platform have it. -/
structure Config where
  settings : Settings
  promptSettings : PromptSettings
  dialect : Dialect
  caseTables : CaseTables
  titleTables : TitleTables

variable (config : Config)

/-- A statement in flight is one whose call has ended with an exception before the database
said whether it was executed. -/
structure State where
  table : MemoryTable
  calls : Nat → Option Call
  inFlight : Nat → Option (Write (String × String) MemoryRecord)

namespace State

def initial (table : MemoryTable) : State := ⟨table, fun _ => none, fun _ => none⟩

def setStage (s : State) (x : Nat) (incoming : Incoming) (stage : Stage) : State :=
  { s with calls := fun y => if y = x then some ⟨incoming, stage⟩ else s.calls y }

end State

inductive Event
  /-- `provider.complete` -/
  | complete (x : Nat) (request : AIRequest)
  | answer (x : Nat) (answer : Answer)
  deriving DecidableEq

inductive Action
  | receive (x : Nat) (incoming : Incoming)
  /-- The database executes the statement of the call, and commits it. -/
  | execute (x : Nat) (attempt : Attempt) (rows : List Row)
  /-- It does so for a call that has ended. -/
  | land (x : Nat)
  /-- The call goes on with the result, the local time and the prompt file. -/
  | proceed (x : Nat) (formatted : String) (file : Except Raised String)
  | respond (x : Nat) (response : Except Raised AIResponse)
  | interrupt (x : Nat) (error : Raised)

def Action.call : Action → Nat
  | .receive x _ | .execute x _ _ | .land x | .proceed x _ _ | .respond x _ | .interrupt x _ => x

/-- Answers that do not tell of the table. -/
def Answer.silent : Answer → Prop
  | .failed _ | .replied _ => True
  | _ => False

def Answer.turnsAway : Answer → Prop
  | .refused _ | .unprocessable => True
  | _ => False

def Request.write (attempt : Attempt) : Request → Option (Write (String × String) MemoryRecord)
  | upsertMemory request =>
      some ⟨(request.category.value, request.key), some ⟨request.value, attempt.now⟩⟩
  | deleteMemory category key => some ⟨(category.value, key), none⟩
  | _ => none

def Request.reads : Request → Bool
  | listMemories | chat _ => true
  | _ => false

def runStatement (write : Write (String × String) MemoryRecord) (table : MemoryTable) :
    MemoryTable :=
  match write.value with
  | some record => table.insert write.key record
  | none => table.erase write.key

/-- What the services await of the repository. -/
def perform (attempt : Attempt) (rows : List Row) : Request → Session Result
  | .listMemories | .chat _ => do
      return .memories (← listAll config.dialect attempt.outcome rows)
  | .upsertMemory request => do
      let entry ← upsertMemory (dialectName config.dialect) attempt request.category
        request.key request.value
      return .memory ⟨entry, config.dialect.readBack attempt.now⟩
  | .deleteMemory category key => do
      return .rowcount (← delete attempt.outcome category key)

/-- The statement of an interrupted call that the database may still execute. -/
def unsettled (attempt : Attempt) (request : Request) :
    Option (Write (String × String) MemoryRecord) :=
  match attempt.outcome with
  | .interrupted _ false => request.write attempt
  | _ => none

def notFoundMessage (category : MemoryCategory) (key : String) : String :=
  "Memory '" ++ category.value ++ "/" ++ key ++ "' was not found."

def settle : Request → Result → Answer
  | .deleteMemory category key, .rowcount false => .notFound (notFoundMessage category key)
  | _, .rowcount _ => .deleted
  | _, .memory memory => .stored memory
  | _, .memories memories => .listed memories

def finish (s : State) (x : Nat) (incoming : Incoming) (answer : Answer) :
    State × List Event :=
  (s.setStage x incoming (.finished answer), [.answer x answer])

def step (s : State) : Action → Option (State × List Event)
  | .receive x incoming =>
      match s.calls x with
      | some _ => none
      | none =>
          match requireOwner config.caseTables config.settings incoming.credentials with
          | .error error => some (finish s x incoming (.refused error))
          | .ok () =>
              match incoming.body.read with
              | none => some (finish s x incoming .unprocessable)
              | some request => some (s.setStage x incoming (.executing request), [])
  | .execute x attempt rows =>
      match s.calls x with
      | some ⟨incoming, .executing request⟩ =>
          if request.reads → Selects config.dialect s.table rows then
            match (perform config attempt rows request).run.run s.table with
            | (.ok result, table) =>
                some ({ s with table := table }.setStage x incoming (.executed request result), [])
            | (.error error, table) =>
                let inFlight := fun y =>
                  if y = x then unsettled attempt request else s.inFlight y
                some (finish { s with table := table, inFlight := inFlight } x incoming
                  (.failed error))
          else none
      | _ => none
  | .land x =>
      match s.inFlight x with
      | none => none
      | some write =>
          let inFlight := fun y => if y = x then none else s.inFlight y
          some ({ s with table := runStatement write s.table, inFlight := inFlight }, [])
  | .proceed x formatted file =>
      match s.calls x with
      | some ⟨incoming, .executed (.chat request) (.memories memories)⟩ =>
          match file with
          | .error error => some (finish s x incoming (.failed error))
          | .ok text =>
              let prompt := build config.titleTables config.promptSettings
                (memories.map StoredMemory.entry) formatted text
              let asked : AIRequest := ⟨request.message, prompt⟩
              some (s.setStage x incoming (.completing asked), [.complete x asked])
      | some ⟨incoming, .executed request result⟩ =>
          some (finish s x incoming (settle request result))
      | _ => none
  | .respond x response =>
      match s.calls x with
      | some ⟨incoming, .completing _⟩ =>
          match response with
          | .ok response => some (finish s x incoming (.replied response))
          | .error error => some (finish s x incoming (.failed error))
      | _ => none
  | .interrupt x error =>
      match s.calls x with
      | some ⟨incoming, .executed _ _⟩ | some ⟨incoming, .completing _⟩ =>
          some (finish s x incoming (.failed error))
      | _ => none

def ownerApi (table : MemoryTable) : System State Action Event where
  start := .initial table
  step := step config

section Statements

/-- Whether the database has executed the statement when the await ends. -/
def applied : AwaitOutcome → Bool
  | .completed => true
  | .interrupted _ applied => applied

/-- The listing holds the entries of the table, each once, the latest ones first. -/
structure Lists (dialect : Dialect) (m : String × String → Option MemoryRecord)
    (memories : List StoredMemory) : Prop where
  mem_iff : ∀ memory, memory ∈ memories ↔
    ∃ record, m (memory.entry.category.value, memory.entry.key) = some record ∧
      memory.entry.value = record.value ∧ memory.updatedAt = dialect.readBack record.updatedAt
  nodup : (memories.map fun memory => (memory.entry.category, memory.entry.key)).Nodup
  ordered : memories.Pairwise fun a b => b.updatedAt.wall ≤ a.updatedAt.wall

/-- What a request yields on its own, and what it writes, when it finds the given entries. -/
inductive Yields (dialect : Dialect) (m : String × String → Option MemoryRecord) :
    Request → Option (Write (String × String) MemoryRecord) → Result → Prop
  | listMemories {memories : List StoredMemory} :
      Lists dialect m memories → Yields dialect m .listMemories none (.memories memories)
  | chat {request : ChatRequest} {memories : List StoredMemory} :
      Lists dialect m memories → Yields dialect m (.chat request) none (.memories memories)
  | upsertMemory (request : MemoryUpsertRequest) (now : AwareDatetime) :
      Yields dialect m (.upsertMemory request)
        (some ⟨(request.category.value, request.key), some ⟨request.value, now⟩⟩)
        (.memory ⟨⟨request.category, request.key, request.value⟩, dialect.readBack now⟩)
  | deleteMemory (category : MemoryCategory) (key : String) :
      Yields dialect m (.deleteMemory category key) (some ⟨(category.value, key), none⟩)
        (.rowcount (m (category.value, key)).isSome)

theorem lookup_runStatement (write : Write (String × String) MemoryRecord)
    (table : MemoryTable) : (runStatement write table).lookup = write.apply table.lookup := by
  funext k
  obtain ⟨key, value⟩ := write
  cases value with
  | none => exact Dict.lookup_erase_eq table k key
  | some record => exact Dict.lookup_insert_eq table k key record

theorem toDomain_eq_ok {key : String × String} {record : MemoryRecord} {entry : MemoryEntry} :
    toDomain key record = .ok entry ↔
      key = (entry.category.value, entry.key) ∧ record.value = entry.value := by
  obtain ⟨category, name, value⟩ := entry
  constructor
  · intro h
    unfold toDomain at h
    split at h
    · rename_i found hfound
      obtain ⟨rfl, rfl, rfl⟩ := MemoryEntry.mk.inj (Except.ok.inj h)
      have hvalue := List.find?_some hfound
      exact ⟨Prod.ext (of_decide_eq_true hvalue).symm rfl, rfl⟩
    · cases h
  · rintro ⟨rfl, rfl⟩
    exact toDomain_value category name record

theorem readRow_eq_ok {dialect : Dialect} {row : Row} {memory : StoredMemory} :
    readRow dialect row = .ok memory ↔
      row.1 = (memory.entry.category.value, memory.entry.key) ∧
        memory.entry.value = row.2.value ∧ memory.updatedAt = dialect.readBack row.2.updatedAt := by
  obtain ⟨entry, updatedAt⟩ := memory
  unfold readRow
  cases hentry : toDomain row.1 row.2 with
  | error error =>
      constructor
      · intro h
        cases h
      · rintro ⟨hkey, hvalue, -⟩
        rw [toDomain_eq_ok.mpr ⟨hkey, hvalue.symm⟩] at hentry
        cases hentry
  | ok read =>
      obtain ⟨hkey, hvalue⟩ := toDomain_eq_ok.mp hentry
      constructor
      · intro h
        obtain ⟨rfl, rfl⟩ := StoredMemory.mk.inj (Except.ok.inj h)
        exact ⟨hkey, hvalue.symm, rfl⟩
      · rintro ⟨hkey', hvalue', rfl⟩
        rw [toDomain_eq_ok.mpr ⟨hkey', hvalue'.symm⟩] at hentry
        obtain rfl := Except.ok.inj hentry
        rfl

theorem wall_readBack (dialect : Dialect) (row : Row) :
    (dialect.readBack row.2.updatedAt).wall = sortKey dialect row := by
  cases dialect <;> rfl

/-- The entries that the rows read as have the keys of the rows, in their order. -/
theorem keys_of_mapM {dialect : Dialect} {rows : List Row} {memories : List StoredMemory}
    (h : rows.mapM (readRow dialect) = .ok memories) :
    (memories.map fun memory => (memory.entry.category.value, memory.entry.key)) =
      rows.map Sigma.fst ∧
    memories.map (fun memory => memory.updatedAt.wall) = rows.map (sortKey dialect) := by
  induction rows generalizing memories with
  | nil =>
      obtain rfl : [] = memories := Except.ok.inj h
      exact ⟨rfl, rfl⟩
  | cons row rows ih =>
      obtain ⟨memory, rest, hrow, hrest, rfl⟩ := Foundation.Grouping.mapM_cons_eq_ok.mp h
      obtain ⟨hkey, -, hupdated⟩ := readRow_eq_ok.mp hrow
      obtain ⟨hkeys, hwalls⟩ := ih hrest
      refine ⟨?_, ?_⟩
      · rw [List.map_cons, List.map_cons, hkeys, hkey]
      · rw [List.map_cons, List.map_cons, hwalls, hupdated, wall_readBack]

theorem mem_of_row {dialect : Dialect} {rows : List Row} {memories : List StoredMemory}
    (h : rows.mapM (readRow dialect) = .ok memories) {row : Row} (hrow : row ∈ rows) :
    ∃ memory ∈ memories, readRow dialect row = .ok memory := by
  induction rows generalizing memories with
  | nil => cases hrow
  | cons first rows ih =>
      obtain ⟨memory, rest, hfirst, hrest, rfl⟩ := Foundation.Grouping.mapM_cons_eq_ok.mp h
      rcases List.mem_cons.mp hrow with rfl | hrow
      · exact ⟨memory, List.mem_cons_self, hfirst⟩
      · obtain ⟨other, hother, hread⟩ := ih hrest hrow
        exact ⟨other, List.mem_cons_of_mem _ hother, hread⟩

theorem lists_of_selects {dialect : Dialect} {table : MemoryTable} {rows : List Row}
    {memories : List StoredMemory} (hselects : Selects dialect table rows)
    (h : rows.mapM (readRow dialect) = .ok memories) :
    Lists dialect table.lookup memories := by
  obtain ⟨hperm, hsorted⟩ := hselects
  obtain ⟨hkeys, hwalls⟩ := keys_of_mapM h
  have hlookup : ∀ row : Row, row ∈ rows ↔ table.lookup row.1 = some row.2 := by
    intro row
    rw [Dict.lookup_eq_some_iff, hperm.mem_iff]
  refine ⟨?_, ?_, ?_⟩
  · intro memory
    constructor
    · intro hmemory
      obtain ⟨row, hrow, hread⟩ := Foundation.Grouping.mem_of_mapM h hmemory
      obtain ⟨hkey, hvalue, hupdated⟩ := readRow_eq_ok.mp hread
      rw [← hkey]
      exact ⟨row.2, (hlookup row).mp hrow, hvalue, hupdated⟩
    · rintro ⟨record, hrecord, hvalue, hupdated⟩
      obtain ⟨other, hother, hread⟩ := mem_of_row h ((hlookup ⟨_, record⟩).mpr hrecord)
      rw [readRow_eq_ok.mpr ⟨rfl, hvalue, hupdated⟩] at hread
      rwa [Except.ok.inj hread]
  · have hnodup : (rows.map Sigma.fst).Nodup :=
      (hperm.map Sigma.fst).nodup_iff.mpr table.nodupKeys
    rw [← hkeys] at hnodup
    have hmap : (memories.map fun memory => (memory.entry.category.value, memory.entry.key)) =
        (memories.map fun memory => (memory.entry.category, memory.entry.key)).map
          fun pair => (pair.1.value, pair.2) := by
      rw [List.map_map]
      rfl
    rw [hmap] at hnodup
    exact hnodup.of_map _
  · have hpairs : (rows.map (sortKey dialect)).Pairwise fun a b => b ≤ a :=
      List.pairwise_map.mpr hsorted
    rw [← hwalls] at hpairs
    exact List.pairwise_map.mp hpairs

theorem run_listAll (dialect : Dialect) (outcome : AwaitOutcome) (rows : List Row)
    (table : MemoryTable) :
    ((do return Result.memories (← listAll dialect outcome rows)) : Session Result).run.run table =
      match outcome with
      | .interrupted error _ => (.error error, table)
      | .completed => ((rows.mapM (readRow dialect)).map Result.memories, table) := by
  cases outcome with
  | interrupted error applied => rfl
  | completed =>
      unfold listAll
      cases rows.mapM (readRow dialect) with
      | error error => rfl
      | ok memories => rfl

theorem run_delete (outcome : AwaitOutcome) (category : MemoryCategory) (key : String)
    (table : MemoryTable) :
    ((do return Result.rowcount (← delete outcome category key)) : Session Result).run.run table =
      match outcome with
      | .interrupted error applied =>
          (.error error, if applied then table.erase (category.value, key) else table)
      | .completed =>
          (.ok (.rowcount (table.lookup (category.value, key)).isSome),
            table.erase (category.value, key)) := by
  cases outcome with
  | completed => rfl
  | interrupted error applied => cases applied <;> rfl

theorem run_upsert (config : Config) (attempt : Attempt) (rows : List Row)
    (request : MemoryUpsertRequest) (table : MemoryTable) :
    (perform config attempt rows (.upsertMemory request)).run.run table =
      match attempt.outcome with
      | .interrupted error applied =>
          (.error error,
            if applied then
              table.insert (request.category.value, request.key) ⟨request.value, attempt.now⟩
            else table)
      | .completed =>
          (.ok (.memory ⟨⟨request.category, request.key, request.value⟩,
            config.dialect.readBack attempt.now⟩),
            table.insert (request.category.value, request.key) ⟨request.value, attempt.now⟩) := by
  have hrun := run_upsertMemory config.dialect attempt request.category request.key request.value
    table
  simp only [perform, ExceptT.run_bind, StateT.run_bind]
  rw [hrun]
  cases attempt.outcome with
  | completed => rfl
  | interrupted error applied => rfl

variable {config}

theorem listAll_spec {outcome : AwaitOutcome} {dialect : Dialect} {rows : List Row}
    {table table' : MemoryTable} {ending : Except Raised Result}
    (hselects : Selects dialect table rows)
    (h : ((do return Result.memories (← listAll dialect outcome rows)) :
      Session Result).run.run table = (ending, table')) :
    table' = table ∧ ∀ result, ending = .ok result → outcome = .completed ∧
      ∃ memories, result = .memories memories ∧ Lists dialect table.lookup memories := by
  rw [run_listAll] at h
  cases outcome with
  | interrupted error applied =>
      obtain ⟨rfl, rfl⟩ := Prod.mk.inj h
      exact ⟨rfl, fun result hresult => by cases hresult⟩
  | completed =>
      obtain ⟨rfl, rfl⟩ := Prod.mk.inj h
      refine ⟨rfl, ?_⟩
      intro result hresult
      cases hrows : rows.mapM (readRow dialect) with
      | error error =>
          rw [hrows] at hresult
          cases hresult
      | ok memories =>
          rw [hrows] at hresult
          obtain rfl := Except.ok.inj hresult
          exact ⟨rfl, memories, rfl, lists_of_selects hselects hrows⟩

theorem perform_spec {attempt : Attempt} {rows : List Row} {request : Request}
    {table table' : MemoryTable} {ending : Except Raised Result}
    (hselects : request.reads → Selects config.dialect table rows)
    (h : (perform config attempt rows request).run.run table = (ending, table')) :
    table'.lookup =
      (match if applied attempt.outcome then request.write attempt else none with
        | some write => write.apply table.lookup
        | none => table.lookup) ∧
    ∀ result, ending = .ok result → attempt.outcome = .completed ∧
      Yields config.dialect table.lookup request (request.write attempt) result := by
  cases request with
  | listMemories =>
      obtain ⟨rfl, hresult⟩ := listAll_spec (hselects rfl) h
      refine ⟨by simp [Request.write], ?_⟩
      intro result hok
      obtain ⟨hcompleted, memories, rfl, hlists⟩ := hresult result hok
      exact ⟨hcompleted, .listMemories hlists⟩
  | chat request =>
      obtain ⟨rfl, hresult⟩ := listAll_spec (hselects rfl) h
      refine ⟨by simp [Request.write], ?_⟩
      intro result hok
      obtain ⟨hcompleted, memories, rfl, hlists⟩ := hresult result hok
      exact ⟨hcompleted, .chat hlists⟩
  | upsertMemory request =>
      rw [run_upsert] at h
      have hinsert := lookup_runStatement
        ⟨(request.category.value, request.key), some ⟨request.value, attempt.now⟩⟩ table
      cases houtcome : attempt.outcome with
      | completed =>
          rw [houtcome] at h
          obtain ⟨rfl, rfl⟩ := Prod.mk.inj h
          refine ⟨hinsert, ?_⟩
          rintro result hresult
          obtain rfl := Except.ok.inj hresult
          exact ⟨rfl, .upsertMemory request attempt.now⟩
      | interrupted error applied =>
          rw [houtcome] at h
          obtain ⟨rfl, rfl⟩ := Prod.mk.inj h
          refine ⟨?_, fun result hresult => by cases hresult⟩
          cases applied with
          | false => rfl
          | true => exact hinsert
  | deleteMemory category key =>
      have hrun := (run_delete attempt.outcome category key table).symm.trans h
      have herase := lookup_runStatement ⟨(category.value, key), none⟩ table
      cases houtcome : attempt.outcome with
      | completed =>
          rw [houtcome] at hrun
          obtain ⟨rfl, rfl⟩ := Prod.mk.inj hrun
          refine ⟨herase, ?_⟩
          rintro result hresult
          obtain rfl := Except.ok.inj hresult
          exact ⟨rfl, .deleteMemory category key⟩
      | interrupted error applied =>
          rw [houtcome] at hrun
          obtain ⟨rfl, rfl⟩ := Prod.mk.inj hrun
          refine ⟨?_, fun result hresult => by cases hresult⟩
          cases applied with
          | false => rfl
          | true => exact herase

end Statements

end JarvisCore.Assistant.OwnerApi
