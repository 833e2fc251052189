import JarvisCore.Assistant.MemoryRepository
import JarvisCore.Domain.Documents
import JarvisCore.Foundation.Overlays
import JarvisCore.Protocol.Json

namespace JarvisCore.Scripts.ImportLegacyMemory

open JarvisCore.Assistant.MemoryRepository
open JarvisCore.Assistant.PromptBuilder
open JarvisCore.Domain.Documents
open JarvisCore.Domain.Errors
open JarvisCore.Domain.Values
open JarvisCore.Foundation.Dictionary
open JarvisCore.Foundation.Overlays
open JarvisCore.Foundation.Schema.Fields (lookup_eq_some_iff_mem)
open JarvisCore.Foundation.Text
open JarvisCore.Pairing.Backends (AwaitOutcome)
open JarvisCore.Protocol.Json (isNull)
open JarvisCore.Security.DeviceTables (Dialect)

section Program

variable (tables : ReprTables) (dialect : String) (attempts : Nat → Attempt)

/-- The body of the inner loop. `attempts n` is what the upsert with number `n` meets. -/
def importItem (category : MemoryCategory) (imported : Nat) (item : String × JsonValue) :
    Session Nat := do
  let value :=
    match item.2 with
    | .object fields => (fields.lookup "value").getD .null
    | raw => raw
  if isNull value ∨ strip (str tables value) = "" then
    return imported
  let _ ← upsertMemory dialect (attempts imported) category item.1 (str tables value)
  return imported + 1

/-- The body of the outer loop. -/
def importCategory (data : List (String × JsonValue)) (imported : Nat)
    (category : MemoryCategory) : Session Nat :=
  match (data.lookup category.value).getD (.object []) with
  | .object values => values.foldlM (importItem tables dialect attempts category) imported
  | _ => return imported

def importData (data : List (String × JsonValue)) : Session Nat :=
  MemoryCategory.all.foldlM (importCategory tables dialect attempts data) 0

end Program

section Exports

variable (tables : ReprTables)

/-- What an item of a category contributes: a nested object its field `value`. -/
def contributed : JsonValue → JsonValue
  | .object fields => (fields.lookup "value").getD .null
  | raw => raw

/-- The text that is stored for an item. Null and blank values are skipped. -/
def itemText (raw : JsonValue) : Option String :=
  if isNull (contributed raw) ∨ strip (str tables (contributed raw)) = "" then none
  else some (str tables (contributed raw))

/-- The value that the export has for a category and a key. -/
def exported (data : JsonObject) (entry : String × String) : Option String :=
  if entry.1 ∈ MemoryCategory.all.map MemoryCategory.value then
    match data.val.lookup entry.1 with
    | some (.object values) => (values.lookup entry.2).bind (itemText tables)
    | _ => none
  else none

/-- The items of a category, of which there are none when its value is not an object. -/
def itemsOf (data : List (String × JsonValue)) (category : MemoryCategory) :
    List (String × JsonValue) :=
  match data.lookup category.value with
  | some (.object values) => values
  | _ => []

def itemEntry (category : MemoryCategory) (item : String × JsonValue) : Option MemoryEntry :=
  (itemText tables item.2).map fun text => ⟨category, item.1, text⟩

/-- The entries that a complete run writes, in their order. -/
def entries (data : List (String × JsonValue)) : List MemoryEntry :=
  MemoryCategory.all.flatMap fun category =>
    (itemsOf data category).filterMap (itemEntry tables category)

def write (entry : MemoryEntry) : (String × String) × String :=
  ((entry.category.value, entry.key), entry.value)

end Exports

section Entries

variable {tables : ReprTables}

theorem mem_itemsOf {data : JsonObject} {category : MemoryCategory} {item : String × JsonValue} :
    item ∈ itemsOf data.val category ↔
      ∃ values, data.val.lookup category.value = some (.object values) ∧ item ∈ values := by
  rw [itemsOf]
  cases data.val.lookup category.value with
  | none => simp
  | some value => cases value <;> simp

theorem nodup_of_lookup {data : JsonObject} {column : String} {values : List (String × JsonValue)}
    (hvalues : data.val.lookup column = some (.object values)) :
    (values.map Prod.fst).Nodup := by
  have hmem := (lookup_eq_some_iff_mem (nodup_of_distinctFields data.property)).mp hvalues
  have hdistinct := distinct_of_mem data.property hmem
  rw [distinct] at hdistinct
  exact nodup_of_distinctFields hdistinct

theorem nodup_itemsOf (data : JsonObject) (category : MemoryCategory) :
    ((itemsOf data.val category).map Prod.fst).Nodup := by
  rw [itemsOf]
  split
  · rename_i values hvalues
    exact nodup_of_lookup hvalues
  · exact List.nodup_nil

theorem write_itemEntry {category : MemoryCategory} {item : String × JsonValue}
    {entry : MemoryEntry} (h : itemEntry tables category item = some entry) :
    itemText tables item.2 = some entry.value ∧ entry.category = category ∧ entry.key = item.1 := by
  obtain ⟨text, htext, rfl⟩ := Option.map_eq_some_iff.mp h
  exact ⟨htext, rfl, rfl⟩

theorem keys_entries_sublist (category : MemoryCategory) (items : List (String × JsonValue)) :
    ((items.filterMap (itemEntry tables category)).map fun e => (write e).1).Sublist
      (items.map fun item => (category.value, item.1)) := by
  induction items with
  | nil => exact List.Sublist.refl _
  | cons item rest ih =>
      rw [List.map_cons]
      cases hentry : itemEntry tables category item with
      | none =>
          rw [List.filterMap_cons_none hentry]
          exact ih.cons _
      | some entry =>
          obtain ⟨-, rfl, hkey⟩ := write_itemEntry hentry
          rw [List.filterMap_cons_some hentry, List.map_cons, write, hkey]
          exact ih.cons_cons _

theorem keys_entries (data : List (String × JsonValue)) :
    ((entries tables data).map write).map Prod.fst =
      MemoryCategory.all.flatMap fun category =>
        ((itemsOf data category).filterMap (itemEntry tables category)).map
          fun e => (write e).1 := by
  rw [entries, List.map_map, List.map_flatMap]
  rfl

theorem fst_of_mem_keys {category : MemoryCategory} {items : List (String × JsonValue)}
    {key : String × String}
    (h : key ∈ (items.filterMap (itemEntry tables category)).map fun e => (write e).1) :
    key.1 = category.value := by
  obtain ⟨item, -, rfl⟩ := List.mem_map.mp ((keys_entries_sublist category items).subset h)
  rfl

theorem nodup_keys (data : JsonObject) :
    (((entries tables data.val).map write).map Prod.fst).Nodup := by
  rw [keys_entries, List.nodup_flatMap]
  refine ⟨fun category _ => ?_, ?_⟩
  · refine (keys_entries_sublist category _).nodup ?_
    have hkeys := nodup_itemsOf data category
    have hpairs := hkeys.map (Prod.mk_right_injective category.value)
    rwa [List.map_map] at hpairs
  · refine MemoryCategory.nodup_all.imp fun {c d} hne => ?_
    intro key hc hd
    apply hne
    exact MemoryCategory.value_injective ((fst_of_mem_keys hc).symm.trans (fst_of_mem_keys hd))

theorem mem_entries {data : JsonObject} {e : MemoryEntry} :
    e ∈ entries tables data.val ↔
      ∃ values raw, data.val.lookup e.category.value = some (.object values) ∧
        (e.key, raw) ∈ values ∧ itemText tables raw = some e.value := by
  rw [entries, List.mem_flatMap]
  constructor
  · rintro ⟨category, -, he⟩
    obtain ⟨item, hitem, hentry⟩ := List.mem_filterMap.mp he
    obtain ⟨htext, rfl, hkey⟩ := write_itemEntry hentry
    obtain ⟨values, hvalues, hmem⟩ := mem_itemsOf.mp hitem
    exact ⟨values, item.2, hvalues, hkey ▸ hmem, htext⟩
  · rintro ⟨values, raw, hvalues, hmem, htext⟩
    refine ⟨e.category, MemoryCategory.mem_all e.category, List.mem_filterMap.mpr ?_⟩
    refine ⟨(e.key, raw), mem_itemsOf.mpr ⟨values, hvalues, hmem⟩, ?_⟩
    rw [itemEntry, htext]
    rfl

theorem exported_eq_some_iff {data : JsonObject} {entry : String × String} {text : String} :
    exported tables data entry = some text ↔
      ∃ e ∈ entries tables data.val, write e = (entry, text) := by
  obtain ⟨column, key⟩ := entry
  rw [exported]
  constructor
  · intro h
    split at h
    · rename_i hknown
      obtain ⟨category, -, rfl⟩ := List.mem_map.mp hknown
      split at h
      · rename_i values hvalues
        obtain ⟨raw, hraw, htext⟩ := Option.bind_eq_some_iff.mp h
        have hmem := (lookup_eq_some_iff_mem (nodup_of_lookup hvalues)).mp hraw
        exact ⟨⟨category, key, text⟩, mem_entries.mpr ⟨values, raw, hvalues, hmem, htext⟩, rfl⟩
      · cases h
    · cases h
  · rintro ⟨e, he, hwrite⟩
    obtain ⟨values, raw, hvalues, hmem, htext⟩ := mem_entries.mp he
    obtain ⟨hentry, rfl⟩ := Prod.mk.inj hwrite
    obtain ⟨rfl, rfl⟩ := Prod.mk.inj hentry
    have hraw := (lookup_eq_some_iff_mem (nodup_of_lookup hvalues)).mpr hmem
    rw [if_pos (List.mem_map_of_mem (MemoryCategory.mem_all e.category)), hvalues]
    simp only [hraw, Option.bind_some, htext]

theorem written_entries (data : JsonObject) :
    written ((entries tables data.val).map write) = exported tables data := by
  funext entry
  apply Option.ext
  intro text
  rw [written_eq_some_iff (nodup_keys data), List.mem_map, exported_eq_some_iff]

end Entries

section Loops

variable (tables : ReprTables) (dialect : String) (attempts : Nat → Attempt)

def writeEntry (imported : Nat) (entry : MemoryEntry) : Session Nat := do
  let _ ← upsertMemory dialect (attempts imported) entry.category entry.key entry.value
  return imported + 1

theorem importItem_eq (category : MemoryCategory) (imported : Nat) (item : String × JsonValue) :
    importItem tables dialect attempts category imported item =
      match itemEntry tables category item with
      | some entry => writeEntry dialect attempts imported entry
      | none => pure imported := by
  obtain ⟨key, raw⟩ := item
  have hvalue : (match raw with
      | .object fields => (fields.lookup "value").getD .null
      | raw => raw) = contributed raw := by
    cases raw <;> rfl
  simp only [importItem, hvalue, itemEntry, itemText]
  split
  · rfl
  · rfl

theorem importCategory_eq (data : List (String × JsonValue)) (imported : Nat)
    (category : MemoryCategory) :
    importCategory tables dialect attempts data imported category =
      ((itemsOf data category).filterMap (itemEntry tables category)).foldlM
        (writeEntry dialect attempts) imported := by
  have hitems : importCategory tables dialect attempts data imported category =
      (itemsOf data category).foldlM (importItem tables dialect attempts category) imported := by
    rw [importCategory, itemsOf]
    cases data.lookup category.value with
    | none => rfl
    | some value => cases value <;> rfl
  rw [hitems, List.foldlM_filterMap]
  congr 1
  funext imported item
  rw [importItem_eq]
  cases itemEntry tables category item <;> rfl

theorem importData_eq (data : List (String × JsonValue)) :
    importData tables dialect attempts data =
      (entries tables data).foldlM (writeEntry dialect attempts) 0 := by
  rw [importData, entries]
  generalize (0 : Nat) = imported
  induction MemoryCategory.all generalizing imported with
  | nil => rfl
  | cons category rest ih =>
      rw [List.foldlM_cons, List.flatMap_cons, List.foldlM_append, importCategory_eq]
      congr 1
      funext imported
      exact ih imported

end Loops

section Runs

variable (dialect : Dialect) (attempts : Nat → Attempt)

def afterUpsert (table : MemoryTable) (entry : MemoryEntry) (now : AwareDatetime) : MemoryTable :=
  table.insert (write entry).1 ⟨entry.value, now⟩

theorem run_writeEntry (imported : Nat) (entry : MemoryEntry) (table : MemoryTable) :
    (writeEntry (dialectName dialect) attempts imported entry).run.run table =
      match (attempts imported).outcome with
      | .completed => (.ok (imported + 1), afterUpsert table entry (attempts imported).now)
      | .interrupted error applied =>
          (.error error,
            if applied then afterUpsert table entry (attempts imported).now else table) := by
  simp only [writeEntry, ExceptT.run_bind, StateT.run_bind, run_upsertMemory]
  cases (attempts imported).outcome with
  | completed => rfl
  | interrupted error applied => rfl

theorem run_cons_of_completed {imported : Nat} {e : MemoryEntry} {rest : List MemoryEntry}
    {table : MemoryTable} (hcompleted : (attempts imported).outcome = .completed) :
    ((e :: rest).foldlM (writeEntry (dialectName dialect) attempts) imported).run.run table =
      (rest.foldlM (writeEntry (dialectName dialect) attempts) (imported + 1)).run.run
        (afterUpsert table e (attempts imported).now) := by
  rw [List.foldlM_cons, ExceptT.run_bind, StateT.run_bind, run_writeEntry, hcompleted]
  rfl

theorem run_cons_of_interrupted {imported : Nat} {e : MemoryEntry} {rest : List MemoryEntry}
    {table : MemoryTable} {error : Raised} {applied : Bool}
    (hinterrupted : (attempts imported).outcome = .interrupted error applied) :
    ((e :: rest).foldlM (writeEntry (dialectName dialect) attempts) imported).run.run table =
      (.error error, if applied then afterUpsert table e (attempts imported).now else table) := by
  rw [List.foldlM_cons, ExceptT.run_bind, StateT.run_bind, run_writeEntry, hinterrupted]
  rfl

/-- The run is complete: no upsert is interrupted, and the database refuses none. -/
def Completes (attempts : Nat → Attempt) : Prop := ∀ n, (attempts n).outcome = .completed

variable {attempts}

theorem lookup_afterUpsert_of_ne {table : MemoryTable} {e : MemoryEntry} {now : AwareDatetime}
    {entry : String × String} (hne : entry ≠ (write e).1) :
    (afterUpsert table e now).lookup entry = table.lookup entry := by
  rw [afterUpsert, Dict.lookup_insert_eq, if_neg hne]

theorem lookup_run_of_notMem {es : List MemoryEntry} (imported : Nat) (table : MemoryTable)
    {entry : String × String} (hentry : entry ∉ (es.map write).map Prod.fst) :
    ((es.foldlM (writeEntry (dialectName dialect) attempts) imported).run.run table).2.lookup
      entry = table.lookup entry := by
  induction es generalizing imported table with
  | nil => rfl
  | cons e rest ih =>
      rw [List.map_cons, List.map_cons, List.mem_cons, not_or] at hentry
      cases houtcome : (attempts imported).outcome with
      | completed =>
          rw [run_cons_of_completed dialect attempts houtcome, ih _ _ hentry.2]
          exact lookup_afterUpsert_of_ne hentry.1
      | interrupted error applied =>
          rw [run_cons_of_interrupted dialect attempts houtcome]
          cases applied with
          | false => rfl
          | true => exact lookup_afterUpsert_of_ne hentry.1

theorem contents_run_of_completes (hcompletes : Completes attempts) (es : List MemoryEntry)
    (imported : Nat) (table : MemoryTable) :
    ∃ t, (es.foldlM (writeEntry (dialectName dialect) attempts) imported).run.run table =
        (.ok (imported + es.length), t) ∧
      contents t = overlay (contents table) (written (es.map write)) := by
  induction es generalizing imported table with
  | nil => exact ⟨table, rfl, rfl⟩
  | cons e rest ih =>
      obtain ⟨t, hrun, ht⟩ := ih (imported + 1) (afterUpsert table e (attempts imported).now)
      refine ⟨t, ?_, ?_⟩
      · rw [run_cons_of_completed dialect attempts (hcompletes imported), hrun,
          List.length_cons, Nat.add_right_comm, Nat.add_assoc]
      · rw [ht, List.map_cons, afterUpsert, contents_insert]
        exact (overlay_written_cons ..).symm

end Runs

section Convergence

variable (tables : ReprTables) (dialect : Dialect)

/-- The table after some runs, each of which may have been interrupted anywhere. -/
def rerun (data : List (String × JsonValue)) (table : MemoryTable) :
    List (Nat → Attempt) → MemoryTable
  | [] => table
  | attempts :: rest =>
      rerun data ((importData tables (dialectName dialect) attempts data).run.run table).2 rest

variable {tables} {dialect}

theorem lookup_importData_of_none {data : JsonObject} (attempts : Nat → Attempt)
    (table : MemoryTable) {entry : String × String} (hentry : exported tables data entry = none) :
    ((importData tables (dialectName dialect) attempts data.val).run.run table).2.lookup entry =
      table.lookup entry := by
  rw [importData_eq]
  apply lookup_run_of_notMem
  rwa [← written_eq_none_iff, written_entries]

theorem lookup_rerun_of_none {data : JsonObject} (earlier : List (Nat → Attempt))
    (table : MemoryTable) {entry : String × String} (hentry : exported tables data entry = none) :
    (rerun tables dialect data.val table earlier).lookup entry = table.lookup entry := by
  induction earlier generalizing table with
  | nil => rfl
  | cons attempts rest ih =>
      rw [rerun, ih]
      exact lookup_importData_of_none attempts table hentry

theorem importData_of_completes {data : JsonObject} {attempts : Nat → Attempt}
    (hcompletes : Completes attempts) (table : MemoryTable) :
    ∃ t, (importData tables (dialectName dialect) attempts data.val).run.run table =
        (.ok (entries tables data.val).length, t) ∧
      contents t = overlay (contents table) (exported tables data) := by
  obtain ⟨t, hrun, ht⟩ :=
    contents_run_of_completes dialect hcompletes (entries tables data.val) 0 table
  rw [Nat.zero_add] at hrun
  rw [written_entries] at ht
  exact ⟨t, by rw [importData_eq, hrun], ht⟩

theorem legacy_import_converges (tables : ReprTables) (dialect : Dialect) (data : JsonObject)
    (table : MemoryTable) (attempts : Nat → Attempt) (hcompletes : Completes attempts) :
    ∃ imported t,
      (importData tables (dialectName dialect) attempts data.val).run.run table =
        (.ok imported, t) ∧
      contents t = overlay (contents table) (exported tables data) ∧
      (∀ entry, exported tables data entry = none → t.lookup entry = table.lookup entry) ∧
      (imported : ℕ∞) = {entry | exported tables data entry ≠ none}.encard ∧
      ∀ earlier again, Completes again → ∃ t',
        (importData tables (dialectName dialect) again data.val).run.run
          (rerun tables dialect data.val table earlier) = (.ok imported, t') ∧
        contents t' = contents t := by
  obtain ⟨t, hrun, ht⟩ := importData_of_completes hcompletes table
  refine ⟨_, t, hrun, ht, ?_, ?_, ?_⟩
  · intro entry hentry
    rw [← lookup_importData_of_none attempts table hentry, hrun]
  · rw [← written_entries, ← length_eq_encard_written (nodup_keys data), List.length_map]
  · intro earlier again hagain
    obtain ⟨t', hrun', ht'⟩ :=
      importData_of_completes hagain (rerun tables dialect data.val table earlier)
    refine ⟨t', hrun', ?_⟩
    rw [ht', ht]
    refine overlay_congr fun entry hentry => ?_
    rw [contents, contents, lookup_rerun_of_none earlier table hentry]

end Convergence

section Samples

def sampleTables : ReprTables := ⟨fun c => c.toNat < 0x7F, fun _ _ => "0.0"⟩

def sampleExport : JsonObject :=
  ⟨[("identity", .object [("age", .int 42), ("empty", .string "  "), ("missing", .null)]),
    ("preferences", .object [("favorite_editor", .object [("value", .string "PyCharm")]),
      ("shell", .string "PowerShell")]),
    ("notes", .array [.string "not a key/value object"]),
    ("unknown_category", .object [("ignored", .string "value")])], by decide⟩

def sampleTable : MemoryTable :=
  (AList.insert ("identity", "age") ⟨"41", ⟨0, 0⟩⟩ ∅).insert ("notes", "pet") ⟨"a cat", ⟨0, 0⟩⟩

def sampleAttempts (n : Nat) : Attempt := ⟨⟨n, 0⟩, .completed⟩

/-- The second upsert is cancelled while it commits. -/
def sampleInterrupted (n : Nat) : Attempt :=
  ⟨⟨n, 0⟩, if n = 1 then .interrupted .cancelled true else .completed⟩

theorem legacy_import_converges_sample :
    ∃ t, (importData sampleTables (dialectName .sqlite) sampleAttempts sampleExport.val).run.run
        sampleTable = (.ok 3, t) ∧
      contents t ("identity", "age") = some "42" ∧ contents t ("notes", "pet") = some "a cat" ∧
      ∃ t', (importData sampleTables (dialectName .sqlite) sampleAttempts sampleExport.val).run.run
          (rerun sampleTables .sqlite sampleExport.val sampleTable [sampleInterrupted]) =
          (.ok 3, t') ∧
        contents t' = contents t := by
  obtain ⟨imported, t, hrun, ht, -, -, hagain⟩ := legacy_import_converges sampleTables .sqlite
    sampleExport sampleTable sampleAttempts (fun _ => rfl)
  have himported : ((importData sampleTables (dialectName .sqlite) sampleAttempts
      sampleExport.val).run.run sampleTable).1.toOption = some 3 := by
    decide +kernel
  rw [hrun] at himported
  obtain rfl : imported = 3 := Option.some.inj himported
  refine ⟨t, hrun, ?_, ?_, hagain [sampleInterrupted] sampleAttempts fun _ => rfl⟩
  · rw [ht]
    decide +kernel
  · rw [ht]
    decide +kernel

end Samples

end JarvisCore.Scripts.ImportLegacyMemory
