import JarvisCore.Foundation.Grouping
import JarvisCore.Foundation.Text

namespace JarvisCore.Assistant.PromptBuilder

open JarvisCore.Foundation.Dictionary
open JarvisCore.Foundation.Grouping
open JarvisCore.Foundation.Text

inductive MemoryCategory
  | identity
  | preferences
  | projects
  | relationships
  | wishes
  | notes
  deriving DecidableEq, Repr

namespace MemoryCategory

def value : MemoryCategory → String
  | identity => "identity"
  | preferences => "preferences"
  | projects => "projects"
  | relationships => "relationships"
  | wishes => "wishes"
  | notes => "notes"

def all : List MemoryCategory := [identity, preferences, projects, relationships, wishes, notes]

theorem value_injective : Function.Injective value := by
  intro c d h
  cases c <;> cases d <;> first | rfl | exact absurd h (by decide)

theorem nodup_all : all.Nodup := by decide

theorem mem_all (c : MemoryCategory) : c ∈ all := by
  cases c <;> decide

end MemoryCategory

structure MemoryEntry where
  category : MemoryCategory
  key : String
  value : String
  deriving DecidableEq, Repr

def categoryTitles : List (MemoryCategory × String) :=
  [(.preferences, "Preferences"),
    (.projects, "Active Projects / Goals"),
    (.relationships, "People in their life"),
    (.wishes, "Wishes / Plans / Wants"),
    (.notes, "Other notes")]

def header : String := "[RELEVANT USER MEMORY — use naturally, never recite like a database]"

variable (tables : TitleTables)

def label (key : String) : String := title tables (strip (replaceChar '_' ' ' key))

def identityLine (entry : MemoryEntry) : String := label tables entry.key ++ ": " ++ entry.value

def entryLine (entry : MemoryEntry) : String :=
  "- " ++ label tables entry.key ++ ": " ++ entry.value

def grouped (memories : List MemoryEntry) : Dict MemoryCategory (List MemoryEntry) :=
  groupBy MemoryEntry.category memories

/-- What the loop over the titles adds for one of them. -/
def categorySection (groups : Dict MemoryCategory (List MemoryEntry))
    (item : MemoryCategory × String) : List String :=
  match group groups item.1 with
  | [] => []
  | entries => ["", item.2 ++ ":"] ++ entries.map (entryLine tables)

def memoryLines (memories : List MemoryEntry) : List String :=
  [header] ++ (group (grouped memories) .identity).map (identityLine tables) ++
    categoryTitles.flatMap (categorySection tables (grouped memories))

def memoryContext (memories : List MemoryEntry) : String :=
  if memories.isEmpty then "" else "\n".intercalate (memoryLines tables memories)

/-- The fields of `Settings` that the prompt names. -/
structure PromptSettings where
  assistantName : String
  userName : String

/-- `_time_context`, with what `strftime` makes of the time. -/
def timeContext (formatted : String) : String :=
  "[CURRENT DATE & TIME]\n" ++
    "Right now it is: " ++ formatted ++ "\n" ++
    "Treat this as runtime context; do not guess dates when a tool can provide exact data."

def identityContext (settings : PromptSettings) : String :=
  let userLine :=
    if settings.userName ≠ "" then
      "Address the user as '" ++ settings.userName ++ "' when natural."
    else "Use a natural form of address appropriate to the user's language."
  "[IDENTITY]\n" ++ "Your name is " ++ settings.assistantName ++ ".\n" ++ userLine

/-- What `build` joins of its parts: the stripped ones that are not blank. -/
def kept (parts : List String) : List String :=
  (parts.filter fun part => strip part ≠ "").map strip

/-- `build`, with the formatted time and the text of the file of the base prompt. -/
def build (settings : PromptSettings) (memories : List MemoryEntry) (formatted file : String) :
    String :=
  let context := memoryContext tables memories
  let parts := [timeContext formatted, identityContext settings] ++
    (if context ≠ "" then [context] else []) ++ [strip file]
  "\n\n".intercalate (kept parts)

/-- What a line of the context is there for. -/
inductive PromptLine
  | header
  | identity (entry : MemoryEntry)
  | blank
  | heading (title : String)
  | bullet (entry : MemoryEntry)

namespace PromptLine

def text : PromptLine → String
  | header => PromptBuilder.header
  | identity entry => identityLine tables entry
  | blank => ""
  | heading title => title ++ ":"
  | bullet entry => entryLine tables entry

def entry? : PromptLine → Option MemoryEntry
  | identity entry => some entry
  | bullet entry => some entry
  | _ => none

def heading? : PromptLine → Option String
  | heading title => some title
  | _ => none

end PromptLine

def ofCategory (memories : List MemoryEntry) (category : MemoryCategory) : List MemoryEntry :=
  memories.filter fun entry => entry.category = category

/-- The blank line, the heading and the entries of a category, if it has any. -/
def sectionLayout (memories : List MemoryEntry) (item : MemoryCategory × String) :
    List PromptLine :=
  match ofCategory memories item.1 with
  | [] => []
  | entries => [.blank, .heading item.2] ++ entries.map .bullet

/-- The lines that the context is to have. -/
def layout (memories : List MemoryEntry) : List PromptLine :=
  [.header] ++ (ofCategory memories .identity).map .identity ++
    categoryTitles.flatMap (sectionLayout memories)

theorem group_grouped (memories : List MemoryEntry) (category : MemoryCategory) :
    group (grouped memories) category = ofCategory memories category :=
  group_groupBy MemoryEntry.category memories category

theorem categorySection_eq (memories : List MemoryEntry) (item : MemoryCategory × String) :
    categorySection tables (grouped memories) item =
      (sectionLayout memories item).map (PromptLine.text tables) := by
  unfold categorySection sectionLayout
  rw [group_grouped]
  cases ofCategory memories item.1 with
  | nil => rfl
  | cons entry rest => simp [PromptLine.text]

theorem memoryLines_eq (memories : List MemoryEntry) :
    memoryLines tables memories = (layout memories).map (PromptLine.text tables) := by
  have hsections : categoryTitles.flatMap (categorySection tables (grouped memories)) =
      (categoryTitles.flatMap (sectionLayout memories)).map (PromptLine.text tables) := by
    rw [List.map_flatMap]
    exact congrArg categoryTitles.flatMap (funext (categorySection_eq tables memories))
  have hidentity : (ofCategory memories .identity).map (identityLine tables) =
      ((ofCategory memories .identity).map PromptLine.identity).map (PromptLine.text tables) := by
    rw [List.map_map]
    rfl
  unfold memoryLines layout
  rw [hsections, group_grouped, hidentity, List.map_append, List.map_append]
  rfl

theorem entries_bullets (entries : List MemoryEntry) :
    (entries.map PromptLine.bullet).filterMap PromptLine.entry? = entries := by
  rw [List.filterMap_map]
  exact List.filterMap_some

theorem headings_bullets (entries : List MemoryEntry) :
    (entries.map PromptLine.bullet).filterMap PromptLine.heading? = [] := by
  rw [List.filterMap_map, List.filterMap_eq_nil_iff]
  intro entry _
  rfl

theorem filterMap_entry_section (memories : List MemoryEntry) (item : MemoryCategory × String) :
    (sectionLayout memories item).filterMap PromptLine.entry? = ofCategory memories item.1 := by
  unfold sectionLayout
  cases ofCategory memories item.1 with
  | nil => rfl
  | cons entry rest => exact entries_bullets (entry :: rest)

/-- Every category has its place: the first one before the titles, each other under one. -/
theorem categories_covered (category : MemoryCategory) :
    category ∈ MemoryCategory.identity :: categoryTitles.map Prod.fst := by
  cases category <;> decide

theorem entries_layout (memories : List MemoryEntry) :
    ((layout memories).filterMap PromptLine.entry?).Perm memories := by
  have hentries : (layout memories).filterMap PromptLine.entry? =
      (MemoryCategory.identity :: categoryTitles.map Prod.fst).flatMap (ofCategory memories) := by
    have hsections : (categoryTitles.flatMap (sectionLayout memories)).filterMap
        PromptLine.entry? = (categoryTitles.map Prod.fst).flatMap (ofCategory memories) := by
      rw [List.filterMap_flatMap, List.flatMap_map]
      exact congrArg categoryTitles.flatMap (funext (filterMap_entry_section memories))
    unfold layout
    rw [List.filterMap_append, List.filterMap_append, hsections, List.flatMap_cons]
    simp [PromptLine.entry?, Function.comp_def]
  rw [hentries]
  exact flatMap_filter_perm MemoryEntry.category (by decide) memories
    fun entry _ => categories_covered entry.category

theorem filterMap_heading_section (memories : List MemoryEntry) (item : MemoryCategory × String) :
    (sectionLayout memories item).filterMap PromptLine.heading? =
      if ofCategory memories item.1 = [] then [] else [item.2] := by
  unfold sectionLayout
  cases ofCategory memories item.1 with
  | nil => rfl
  | cons entry rest => exact congrArg (item.2 :: ·) (headings_bullets (entry :: rest))

theorem headings_layout (memories : List MemoryEntry) :
    (layout memories).filterMap PromptLine.heading? =
      (categoryTitles.filter fun item => ofCategory memories item.1 ≠ []).map Prod.snd := by
  have hsections : ∀ items : List (MemoryCategory × String),
      (items.flatMap (sectionLayout memories)).filterMap PromptLine.heading? =
        (items.filter fun item => ofCategory memories item.1 ≠ []).map Prod.snd := by
    intro items
    induction items with
    | nil => rfl
    | cons item rest ih =>
        rw [List.flatMap_cons, List.filterMap_append, ih, filterMap_heading_section]
        by_cases hempty : ofCategory memories item.1 = []
        · simp [hempty]
        · simp [hempty]
  unfold layout
  rw [List.filterMap_append, List.filterMap_append, hsections]
  simp [PromptLine.heading?, Function.comp_def]

theorem layout_congr {memories reordered : List MemoryEntry}
    (h : ∀ category, ofCategory memories category = ofCategory reordered category) :
    layout memories = layout reordered := by
  have hsections : sectionLayout memories = sectionLayout reordered := by
    funext item
    unfold sectionLayout
    rw [h item.1]
  unfold layout
  rw [hsections, h .identity]

/-- The context of a list with an entry is its layout, which holds every entry once
under the heading of its category and does not depend on how categories interleave. -/
theorem memories_reach_prompt (memories : List MemoryEntry) :
    memoryContext tables [] = "" ∧
    (memories ≠ [] →
      memoryContext tables memories = "\n".intercalate (memoryLines tables memories)) ∧
    memoryLines tables memories = (layout memories).map (PromptLine.text tables) ∧
    ((layout memories).filterMap PromptLine.entry?).Perm memories ∧
    (layout memories).filterMap PromptLine.heading? =
      (categoryTitles.filter fun item => ofCategory memories item.1 ≠ []).map Prod.snd ∧
    ∀ reordered, Relation.ReflTransGen (Swapped MemoryEntry.category) memories reordered →
      memoryContext tables reordered = memoryContext tables memories := by
  refine ⟨rfl, ?_, memoryLines_eq tables memories, entries_layout memories,
    headings_layout memories, ?_⟩
  · intro hne
    have hfilled : ¬ memories.isEmpty = true := fun h => hne (List.isEmpty_iff.mp h)
    unfold memoryContext
    rw [if_neg hfilled]
  · intro reordered hswaps
    have hsame : layout memories = layout reordered :=
      layout_congr (filter_eq_of_swaps MemoryEntry.category hswaps)
    have hperm : memories.Perm reordered :=
      (entries_layout memories).symm.trans (hsame ▸ entries_layout reordered)
    have hempty : memories.isEmpty = reordered.isEmpty := hperm.isEmpty_eq
    unfold memoryContext
    rw [memoryLines_eq, memoryLines_eq, hsame, hempty]

theorem strip_ne_empty {text : String} {c : Char} (htext : text.toList.head? = some c)
    (hc : isSpace c = false) : strip text ≠ "" := by
  intro hempty
  obtain ⟨rest, hrest⟩ := List.head?_eq_some_iff.mp htext
  have hfront : (c :: rest).dropWhile isSpace = c :: rest := by
    rw [List.dropWhile_cons, hc]
    rfl
  have hchars : (strip text).toList = (c :: rest).rdropWhile isSpace := by
    rw [strip, String.toList_ofList, stripList, hrest, hfront]
  rw [hempty] at hchars
  have hspace := List.rdropWhile_eq_nil_iff.mp hchars.symm c List.mem_cons_self
  rw [hc] at hspace
  cases hspace

theorem head_append {front : String} {c : Char} (rest : String)
    (h : front.toList.head? = some c) : (front ++ rest).toList.head? = some c := by
  rw [String.toList_append, List.head?_append, h, Option.some_or]

theorem head_timeContext (formatted : String) :
    (timeContext formatted).toList.head? = some '[' := by
  unfold timeContext
  apply head_append
  apply head_append
  apply head_append
  apply head_append
  decide

theorem head_identityContext (settings : PromptSettings) :
    (identityContext settings).toList.head? = some '[' := by
  unfold identityContext
  apply head_append
  apply head_append
  apply head_append
  apply head_append
  decide

theorem head_memoryContext {memories : List MemoryEntry} (hne : memories ≠ []) :
    (memoryContext tables memories).toList.head? = some '[' := by
  have hfilled : ¬ memories.isEmpty = true := fun h => hne (List.isEmpty_iff.mp h)
  have hheader : header.toList.head? = some '[' := by decide
  unfold memoryContext
  rw [if_neg hfilled, memoryLines, List.append_assoc, List.singleton_append]
  cases (group (grouped memories) .identity).map (identityLine tables) ++
      categoryTitles.flatMap (categorySection tables (grouped memories)) with
  | nil =>
      rw [String.intercalate_singleton]
      exact hheader
  | cons line rest =>
      rw [String.intercalate_cons_cons]
      apply head_append
      apply head_append
      exact hheader

@[simp] theorem kept_nil : kept [] = [] := rfl

theorem kept_append (parts others : List String) :
    kept (parts ++ others) = kept parts ++ kept others := by
  rw [kept, List.filter_append, List.map_append]
  rfl

theorem kept_singleton (part : String) :
    kept [part] = if strip part = "" then [] else [strip part] := by
  unfold kept
  split
  · rename_i hblank
    simp [hblank]
  · rename_i hfilled
    simp [hfilled]

theorem kept_cons {part : String} {c : Char} (hhead : part.toList.head? = some c)
    (hc : isSpace c = false) (others : List String) :
    kept (part :: others) = strip part :: kept others := by
  have hsingle := kept_append [part] others
  rw [kept_singleton, if_neg (strip_ne_empty hhead hc)] at hsingle
  exact hsingle

theorem kept_memoryContext (memories : List MemoryEntry) :
    kept (if memoryContext tables memories ≠ "" then [memoryContext tables memories] else []) =
      if memories = [] then [] else [strip (memoryContext tables memories)] := by
  by_cases hempty : memories = []
  · subst hempty
    rfl
  · have hhead := head_memoryContext tables hempty
    have hfilled : memoryContext tables memories ≠ "" := by
      intro h
      rw [h] at hhead
      cases hhead
    rw [if_pos hfilled, if_neg hempty, kept_cons hhead (by decide)]
    rfl

/-- The parts of the prompt. The memories have one exactly when there are any. -/
theorem build_eq (settings : PromptSettings) (memories : List MemoryEntry)
    (formatted file : String) :
    build tables settings memories formatted file =
      "\n\n".intercalate
        ([strip (timeContext formatted), strip (identityContext settings)] ++
          (if memories = [] then [] else [strip (memoryContext tables memories)]) ++
          (if strip file = "" then [] else [strip file])) := by
  unfold build
  dsimp only
  rw [kept_append, kept_append, kept_cons (head_timeContext formatted) (by decide),
    kept_cons (head_identityContext settings) (by decide), kept_memoryContext, kept_singleton,
    strip_strip, kept_nil]

section Samples

/-- Every character keeps its case. -/
def sampleTables : TitleTables where
  isCased := Char.isAlpha
  titleCase c := [c]
  lowerCase _ c _ := [c]

def sampleNote : MemoryEntry := ⟨.notes, "desk_lamp", "broken"⟩

def sampleName : MemoryEntry := ⟨.identity, "name", "Sam"⟩

theorem memories_reach_prompt_two :
    memoryContext sampleTables [sampleNote, sampleName] =
      "\n".intercalate (memoryLines sampleTables [sampleNote, sampleName]) ∧
    memoryContext sampleTables [sampleName, sampleNote] =
      memoryContext sampleTables [sampleNote, sampleName] := by
  have hall := memories_reach_prompt sampleTables [sampleNote, sampleName]
  have hswap : Swapped MemoryEntry.category [sampleNote, sampleName] [sampleName, sampleNote] :=
    ⟨[], sampleNote, sampleName, [], by decide, rfl, rfl⟩
  exact ⟨hall.2.1 (by decide), hall.2.2.2.2.2 _ (.single hswap)⟩

/-- Without memories there is no header either. -/
theorem empty_without_header :
    memoryContext sampleTables [] = "" ∧
      (layout []).map (PromptLine.text sampleTables) = [header] ∧
      memoryContext sampleTables [] ≠
        "\n".intercalate ((layout []).map (PromptLine.text sampleTables)) := by
  refine ⟨rfl, rfl, ?_⟩
  intro h
  exact absurd (congrArg String.length h) (by decide)

end Samples

end JarvisCore.Assistant.PromptBuilder
