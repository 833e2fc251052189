import JarvisCore.Assistant.Linearization

namespace JarvisCore.Assistant.Chats

open JarvisCore.Assistant.Linearization
open JarvisCore.Assistant.MemoryRepository
open JarvisCore.Assistant.OwnerApi
open JarvisCore.Assistant.PromptBuilder
open JarvisCore.Domain.Errors
open JarvisCore.Foundation.Text
open JarvisCore.Foundation.TransitionSystem

variable {config : Config} {first : MemoryTable} {history : List Step} {s t : State} {x : Nat}

def Asks (x : Nat) (asked : AIRequest) (u : Step) : Prop := .complete x asked ∈ u.events

theorem proceeds_of_asks {a : Action} {events : List Event} {asked : AIRequest}
    (h : step config s a = some (t, events)) (hasked : .complete x asked ∈ events) :
    ∃ formatted file, a = .proceed x formatted file := by
  cases a with
  | proceed y formatted file =>
      obtain ⟨incoming, request, result, -, hends⟩ := proceed_cases h
      rcases hends with ⟨_, _, _, asked', -, -, -, -, -, rfl⟩ | ⟨answer, -, hfinish⟩
      · obtain ⟨rfl, -⟩ := Event.complete.inj (List.mem_singleton.mp hasked)
        exact ⟨formatted, file, rfl⟩
      · obtain ⟨-, rfl⟩ := Prod.mk.inj hfinish
        cases List.mem_singleton.mp hasked
  | receive y incoming =>
      simp only [step] at h
      split at h
      · cases h
      split at h
      · obtain ⟨-, rfl⟩ := Prod.mk.inj (Option.some.inj h)
        cases List.mem_singleton.mp hasked
      split at h
      · obtain ⟨-, rfl⟩ := Prod.mk.inj (Option.some.inj h)
        cases List.mem_singleton.mp hasked
      · obtain ⟨-, rfl⟩ := Prod.mk.inj (Option.some.inj h)
        cases hasked
  | execute y attempt rows =>
      simp only [step] at h
      split at h
      · split at h
        · split at h
          · obtain ⟨-, rfl⟩ := Prod.mk.inj (Option.some.inj h)
            cases hasked
          · obtain ⟨-, rfl⟩ := Prod.mk.inj (Option.some.inj h)
            cases List.mem_singleton.mp hasked
        · cases h
      · cases h
  | land y =>
      simp only [step] at h
      split at h
      · cases h
      · obtain ⟨-, rfl⟩ := Prod.mk.inj (Option.some.inj h)
        cases hasked
  | respond y response =>
      obtain ⟨_, _, _, -, -, -, hfinish⟩ := respond_cases h
      obtain ⟨-, rfl⟩ := Prod.mk.inj hfinish
      cases List.mem_singleton.mp hasked
  | interrupt y error =>
      obtain ⟨_, _, _, -, -, -, hfinish⟩ := interrupt_cases h
      obtain ⟨-, rfl⟩ := Prod.mk.inj hfinish
      cases List.mem_singleton.mp hasked

/-- The prompt for the memories, which has each of them in the line that is there for it. -/
def promptOf (config : Config) (memories : List MemoryEntry) (formatted file : String) : String :=
  let context := (layout memories).map (PromptLine.text config.titleTables)
  "\n\n".intercalate
    ([strip (timeContext formatted), strip (identityContext config.promptSettings)] ++
      (if memories = [] then [] else [strip ("\n".intercalate context)]) ++
      (if strip file = "" then [] else [strip file]))

theorem build_eq_promptOf (config : Config) (memories : List MemoryEntry)
    (formatted file : String) :
    build config.titleTables config.promptSettings memories formatted file =
      promptOf config memories formatted file := by
  have hcontext : memories ≠ [] → memoryContext config.titleTables memories =
      "\n".intercalate ((layout memories).map (PromptLine.text config.titleTables)) := by
    intro hne
    have hfilled : ¬ memories.isEmpty = true := fun h => hne (List.isEmpty_iff.mp h)
    unfold memoryContext
    rw [if_neg hfilled, memoryLines_eq]
  rw [build_eq, promptOf]
  by_cases hempty : memories = []
  · rw [if_pos hempty, if_pos hempty]
  · rw [if_neg hempty, if_neg hempty, hcontext hempty]

variable (config first) in
/-- The provider gets the message, and the memories of one moment since the request came in:
all of them, once each. -/
def Carries (x : Nat) (asked : AIRequest) (history : List Step) : Prop :=
  ∃ request memories formatted file,
    Executed config first x (.chat request) (.memories memories) history ∧
    asked.userMessage = request.message ∧
    asked.systemPrompt = promptOf config (memories.map StoredMemory.entry) formatted file ∧
    ((layout (memories.map StoredMemory.entry)).filterMap PromptLine.entry?).Perm
      (memories.map StoredMemory.entry)

theorem carries_of_asks {a : Action} {events : List Event} {asked : AIRequest}
    (hinv : Inv config first history s) (h : step config s a = some (t, events))
    (hasked : .complete x asked ∈ events) :
    Carries config first x asked history ∧ ∃ incoming, t.calls x =
      some ⟨incoming, .completing asked⟩ := by
  obtain ⟨formatted, file, rfl⟩ := proceeds_of_asks h hasked
  obtain ⟨incoming, request, result, hcall, hends⟩ := proceed_cases h
  have hcalls := hinv.calls x
  rw [hcall] at hcalls
  rcases hends with ⟨chat, memories, text, asked', rfl, rfl, -, hbuilt, htarget, rfl⟩ |
    ⟨answer, -, hfinish⟩
  · obtain ⟨-, rfl⟩ := Event.complete.inj (List.mem_singleton.mp hasked)
    refine ⟨⟨chat, memories, formatted, text, hcalls.2, ?_, ?_, entries_layout _⟩, incoming, ?_⟩
    · rw [hbuilt]
    · rw [hbuilt, ← build_eq_promptOf]
    · rw [htarget, setStage_calls_self]
  · obtain ⟨-, rfl⟩ := Prod.mk.inj hfinish
    cases List.mem_singleton.mp hasked

def RepliedAs (x : Nat) (response : AIResponse) (history : List Step) : Prop :=
  ∃ later u middle v earlier asked, history = later ++ u :: (middle ++ v :: earlier) ∧
    u.action = .respond x (.ok response) ∧ Asks x asked v

/-- Where the provider stands with a call. -/
inductive Consulted (x : Nat) (history : List Step) : Option Call → Prop
  | unasked {call : Option Call} (h : ∀ u ∈ history, ∀ asked, ¬ Asks x asked u)
      (hreply : ∀ incoming response, call ≠ some ⟨incoming, .finished (.replied response)⟩)
      (hwaits : ∀ incoming asked, call ≠ some ⟨incoming, .completing asked⟩) :
      Consulted x history call
  | waiting {u : Step} {incoming : Incoming} {asked : AIRequest} (hu : u ∈ history)
      (h : Asks x asked u) : Consulted x history (some ⟨incoming, .completing asked⟩)
  | failed {incoming : Incoming} {error : Raised} :
      Consulted x history (some ⟨incoming, .finished (.failed error)⟩)
  | replied {incoming : Incoming} {response : AIResponse} (h : RepliedAs x response history) :
      Consulted x history (some ⟨incoming, .finished (.replied response)⟩)

theorem Consulted.cons {u : Step} {call : Option Call} (h : Consulted x history call)
    (hu : ∀ asked, ¬ Asks x asked u) : Consulted x (u :: history) call := by
  cases h with
  | unasked h hreply hwaits => exact .unasked (List.forall_mem_cons.mpr ⟨hu, h⟩) hreply hwaits
  | waiting hv h => exact .waiting (List.mem_cons_of_mem u hv) h
  | failed => exact .failed
  | replied h =>
      obtain ⟨later, v, middle, w, earlier, asked, rfl, hv⟩ := h
      exact .replied ⟨u :: later, v, middle, w, earlier, asked, rfl, hv⟩

/-- A call that has neither asked nor replied stays so at a stage that does neither. -/
theorem Consulted.stays {u : Step} {call : Option Call} {incoming : Incoming} {stage : Stage}
    (h : Consulted x history call) (hu : ∀ asked, ¬ Asks x asked u)
    (hcall : call = none ∨ ∃ incoming request, call = some ⟨incoming, .executing request⟩ ∨
      ∃ result, call = some ⟨incoming, .executed request result⟩)
    (hreply : ∀ response, stage ≠ .finished (.replied response))
    (hwaits : ∀ asked, stage ≠ .completing asked) :
    Consulted x (u :: history) (some ⟨incoming, stage⟩) := by
  have hnone : ∀ v ∈ history, ∀ asked, ¬ Asks x asked v := by
    cases h with
    | unasked h => exact h
    | waiting => simp at hcall
    | failed => simp at hcall
    | replied => simp at hcall
  refine .unasked (List.forall_mem_cons.mpr ⟨hu, hnone⟩) ?_ ?_
  · rintro incoming' response hsame
    exact hreply response (Call.mk.inj (Option.some.inj hsame)).2
  · rintro incoming' asked hsame
    exact hwaits asked (Call.mk.inj (Option.some.inj hsame)).2

theorem settle_ne_replied (request : Request) (result : Result) (response : AIResponse) :
    settle request result ≠ .replied response := by
  intro h
  unfold settle at h
  split at h <;> cases h

theorem Consulted.own {a : Action} {events : List Event}
    (hinv : Inv config first history s) (hconsulted : Consulted a.call history (s.calls a.call))
    (h : step config s a = some (t, events)) :
    Consulted a.call (⟨s, a, events, t⟩ :: history) (t.calls a.call) := by
  have hquiet : (∀ y formatted file, a ≠ .proceed y formatted file) →
      ∀ asked, ¬ Asks a.call asked ⟨s, a, events, t⟩ := by
    intro hne asked hasked
    obtain ⟨formatted, file, haction⟩ := proceeds_of_asks h hasked
    exact hne _ _ _ haction
  cases a with
  | receive x incoming =>
      obtain ⟨hnone, hends⟩ := receive_cases h
      have hquiet := hquiet (by simp)
      rw [Action.call] at hconsulted hquiet ⊢
      rcases hends with ⟨answer, haway, hfinish⟩ | ⟨request, -, -, rfl⟩
      · obtain ⟨rfl, -⟩ := Prod.mk.inj hfinish
        rw [setStage_calls_self]
        apply hconsulted.stays hquiet (.inl hnone)
        · rintro response hsame
          rw [Stage.finished.inj hsame] at haway
          exact haway
        · simp
      · rw [setStage_calls_self]
        exact hconsulted.stays hquiet (.inl hnone) (by simp) (by simp)
  | execute x attempt rows =>
      obtain ⟨incoming, request, ending, table, hcall, -, -, hends⟩ := execute_cases h
      have hquiet := hquiet (by simp)
      rw [Action.call] at hconsulted hquiet ⊢
      rcases hends with ⟨result, -, rfl⟩ | ⟨error, -, rfl⟩
      · rw [setStage_calls_self]
        exact hconsulted.stays hquiet (.inr ⟨incoming, request, .inl hcall⟩) (by simp) (by simp)
      · rw [setStage_calls_self]
        exact .failed
  | land x =>
      have hquiet := hquiet (by simp)
      obtain ⟨write, -, rfl⟩ := land_cases h
      exact hconsulted.cons hquiet
  | proceed x formatted file =>
      obtain ⟨incoming, request, result, hcall, hends⟩ := proceed_cases h
      rw [Action.call] at hconsulted ⊢
      rcases hends with ⟨chat, memories, text, asked, -, -, -, -, rfl, rfl⟩ |
        ⟨answer, hanswer, hfinish⟩
      · rw [setStage_calls_self]
        exact .waiting List.mem_cons_self (List.mem_singleton.mpr rfl)
      · obtain ⟨rfl, rfl⟩ := Prod.mk.inj hfinish
        rw [setStage_calls_self]
        rcases hanswer with ⟨error, rfl⟩ | rfl
        · exact .failed
        · apply hconsulted.stays _ (.inr ⟨incoming, request, .inr ⟨result, hcall⟩⟩)
          · intro response hsame
            exact settle_ne_replied request result response (Stage.finished.inj hsame)
          · simp
          · intro asked hasked
            cases List.mem_singleton.mp hasked
  | respond x response =>
      have hquiet := hquiet (by simp)
      rw [Action.call] at hconsulted hquiet ⊢
      simp only [step] at h
      split at h
      · rename_i incoming asked hcall
        rw [hcall] at hconsulted
        split at h
        · rename_i response
          obtain ⟨rfl, -⟩ := Prod.mk.inj (Option.some.inj h)
          cases hconsulted with
          | unasked _ _ hwaits => exact absurd rfl (hwaits incoming asked)
          | waiting hv hasks =>
              obtain ⟨middle, earlier, rfl⟩ := List.append_of_mem hv
              rw [setStage_calls_self]
              exact .replied ⟨[], _, middle, _, earlier, _, rfl, rfl, hasks⟩
        · obtain ⟨rfl, -⟩ := Prod.mk.inj (Option.some.inj h)
          rw [setStage_calls_self]
          exact .failed
      · cases h
  | interrupt x error =>
      rw [Action.call]
      simp only [step] at h
      split at h
      · obtain ⟨rfl, -⟩ := Prod.mk.inj (Option.some.inj h)
        rw [setStage_calls_self]
        exact .failed
      · obtain ⟨rfl, -⟩ := Prod.mk.inj (Option.some.inj h)
        rw [setStage_calls_self]
        exact .failed
      · cases h

theorem consulted_of_run (hrun : Run (ownerApi config first) (.initial first) history s) :
    Consulted x history (s.calls x) := by
  induction hrun with
  | nil =>
      exact .unasked (List.forall_mem_nil _) (by simp [State.initial]) (by simp [State.initial])
  | @step history s a events t hprev h ih =>
      by_cases hx : x = a.call
      · subst hx
        exact Consulted.own (inv_of_run hprev) ih h
      · rw [(step_frame hx h).1]
        apply ih.cons
        intro asked hasked
        obtain ⟨formatted, file, rfl⟩ := proceeds_of_asks h hasked
        exact hx rfl

/-- A chat gets the memories of one moment into its prompt, asks the provider once, and
replies what the provider answered to that. -/
theorem chats_carry_the_memories
    (hrun : Run (ownerApi config first) (.initial first) history s) :
    (∀ later u earlier x asked, history = later ++ u :: earlier → Asks x asked u →
      Carries config first x asked earlier) ∧
    (∀ x, history.Pairwise fun u v => ¬ ((∃ asked, Asks x asked u) ∧ ∃ asked, Asks x asked v)) ∧
    ∀ x incoming response, s.calls x = some ⟨incoming, .finished (.replied response)⟩ →
      RepliedAs x response history := by
  refine ⟨?_, ?_, ?_⟩
  · rintro later u earlier x asked rfl hasks
    obtain ⟨hearlier, hfired, -⟩ := hrun.split
    exact (carries_of_asks (inv_of_run hearlier) hfired hasks).1
  · intro x
    induction hrun with
    | nil => exact List.Pairwise.nil
    | @step history s a events t hprev h ih =>
        refine List.pairwise_cons.mpr ⟨?_, ih⟩
        rintro v hv ⟨⟨asked, hasks⟩, asked', hasks'⟩
        obtain ⟨formatted, file, rfl⟩ := proceeds_of_asks h hasks
        obtain ⟨incoming, request, result, hcall, -⟩ := proceed_cases h
        have hconsulted := consulted_of_run (x := x) hprev
        rw [hcall] at hconsulted
        cases hconsulted with
        | unasked hnone => exact hnone v hv asked' hasks'
  · intro x incoming response hcall
    have hconsulted := consulted_of_run (x := x) hrun
    rw [hcall] at hconsulted
    cases hconsulted with
    | unasked _ hreply => exact absurd rfl (hreply incoming response)
    | replied h => exact h

section Samples

/-- A memory is stored while a chat waits for its listing. -/
def sampleChat : List Action :=
  [.receive 0 ⟨sampleOwner, .chat "Hello"⟩, samplePut 1 "repaired",
    .execute 1 ⟨⟨10, 0⟩, .completed⟩ [],
    .execute 0 ⟨⟨20, 0⟩, .completed⟩ [⟨("notes", "desk_lamp"), ⟨"repaired", ⟨10, 0⟩⟩⟩],
    .proceed 0 "Monday" (.ok "Be brief. "), .respond 0 (.ok ⟨"Good day", "gemini", "flash"⟩)]

def samplePrompt : String :=
  "[CURRENT DATE & TIME]\nRight now it is: Monday\n" ++
    "Treat this as runtime context; do not guess dates when a tool can provide exact data.\n\n" ++
    "[IDENTITY]\nYour name is JARVIS.\nAddress the user as 'Sam' when natural.\n\n" ++
    "[RELEVANT USER MEMORY — use naturally, never recite like a database]\n\n" ++
    "Other notes:\n- desk lamp: repaired\n\nBe brief."

def sampleAsked : AIRequest := ⟨"Hello", samplePrompt⟩

theorem chats_carry_the_memories_stored :
    ∃ history s, Run (ownerApi sampleApi ∅) (.initial ∅) history s ∧
      (∃ later u earlier, history = later ++ u :: earlier ∧ Asks 0 sampleAsked u ∧
        Carries sampleApi ∅ 0 sampleAsked earlier) ∧
      RepliedAs 0 ⟨"Good day", "gemini", "flash"⟩ history := by
  obtain ⟨history, s, hrun, htest⟩ := exists_run_of_replay (S := ownerApi sampleApi ∅)
    (s := .initial ∅) sampleChat (fun history s =>
      (history.any fun u => .complete 0 sampleAsked ∈ u.events) ∧
        sampleAnswer s 0 = some (.replied ⟨"Good day", "gemini", "flash"⟩)) (by decide +kernel)
  obtain ⟨hasks, hanswer⟩ := of_decide_eq_true htest
  obtain ⟨hcarries, -, hreplies⟩ := chats_carry_the_memories hrun
  refine ⟨history, s, hrun, ?_, ?_⟩
  · obtain ⟨u, hu, hasks⟩ := List.any_eq_true.mp hasks
    have hasks : Event.complete 0 sampleAsked ∈ u.events := of_decide_eq_true hasks
    obtain ⟨later, earlier, hhistory⟩ := List.append_of_mem hu
    exact ⟨later, u, earlier, hhistory, hasks, hcarries later u earlier 0 _ hhistory hasks⟩
  · unfold sampleAnswer at hanswer
    split at hanswer
    · rename_i incoming answer hcall
      rw [Option.some.inj hanswer] at hcall
      exact hreplies 0 incoming _ hcall
    · cases hanswer

end Samples

end JarvisCore.Assistant.Chats
