import JarvisCore.Assistant.OwnerApi

namespace JarvisCore.Assistant.Linearization

open JarvisCore.Assistant.MemoryRepository
open JarvisCore.Assistant.OwnerApi
open JarvisCore.Assistant.PromptBuilder
open JarvisCore.Configuration.TrustDomains
open JarvisCore.Domain.Errors
open JarvisCore.Domain.Values
open JarvisCore.Foundation.Dictionary
open JarvisCore.Foundation.LastWrites
open JarvisCore.Foundation.TransitionSystem
open JarvisCore.Pairing.Backends (AwaitOutcome)

variable (config : Config)

section Steps

variable {config} {s t : State} {events : List Event}

theorem receive_cases {x : Nat} {incoming : Incoming}
    (h : step config s (.receive x incoming) = some (t, events)) :
    s.calls x = none ∧
      ((∃ answer : Answer, answer.turnsAway ∧ (t, events) = finish s x incoming answer) ∨
        ∃ request, requireOwner config.caseTables config.settings incoming.credentials = .ok () ∧
          incoming.body.read = some request ∧
          t = s.setStage x incoming (.executing request)) := by
  simp only [step] at h
  split at h
  · cases h
  rename_i hnone
  refine ⟨hnone, ?_⟩
  split at h
  · rename_i error _
    exact .inl ⟨.refused error, trivial, (Option.some.inj h).symm⟩
  rename_i howner
  split at h
  · exact .inl ⟨.unprocessable, trivial, (Option.some.inj h).symm⟩
  · rename_i request hrequest
    exact .inr ⟨request, howner, hrequest, (congrArg Prod.fst (Option.some.inj h)).symm⟩

theorem execute_cases {x : Nat} {attempt : Attempt} {rows : List Row}
    (h : step config s (.execute x attempt rows) = some (t, events)) :
    ∃ incoming request ending table, s.calls x = some ⟨incoming, .executing request⟩ ∧
      (request.reads → Selects config.dialect s.table rows) ∧
      (perform config attempt rows request).run.run s.table = (ending, table) ∧
      ((∃ result, ending = .ok result ∧
          t = { s with table := table }.setStage x incoming (.executed request result)) ∨
        ∃ error, ending = .error error ∧
          t = { s with
            table := table
            inFlight := fun y => if y = x then unsettled attempt request else s.inFlight y
            }.setStage x incoming (.finished (.failed error))) := by
  simp only [step] at h
  split at h
  · rename_i incoming request hcall
    split at h
    · rename_i hselects
      split at h
      · rename_i result table hperform
        exact ⟨incoming, request, .ok result, table, hcall, hselects, hperform,
          .inl ⟨result, rfl, (congrArg Prod.fst (Option.some.inj h)).symm⟩⟩
      · rename_i error table hperform
        exact ⟨incoming, request, .error error, table, hcall, hselects, hperform,
          .inr ⟨error, rfl, (congrArg Prod.fst (Option.some.inj h)).symm⟩⟩
    · cases h
  · cases h

theorem land_cases {x : Nat} (h : step config s (.land x) = some (t, events)) :
    ∃ write, s.inFlight x = some write ∧
      t = { s with
        table := runStatement write s.table
        inFlight := fun y => if y = x then none else s.inFlight y } := by
  simp only [step] at h
  split at h
  · cases h
  · rename_i write hwrite
    exact ⟨write, hwrite, (congrArg Prod.fst (Option.some.inj h)).symm⟩

theorem proceed_cases {x : Nat} {formatted : String} {file : Except Raised String}
    (h : step config s (.proceed x formatted file) = some (t, events)) :
    ∃ incoming request result, s.calls x = some ⟨incoming, .executed request result⟩ ∧
      ((∃ chat memories text asked, request = .chat chat ∧ result = .memories memories ∧
          file = .ok text ∧
          asked = ⟨chat.message, build config.titleTables config.promptSettings
            (memories.map StoredMemory.entry) formatted text⟩ ∧
          t = s.setStage x incoming (.completing asked) ∧ events = [.complete x asked]) ∨
        ∃ answer, ((∃ error, answer = .failed error) ∨ answer = settle request result) ∧
          (t, events) = finish s x incoming answer) := by
  simp only [step] at h
  split at h
  · rename_i incoming chat memories hcall
    refine ⟨incoming, .chat chat, .memories memories, hcall, ?_⟩
    split at h
    · rename_i error
      exact .inr ⟨.failed error, .inl ⟨error, rfl⟩, (Option.some.inj h).symm⟩
    · rename_i text
      obtain ⟨rfl, rfl⟩ := Prod.mk.inj (Option.some.inj h)
      exact .inl ⟨chat, memories, text, _, rfl, rfl, rfl, rfl, rfl, rfl⟩
  · rename_i incoming request result _ hcall
    exact ⟨incoming, request, result, hcall,
      .inr ⟨settle request result, .inr rfl, (Option.some.inj h).symm⟩⟩
  · cases h

/-- A step that ends a call which waits for nothing but the provider. -/
def Ends (x : Nat) (s t : State) (events : List Event) : Prop :=
  ∃ incoming stage answer, s.calls x = some ⟨incoming, stage⟩ ∧ answer.silent ∧
    ((∃ request result, stage = .executed request result) ∨ ∃ asked, stage = .completing asked) ∧
    (t, events) = finish s x incoming answer

theorem respond_cases {x : Nat} {response : Except Raised AIResponse}
    (h : step config s (.respond x response) = some (t, events)) : Ends x s t events := by
  simp only [step] at h
  split at h
  · rename_i incoming asked hcall
    split at h
    · rename_i response
      exact ⟨incoming, _, .replied response, hcall, trivial, .inr ⟨asked, rfl⟩,
        (Option.some.inj h).symm⟩
    · rename_i error
      exact ⟨incoming, _, .failed error, hcall, trivial, .inr ⟨asked, rfl⟩,
        (Option.some.inj h).symm⟩
  · cases h

theorem interrupt_cases {x : Nat} {error : Raised}
    (h : step config s (.interrupt x error) = some (t, events)) : Ends x s t events := by
  simp only [step] at h
  split at h
  · rename_i incoming request result hcall
    exact ⟨incoming, _, .failed error, hcall, trivial, .inl ⟨request, result, rfl⟩,
      (Option.some.inj h).symm⟩
  · rename_i incoming asked hcall
    exact ⟨incoming, _, .failed error, hcall, trivial, .inr ⟨asked, rfl⟩,
      (Option.some.inj h).symm⟩
  · cases h

@[simp] theorem setStage_calls_self (s : State) (x : Nat) (incoming : Incoming) (stage : Stage) :
    (s.setStage x incoming stage).calls x = some ⟨incoming, stage⟩ := by
  simp [State.setStage]

theorem setStage_calls_of_ne (s : State) {x y : Nat} (h : y ≠ x) (incoming : Incoming)
    (stage : Stage) : (s.setStage x incoming stage).calls y = s.calls y := by
  simp [State.setStage, h]

theorem step_frame {a : Action} {y : Nat} (hy : y ≠ a.call)
    (h : step config s a = some (t, events)) :
    t.calls y = s.calls y ∧ t.inFlight y = s.inFlight y := by
  cases a with
  | receive x incoming =>
      obtain ⟨-, ⟨answer, -, hfinish⟩ | ⟨request, -, -, rfl⟩⟩ := receive_cases h
      · obtain ⟨rfl, -⟩ := Prod.mk.inj hfinish
        exact ⟨setStage_calls_of_ne s hy _ _, rfl⟩
      · exact ⟨setStage_calls_of_ne s hy _ _, rfl⟩
  | execute x attempt rows =>
      obtain ⟨incoming, request, ending, table, -, -, -, ⟨result, -, rfl⟩ | ⟨error, -, rfl⟩⟩ :=
        execute_cases h
      · exact ⟨setStage_calls_of_ne _ hy _ _, rfl⟩
      · exact ⟨setStage_calls_of_ne _ hy _ _, if_neg hy⟩
  | land x =>
      obtain ⟨write, -, rfl⟩ := land_cases h
      exact ⟨rfl, if_neg hy⟩
  | proceed x formatted file =>
      obtain ⟨incoming, request, result, -, ⟨_, _, _, _, -, -, -, -, rfl, -⟩ | ⟨_, -, hfinish⟩⟩ :=
        proceed_cases h
      · exact ⟨setStage_calls_of_ne s hy _ _, rfl⟩
      · obtain ⟨rfl, -⟩ := Prod.mk.inj hfinish
        exact ⟨setStage_calls_of_ne s hy _ _, rfl⟩
  | respond x response =>
      obtain ⟨incoming, stage, answer, -, -, -, hfinish⟩ := respond_cases h
      obtain ⟨rfl, -⟩ := Prod.mk.inj hfinish
      exact ⟨setStage_calls_of_ne s hy _ _, rfl⟩
  | interrupt x error =>
      obtain ⟨incoming, stage, answer, -, -, -, hfinish⟩ := interrupt_cases h
      obtain ⟨rfl, -⟩ := Prod.mk.inj hfinish
      exact ⟨setStage_calls_of_ne s hy _ _, rfl⟩

end Steps

section Runs

abbrev Step := Transition State Action Event

/-- The write of the table that the database executes in the step. -/
def writeOf (u : Step) : Option (Write (String × String) MemoryRecord) :=
  match u.action with
  | .execute x attempt _ =>
      match u.source.calls x with
      | some ⟨_, .executing request⟩ =>
          if applied attempt.outcome then request.write attempt else none
      | _ => none
  | .land x => u.source.inFlight x
  | _ => none

def Executes (x : Nat) (u : Step) : Prop :=
  (∃ attempt rows, u.action = .execute x attempt rows ∧ applied attempt.outcome = true) ∨
    u.action = .land x

def Admits (x : Nat) (request : Request) (u : Step) : Prop :=
  ∃ incoming, u.action = .receive x incoming ∧
    requireOwner config.caseTables config.settings incoming.credentials = .ok () ∧
    incoming.body.read = some request

def contentsAfter (first : MemoryTable) (history : List Step) :
    String × String → Option MemoryRecord :=
  lastWrites writeOf first.lookup history

/-- The statement was executed once the request had come in, and yielded the result from
the entries of that moment. -/
def Executed (first : MemoryTable) (x : Nat) (request : Request) (result : Result)
    (history : List Step) : Prop :=
  ∃ later u earlier, history = later ++ u :: earlier ∧ Executes x u ∧
    (∃ v ∈ earlier, Admits config x request v) ∧
    Yields config.dialect (contentsAfter first earlier) request (writeOf u) result

def Asked (x : Nat) (write : Write (String × String) MemoryRecord) (history : List Step) : Prop :=
  ∃ request attempt, (∃ v ∈ history, Admits config x request v) ∧
    request.write attempt = some write

def Unexecuted (x : Nat) (history : List Step) : Prop := ∀ u ∈ history, ¬ Executes x u

def AnswerInv (first : MemoryTable) (x : Nat) (inFlight : Bool) (history : List Step) :
    Answer → Prop
  | .failed _ | .replied _ => inFlight = true → Unexecuted x history
  | .refused _ | .unprocessable => inFlight = false ∧ Unexecuted x history
  | answer => inFlight = false ∧
      ∃ request result, settle request result = answer ∧
        Executed config first x request result history

def CallInv (first : MemoryTable) (x : Nat) (inFlight : Bool) (history : List Step) :
    Option Call → Prop
  | none => inFlight = false ∧ Unexecuted x history
  | some ⟨_, .executing request⟩ =>
      inFlight = false ∧ Unexecuted x history ∧ ∃ u ∈ history, Admits config x request u
  | some ⟨_, .executed request result⟩ =>
      inFlight = false ∧ Executed config first x request result history
  | some ⟨_, .completing _⟩ => inFlight = false
  | some ⟨_, .finished answer⟩ => AnswerInv config first x inFlight history answer

/-- The invariant: the table is what the writes left, no statement is executed twice, and
every call is where its history has brought it. -/
structure Inv (first : MemoryTable) (history : List Step) (s : State) : Prop where
  table : s.table.lookup = contentsAfter first history
  once : ∀ x, history.Pairwise fun u v => ¬ (Executes x u ∧ Executes x v)
  calls : ∀ x, CallInv config first x (s.inFlight x).isSome history (s.calls x)
  inFlight : ∀ x write, s.inFlight x = some write → Asked config x write history

variable {config} {first : MemoryTable} {history : List Step} {s t : State} {x : Nat}

theorem call_of_executes {u : Step} (h : Executes x u) : u.action.call = x := by
  rcases h with ⟨attempt, rows, haction, -⟩ | haction
  · rw [haction, Action.call]
  · rw [haction, Action.call]

theorem Unexecuted.cons {u : Step} (h : Unexecuted x history) (hu : ¬ Executes x u) :
    Unexecuted x (u :: history) := List.forall_mem_cons.mpr ⟨hu, h⟩

theorem Executed.cons {request : Request} {result : Result}
    (h : Executed config first x request result history) (u : Step) :
    Executed config first x request result (u :: history) := by
  obtain ⟨later, v, earlier, rfl, hv⟩ := h
  exact ⟨u :: later, v, earlier, rfl, hv⟩

theorem Asked.cons {write : Write (String × String) MemoryRecord}
    (h : Asked config x write history) (u : Step) : Asked config x write (u :: history) := by
  obtain ⟨request, attempt, ⟨v, hv, hadmits⟩, hwrite⟩ := h
  exact ⟨request, attempt, ⟨v, List.mem_cons_of_mem u hv, hadmits⟩, hwrite⟩

theorem AnswerInv.cons {u : Step} {inFlight : Bool} {answer : Answer}
    (h : AnswerInv config first x inFlight history answer) (hu : ¬ Executes x u) :
    AnswerInv config first x inFlight (u :: history) answer := by
  have htold : ∀ answer : Answer, (∃ request result, settle request result = answer ∧
      Executed config first x request result history) →
      ∃ request result, settle request result = answer ∧
        Executed config first x request result (u :: history) := by
    rintro answer ⟨request, result, hanswer, hexecuted⟩
    exact ⟨request, result, hanswer, hexecuted.cons u⟩
  cases answer with
  | failed error => exact fun hflight => (h hflight).cons hu
  | replied response => exact fun hflight => (h hflight).cons hu
  | refused error => exact ⟨h.1, h.2.cons hu⟩
  | unprocessable => exact ⟨h.1, h.2.cons hu⟩
  | listed memories => exact ⟨h.1, htold _ h.2⟩
  | stored memory => exact ⟨h.1, htold _ h.2⟩
  | deleted => exact ⟨h.1, htold _ h.2⟩
  | notFound detail => exact ⟨h.1, htold _ h.2⟩

theorem CallInv.cons {u : Step} {inFlight : Bool} {call : Option Call}
    (h : CallInv config first x inFlight history call) (hu : ¬ Executes x u) :
    CallInv config first x inFlight (u :: history) call := by
  cases call with
  | none => exact ⟨h.1, h.2.cons hu⟩
  | some call =>
      obtain ⟨incoming, stage⟩ := call
      cases stage with
      | executing request =>
          obtain ⟨hflight, hnot, v, hv, hadmits⟩ := h
          exact ⟨hflight, hnot.cons hu, v, List.mem_cons_of_mem u hv, hadmits⟩
      | executed request result => exact ⟨h.1, h.2.cons u⟩
      | completing asked => exact h
      | finished answer => exact AnswerInv.cons h hu

theorem answerInv_silent {inFlight : Bool} {answer : Answer} (hsilent : answer.silent)
    (h : inFlight = true → Unexecuted x history) :
    AnswerInv config first x inFlight history answer := by
  cases answer with
  | failed error => exact h
  | replied response => exact h
  | refused error => cases hsilent
  | unprocessable => cases hsilent
  | listed memories => cases hsilent
  | stored memory => cases hsilent
  | deleted => cases hsilent
  | notFound detail => cases hsilent

theorem answerInv_settle {request : Request} {result : Result}
    (h : Executed config first x request result history) :
    AnswerInv config first x false history (settle request result) := by
  have htold : ∃ request' result', settle request' result' = settle request result ∧
      Executed config first x request' result' history := ⟨request, result, rfl, h⟩
  cases hanswer : settle request result with
  | listed memories => exact ⟨rfl, hanswer ▸ htold⟩
  | stored memory => exact ⟨rfl, hanswer ▸ htold⟩
  | deleted => exact ⟨rfl, hanswer ▸ htold⟩
  | notFound detail => exact ⟨rfl, hanswer ▸ htold⟩
  | failed error => exact fun h => by cases h
  | replied response => exact fun h => by cases h
  | refused error =>
      unfold settle at hanswer
      split at hanswer <;> cases hanswer
  | unprocessable =>
      unfold settle at hanswer
      split at hanswer <;> cases hanswer

/-- The database executes a statement only for a call whose own it has not executed yet. -/
theorem Inv.unexecuted {a : Action} {events : List Event} (hinv : Inv config first history s)
    (h : step config s a = some (t, events)) (hexecutes : Executes x ⟨s, a, events, t⟩) :
    Unexecuted x history := by
  have hcalls := hinv.calls x
  rcases hexecutes with ⟨attempt, rows, rfl, -⟩ | rfl
  · obtain ⟨incoming, request, ending, table, hcall, -⟩ := execute_cases h
    rw [hcall] at hcalls
    exact hcalls.2.1
  · obtain ⟨write, hwrite, -⟩ := land_cases h
    rw [hwrite] at hcalls
    cases hcall : s.calls x with
    | none =>
        rw [hcall] at hcalls
        exact hcalls.2
    | some call =>
        obtain ⟨incoming, stage⟩ := call
        rw [hcall] at hcalls
        cases stage with
        | executing request => exact hcalls.2.1
        | executed request result => cases hcalls.1
        | completing asked => cases hcalls
        | finished answer =>
            cases answer with
            | failed error => exact hcalls rfl
            | replied response => exact hcalls rfl
            | refused error => exact hcalls.2
            | unprocessable => exact hcalls.2
            | listed memories => cases hcalls.1
            | stored memory => cases hcalls.1
            | deleted => cases hcalls.1
            | notFound detail => cases hcalls.1

theorem contentsAfter_cons (u : Step) : contentsAfter first (u :: history) =
    match writeOf u with
    | some write => write.apply (contentsAfter first history)
    | none => contentsAfter first history := by
  unfold contentsAfter
  cases hwrite : writeOf u with
  | none => exact lastWrites_of_none hwrite history
  | some write => exact lastWrites_of_some hwrite history

theorem table_step {a : Action} {events : List Event} (h : step config s a = some (t, events)) :
    t.table.lookup =
      match writeOf ⟨s, a, events, t⟩ with
      | some write => write.apply s.table.lookup
      | none => s.table.lookup := by
  cases a with
  | receive x incoming =>
      obtain ⟨-, ⟨answer, -, hfinish⟩ | ⟨request, -, -, rfl⟩⟩ := receive_cases h
      · obtain ⟨rfl, -⟩ := Prod.mk.inj hfinish
        rfl
      · rfl
  | execute x attempt rows =>
      obtain ⟨incoming, request, ending, table, hcall, hselects, hperform, hends⟩ :=
        execute_cases h
      have htable : t.table = table := by
        rcases hends with ⟨result, -, rfl⟩ | ⟨error, -, rfl⟩
        · rfl
        · rfl
      simp only [writeOf, hcall, htable]
      exact (perform_spec hselects hperform).1
  | land x =>
      obtain ⟨write, hwrite, rfl⟩ := land_cases h
      simp only [writeOf, hwrite]
      exact lookup_runStatement write s.table
  | proceed x formatted file =>
      obtain ⟨incoming, request, result, -, ⟨_, _, _, _, -, -, -, -, rfl, -⟩ | ⟨_, -, hfinish⟩⟩ :=
        proceed_cases h
      · rfl
      · obtain ⟨rfl, -⟩ := Prod.mk.inj hfinish
        rfl
  | respond x response =>
      obtain ⟨incoming, stage, answer, -, -, -, hfinish⟩ := respond_cases h
      obtain ⟨rfl, -⟩ := Prod.mk.inj hfinish
      rfl
  | interrupt x error =>
      obtain ⟨incoming, stage, answer, -, -, -, hfinish⟩ := interrupt_cases h
      obtain ⟨rfl, -⟩ := Prod.mk.inj hfinish
      rfl

theorem Inv.received {incoming : Incoming} {events : List Event}
    (hinv : Inv config first history s)
    (h : step config s (.receive x incoming) = some (t, events)) :
    CallInv config first x (t.inFlight x).isSome
      (⟨s, .receive x incoming, events, t⟩ :: history) (t.calls x) := by
  obtain ⟨hnone, hends⟩ := receive_cases h
  have hcalls := hinv.calls x
  rw [hnone] at hcalls
  obtain ⟨hflight, hnot⟩ := hcalls
  have hexecutes : ¬ Executes x ⟨s, .receive x incoming, events, t⟩ := by
    rintro (⟨attempt, rows, haction, -⟩ | haction)
    · cases haction
    · cases haction
  rcases hends with ⟨answer, haway, hfinish⟩ | ⟨request, howner, hrequest, rfl⟩
  · obtain ⟨rfl, -⟩ := Prod.mk.inj hfinish
    rw [setStage_calls_self]
    cases answer with
    | refused error => exact ⟨hflight, hnot.cons hexecutes⟩
    | unprocessable => exact ⟨hflight, hnot.cons hexecutes⟩
    | listed memories => cases haway
    | stored memory => cases haway
    | replied response => cases haway
    | deleted => cases haway
    | notFound detail => cases haway
    | failed error => cases haway
  · rw [setStage_calls_self]
    exact ⟨hflight, hnot.cons hexecutes, _, List.mem_cons_self, incoming, rfl, howner, hrequest⟩

theorem Inv.executed {attempt : Attempt} {rows : List Row} {events : List Event}
    (hinv : Inv config first history s)
    (h : step config s (.execute x attempt rows) = some (t, events)) :
    CallInv config first x (t.inFlight x).isSome
      (⟨s, .execute x attempt rows, events, t⟩ :: history) (t.calls x) := by
  obtain ⟨incoming, request, ending, table, hcall, hselects, hperform, hends⟩ := execute_cases h
  have hcalls := hinv.calls x
  rw [hcall] at hcalls
  obtain ⟨hflight, hnot, hadmitted⟩ := hcalls
  rcases hends with ⟨result, rfl, rfl⟩ | ⟨error, -, rfl⟩
  · rw [setStage_calls_self]
    obtain ⟨hcompleted, hyields⟩ := (perform_spec hselects hperform).2 result rfl
    have happlied : applied attempt.outcome = true := by rw [hcompleted, applied]
    refine ⟨hflight, [], _, history, rfl, .inl ⟨attempt, rows, rfl, happlied⟩, hadmitted, ?_⟩
    rw [← hinv.table]
    simp only [writeOf, hcall, happlied]
    exact hyields
  · rw [setStage_calls_self]
    intro hunsettled
    refine hnot.cons ?_
    rintro (⟨attempt', rows', haction, happlied⟩ | haction)
    · obtain ⟨-, rfl, -⟩ := Action.execute.inj haction
      simp only [State.setStage, unsettled] at hunsettled
      cases houtcome : attempt.outcome with
      | completed =>
          rw [houtcome] at hunsettled
          cases hunsettled
      | interrupted error applied' =>
          rw [houtcome] at hunsettled happlied
          obtain rfl : applied' = true := happlied
          cases hunsettled
    · cases haction

theorem Inv.landed {events : List Event} (hinv : Inv config first history s)
    (h : step config s (.land x) = some (t, events)) :
    CallInv config first x (t.inFlight x).isSome (⟨s, .land x, events, t⟩ :: history)
      (t.calls x) := by
  obtain ⟨write, hwrite, rfl⟩ := land_cases h
  have hcalls := hinv.calls x
  rw [hwrite] at hcalls
  have hlanded : (if x = x then none else s.inFlight x).isSome = false := by rw [if_pos rfl]; rfl
  dsimp only
  rw [hlanded]
  cases hcall : s.calls x with
  | none =>
      rw [hcall] at hcalls
      cases hcalls.1
  | some call =>
      obtain ⟨incoming, stage⟩ := call
      rw [hcall] at hcalls
      cases stage with
      | executing request => cases hcalls.1
      | executed request result => cases hcalls.1
      | completing asked => cases hcalls
      | finished answer =>
          cases answer with
          | failed error => exact fun hfalse => by cases hfalse
          | replied response => exact fun hfalse => by cases hfalse
          | refused error => cases hcalls.1
          | unprocessable => cases hcalls.1
          | listed memories => cases hcalls.1
          | stored memory => cases hcalls.1
          | deleted => cases hcalls.1
          | notFound detail => cases hcalls.1

theorem Inv.proceeded {formatted : String} {file : Except Raised String} {events : List Event}
    (hinv : Inv config first history s)
    (h : step config s (.proceed x formatted file) = some (t, events)) :
    CallInv config first x (t.inFlight x).isSome
      (⟨s, .proceed x formatted file, events, t⟩ :: history) (t.calls x) := by
  obtain ⟨incoming, request, result, hcall, hends⟩ := proceed_cases h
  have hcalls := hinv.calls x
  rw [hcall] at hcalls
  obtain ⟨hflight, hexecuted⟩ := hcalls
  rcases hends with ⟨_, _, _, _, -, -, -, -, rfl, -⟩ | ⟨answer, hanswer, hfinish⟩
  · rw [setStage_calls_self]
    exact hflight
  · obtain ⟨rfl, -⟩ := Prod.mk.inj hfinish
    rw [setStage_calls_self]
    have hflight' : ((s.setStage x incoming (.finished answer)).inFlight x).isSome = false :=
      hflight
    rcases hanswer with ⟨error, rfl⟩ | rfl
    · intro htrue
      rw [hflight'] at htrue
      cases htrue
    · rw [hflight']
      exact answerInv_settle (hexecuted.cons _)

theorem Inv.ended {a : Action} {events : List Event} (hinv : Inv config first history s)
    (hends : Ends x s t events) :
    CallInv config first x (t.inFlight x).isSome (⟨s, a, events, t⟩ :: history) (t.calls x) := by
  obtain ⟨incoming, stage, answer, hcall, hsilent, hstage, hfinish⟩ := hends
  have hcalls := hinv.calls x
  rw [hcall] at hcalls
  have hflight : (s.inFlight x).isSome = false := by
    rcases hstage with ⟨request, result, rfl⟩ | ⟨asked, rfl⟩
    · exact hcalls.1
    · exact hcalls
  obtain ⟨rfl, -⟩ := Prod.mk.inj hfinish
  rw [setStage_calls_self]
  refine answerInv_silent hsilent ?_
  intro htrue
  have hflight' : ((s.setStage x incoming (.finished answer)).inFlight x).isSome = false := hflight
  rw [hflight'] at htrue
  cases htrue

theorem Inv.own {a : Action} {events : List Event} (hinv : Inv config first history s)
    (h : step config s a = some (t, events)) :
    CallInv config first a.call (t.inFlight a.call).isSome (⟨s, a, events, t⟩ :: history)
      (t.calls a.call) := by
  cases a with
  | receive x incoming => exact hinv.received h
  | execute x attempt rows => exact hinv.executed h
  | land x => exact hinv.landed h
  | proceed x formatted file => exact hinv.proceeded h
  | respond x response => exact hinv.ended (respond_cases h)
  | interrupt x error => exact hinv.ended (interrupt_cases h)

theorem unsettled_eq_some {attempt : Attempt} {request : Request}
    {write : Write (String × String) MemoryRecord} (h : unsettled attempt request = some write) :
    request.write attempt = some write := by
  unfold unsettled at h
  split at h
  · exact h
  · cases h

/-- A step puts a statement in flight only for the request that asked for it. -/
theorem Inv.flies {a : Action} {events : List Event} (hinv : Inv config first history s)
    (h : step config s a = some (t, events)) {write : Write (String × String) MemoryRecord}
    (hwrite : t.inFlight a.call = some write) :
    Asked config a.call write (⟨s, a, events, t⟩ :: history) := by
  cases a with
  | receive x incoming =>
      have hsame : t.inFlight x = s.inFlight x := by
        obtain ⟨-, ⟨answer, -, hfinish⟩ | ⟨request, -, -, rfl⟩⟩ := receive_cases h
        · obtain ⟨rfl, -⟩ := Prod.mk.inj hfinish
          rfl
        · rfl
      exact (hinv.inFlight x write (hsame.symm.trans hwrite)).cons _
  | execute x attempt rows =>
      obtain ⟨incoming, request, ending, table, hcall, -, -, hends⟩ := execute_cases h
      rcases hends with ⟨result, -, rfl⟩ | ⟨error, -, rfl⟩
      · exact (hinv.inFlight x write hwrite).cons _
      · have hcalls := hinv.calls x
        rw [hcall] at hcalls
        obtain ⟨-, -, v, hv, hadmits⟩ := hcalls
        simp only [Action.call, State.setStage] at hwrite
        exact ⟨request, attempt, ⟨v, List.mem_cons_of_mem _ hv, hadmits⟩,
          unsettled_eq_some hwrite⟩
  | land x =>
      obtain ⟨other, -, rfl⟩ := land_cases h
      simp only [Action.call] at hwrite
      cases hwrite
  | proceed x formatted file =>
      have hsame : t.inFlight x = s.inFlight x := by
        obtain ⟨_, _, _, -, ⟨_, _, _, _, -, -, -, -, rfl, -⟩ | ⟨_, -, hfinish⟩⟩ := proceed_cases h
        · rfl
        · obtain ⟨rfl, -⟩ := Prod.mk.inj hfinish
          rfl
      exact (hinv.inFlight x write (hsame.symm.trans hwrite)).cons _
  | respond x response =>
      obtain ⟨_, _, _, -, -, -, hfinish⟩ := respond_cases h
      obtain ⟨rfl, -⟩ := Prod.mk.inj hfinish
      exact (hinv.inFlight x write hwrite).cons _
  | interrupt x error =>
      obtain ⟨_, _, _, -, -, -, hfinish⟩ := interrupt_cases h
      obtain ⟨rfl, -⟩ := Prod.mk.inj hfinish
      exact (hinv.inFlight x write hwrite).cons _

theorem Inv.step {a : Action} {events : List Event} (hinv : Inv config first history s)
    (h : step config s a = some (t, events)) :
    Inv config first (⟨s, a, events, t⟩ :: history) t := by
  refine ⟨?_, ?_, ?_, ?_⟩
  · rw [table_step h, contentsAfter_cons, hinv.table]
  · intro x
    refine List.pairwise_cons.mpr ⟨?_, hinv.once x⟩
    rintro v hv ⟨hexecutes, hexecuted⟩
    exact hinv.unexecuted h hexecutes v hv hexecuted
  · intro x
    by_cases hx : x = a.call
    · subst hx
      exact hinv.own h
    · obtain ⟨hcalls, hflight⟩ := step_frame hx h
      rw [hcalls, hflight]
      exact (hinv.calls x).cons fun hexecutes => hx (call_of_executes hexecutes).symm
  · intro x write hwrite
    by_cases hx : x = a.call
    · subst hx
      exact hinv.flies h hwrite
    · rw [(step_frame hx h).2] at hwrite
      exact (hinv.inFlight x write hwrite).cons _

theorem inv_of_run (hrun : Run (ownerApi config first) (.initial first) history s) :
    Inv config first history s := by
  induction hrun with
  | nil =>
      refine ⟨rfl, fun x => List.Pairwise.nil, ?_, ?_⟩
      · intro x
        exact ⟨rfl, List.forall_mem_nil _⟩
      · intro x write hwrite
        cases hwrite
  | step action events t _ h ih => exact ih.step h

theorem Inv.writes {a : Action} {events : List Event} (hinv : Inv config first history s)
    (h : OwnerApi.step config s a = some (t, events)) {write : Write (String × String) MemoryRecord}
    (hwrite : writeOf ⟨s, a, events, t⟩ = some write) :
    ∃ x, Executes x ⟨s, a, events, t⟩ ∧ Asked config x write history := by
  cases a with
  | execute x attempt rows =>
      obtain ⟨incoming, request, ending, table, hcall, -⟩ := execute_cases h
      have hcalls := hinv.calls x
      rw [hcall] at hcalls
      simp only [writeOf, hcall] at hwrite
      split at hwrite
      · rename_i happlied
        exact ⟨x, .inl ⟨attempt, rows, rfl, happlied⟩, request, attempt, hcalls.2.2, hwrite⟩
      · cases hwrite
  | land x => exact ⟨x, .inr rfl, hinv.inFlight x write hwrite⟩
  | receive x incoming => cases hwrite
  | proceed x formatted file => cases hwrite
  | respond x response => cases hwrite
  | interrupt x error => cases hwrite

variable (config) in
/-- What the requests over the table are for: each takes effect at one moment, after its
reception and before its answer, as if it were alone. -/
structure Linearized (first : MemoryTable) (history : List Step) (s : State) : Prop where
  table : s.table.lookup = contentsAfter first history
  /-- No statement is executed twice, not even that of an interrupted call. -/
  once : ∀ x, history.Pairwise fun u v => ¬ (Executes x u ∧ Executes x v)
  /-- Only requests with the token of the owner write. -/
  writes : ∀ later u earlier write, history = later ++ u :: earlier → writeOf u = some write →
    ∃ x, Executes x u ∧ Asked config x write earlier
  answered : ∀ x incoming answer, s.calls x = some ⟨incoming, .finished answer⟩ →
    ¬ answer.silent → ¬ answer.turnsAway →
    ∃ request result, answer = settle request result ∧
      Executed config first x request result history

theorem requests_take_effect_once (hrun : Run (ownerApi config first) (.initial first) history s) :
    Linearized config first history s := by
  have hinv := inv_of_run hrun
  refine ⟨hinv.table, hinv.once, ?_, ?_⟩
  · rintro later u earlier write rfl hwrite
    obtain ⟨hearlier, hfired, -⟩ := hrun.split
    exact (inv_of_run hearlier).writes hfired hwrite
  · intro x incoming answer hcall hsilent haway
    have hcalls := hinv.calls x
    rw [hcall] at hcalls
    have hanswer : AnswerInv config first x (s.inFlight x).isSome history answer := hcalls
    have htold : (∃ request result, settle request result = answer ∧
        Executed config first x request result history) →
        ∃ request result, answer = settle request result ∧
          Executed config first x request result history := by
      rintro ⟨request, result, rfl, hexecuted⟩
      exact ⟨request, result, rfl, hexecuted⟩
    cases answer with
    | failed error => exact absurd trivial hsilent
    | replied response => exact absurd trivial hsilent
    | refused error => exact absurd trivial haway
    | unprocessable => exact absurd trivial haway
    | listed memories => exact htold hanswer.2
    | stored memory => exact htold hanswer.2
    | deleted => exact htold hanswer.2
    | notFound detail => exact htold hanswer.2

end Runs

section Samples

def sampleOwner : Option HTTPAuthorizationCredentials :=
  some ⟨"Bearer", "owner-token-with-at-least-32-bytes"⟩

def sampleApi : Config where
  settings := sampleSettings "admin-token-with-at-least-32-bytes"
  promptSettings := ⟨"JARVIS", "Sam"⟩
  dialect := .postgresql
  caseTables := .ascii
  titleTables := sampleTables

def samplePut (x : Nat) (value : String) : Action :=
  .receive x ⟨sampleOwner, .upsertMemory "notes" "desk_lamp" value⟩

/-- The connection of the first request is lost before its commit arrives, and the second
one is answered in between. The listing has the value that came last. -/
def sampleRequests : List Action :=
  [samplePut 0 "broken", samplePut 1 "repaired",
    .execute 0 ⟨⟨10, 0⟩, .interrupted .cancelled false⟩ [],
    .execute 1 ⟨⟨20, 0⟩, .completed⟩ [], .proceed 1 "" (.ok ""), .land 0,
    .receive 2 ⟨sampleOwner, .listMemories⟩, .receive 3 ⟨none, .deleteMemory "notes" "desk_lamp"⟩,
    .execute 2 ⟨⟨30, 0⟩, .completed⟩ [⟨("notes", "desk_lamp"), ⟨"broken", ⟨10, 0⟩⟩⟩],
    .receive 4 ⟨sampleOwner, .deleteMemory "notes" "desk_lamp"⟩,
    .execute 4 ⟨⟨40, 0⟩, .completed⟩ [], .proceed 4 "" (.ok ""), .proceed 2 "" (.ok "")]

def sampleAnswer (s : State) (x : Nat) : Option Answer :=
  match s.calls x with
  | some ⟨_, .finished answer⟩ => some answer
  | _ => none

theorem requests_take_effect_once_landed :
    ∃ history s, Linearized sampleApi ∅ history s ∧
      sampleAnswer s 2 = some (.listed [⟨⟨.notes, "desk_lamp", "broken"⟩, ⟨10, some 0⟩⟩]) ∧
      sampleAnswer s 4 = some .deleted := by
  obtain ⟨history, s, hrun, htest⟩ := exists_run_of_replay (S := ownerApi sampleApi ∅)
    (s := .initial ∅) sampleRequests (fun _ s =>
      sampleAnswer s 2 = some (.listed [⟨⟨.notes, "desk_lamp", "broken"⟩, ⟨10, some 0⟩⟩]) ∧
        sampleAnswer s 4 = some .deleted) (by decide)
  exact ⟨history, s, requests_take_effect_once hrun, of_decide_eq_true htest⟩

end Samples

end JarvisCore.Assistant.Linearization
