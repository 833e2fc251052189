import JarvisCore.Gateway.Transports

namespace JarvisCore.Gateway.Frames

open JarvisCore.Domain.Values
open JarvisCore.Domain.Errors
open JarvisCore.Domain.Models
open JarvisCore.Foundation.AsyncIO
open JarvisCore.Gateway.Transports
open JarvisCore.Gateway.Transports.Transport

def IsHello (message : ServerMessage) : Prop :=
  match message.payload with
  | .serverHello _ _ _ => True
  | _ => False

def IsReady (message : ServerMessage) : Prop :=
  match message.payload with
  | .serverReady _ _ => True
  | _ => False

def IsCommand (message : ServerMessage) : Prop :=
  match message.payload with
  | .commandExecute _ => True
  | _ => False

/-- The messages that presuppose `server.ready`. -/
def IsLate (message : ServerMessage) : Prop :=
  match message.payload with
  | .commandExecute _ | .heartbeatPing _ | .capabilitiesAck _ | .commandResultRejected _ _ => True
  | _ => False

/-- `server.hello` comes first, and `server.ready` before the messages that presuppose it. -/
structure Ordered (frames : List ServerMessage) : Prop where
  first : ∀ message rest, frames = message :: rest → IsHello message
  ready : ∀ earlier message later, frames = earlier ++ message :: later → IsLate message →
    ∃ ready ∈ earlier, IsReady ready

def ReadySent (t : Transport) : Prop := ∃ message ∈ t.frames, IsReady message

def Fits (sessionId : Option UUID) (t : Transport) : Job → Prop
  | .send message => sessionId = some message.sessionId ∧ (t.closed = true ∨
      ((IsHello message ∨ t.frames ≠ []) ∧ (IsLate message → ReadySent t)))
  | .close _ _ => True

structure Proper (sessionId : Option UUID) (t : Transport) : Prop where
  ordered : Ordered t.frames
  session : ∀ message ∈ t.frames, sessionId = some message.sessionId
  fits : ∀ j task, t.tasks j = some task → Fits sessionId t task.job
  active : ∀ j writer message, t.tasks j = some ⟨writer, .send message, .active⟩ →
    message ∈ t.frames
  sent : ∀ j writer message, t.tasks j = some ⟨writer, .send message, .done none⟩ →
    message ∈ t.frames
  failed : ∀ j writer message error,
    t.tasks j = some ⟨writer, .send message, .done (some error)⟩ →
    message ∈ t.frames ∨ t.closed = true ∨ error = .cancelled ∨ IsCommand message

structure Grows (t t' : Transport) : Prop where
  frames : t.frames <+: t'.frames
  closed : t.closed = true → t'.closed = true

theorem Grows.refl (t : Transport) : Grows t t := ⟨List.prefix_rfl, id⟩

theorem Grows.trans {t t' t'' : Transport} (h : Grows t t') (h' : Grows t' t'') : Grows t t'' :=
  ⟨h.frames.trans h'.frames, fun hclosed => h'.closed (h.closed hclosed)⟩

section Growth

variable {t t' : Transport} {j : Nat} {task : Task} {sessionId : Option UUID}

theorem grows_of_evolves (h : Evolves t j task t') : Grows t t' :=
  ⟨h.monotone.1, fun hclosed => (h.monotone.2.1 hclosed).1⟩

theorem ReadySent.grows (h : ReadySent t) (hgrows : Grows t t') : ReadySent t' := by
  obtain ⟨message, hmem, hready⟩ := h
  exact ⟨message, hgrows.frames.subset hmem, hready⟩

theorem ReadySent.frames (h : ReadySent t) : t.frames ≠ [] := by
  obtain ⟨message, hmem, -⟩ := h
  exact List.ne_nil_of_mem hmem

theorem frames_grow (hgrows : Grows t t') (h : t.frames ≠ []) : t'.frames ≠ [] := by
  obtain ⟨rest, hrest⟩ := hgrows.frames
  rw [← hrest]
  exact List.append_ne_nil_of_left_ne_nil h rest

theorem Fits.grows {job : Job} (h : Fits sessionId t job) (hgrows : Grows t t') :
    Fits sessionId t' job := by
  cases job with
  | close => trivial
  | send message =>
      obtain ⟨hsession, hclosed | ⟨hfirst, hlate⟩⟩ := h
      · exact ⟨hsession, .inl (hgrows.closed hclosed)⟩
      · refine ⟨hsession, .inr ⟨?_, fun h => (hlate h).grows hgrows⟩⟩
        exact hfirst.imp_right (frames_grow hgrows)

theorem Ordered.append {frames : List ServerMessage} (h : Ordered frames) {message : ServerMessage}
    (hfirst : IsHello message ∨ frames ≠ [])
    (hlate : IsLate message → ∃ ready ∈ frames, IsReady ready) : Ordered (frames ++ [message]) := by
  constructor
  · intro message' rest heq
    cases frames with
    | nil =>
        cases heq
        exact hfirst.resolve_right fun hne => hne rfl
    | cons first others =>
        cases heq
        exact h.first _ others rfl
  · intro earlier message' later heq hlate'
    rcases List.eq_nil_or_concat' later with rfl | ⟨init, last, rfl⟩
    · obtain ⟨rfl, hlast⟩ := List.append_inj' heq rfl
      cases hlast
      exact hlate hlate'
    · rw [← List.cons_append, ← List.append_assoc] at heq
      obtain ⟨rfl, -⟩ := List.append_inj' heq rfl
      exact h.ready earlier message' init rfl hlate'

end Growth

section Steps

variable {t t' : Transport} {j : Nat} {task : Task} {sessionId : Option UUID}

theorem tasks_of_update (htasks : t'.tasks = Function.update t.tasks j (some task)) {i : Nat}
    {task' : Task} (h : t'.tasks i = some task') :
    (i = j ∧ task' = task) ∨ (i ≠ j ∧ t.tasks i = some task') := by
  rw [htasks] at h
  exact setTask_cases h

theorem proper_fresh : Proper none Transport.fresh where
  ordered := by
    constructor
    · intro message rest h
      cases h
    · intro earlier message later h
      exact absurd h (by simp [Transport.fresh])
  session message h := by cases h
  fits j task h := by cases h
  active j writer message h := by cases h
  sent j writer message h := by cases h
  failed j writer message error h := by cases h

/-- Nothing has been sent and nothing is to be sent while there is no session. -/
theorem Proper.learns (h : Proper none t) (sessionId : Option UUID) : Proper sessionId t where
  ordered := h.ordered
  session message hmem := by cases h.session message hmem
  fits j task htask := by
    have hfits := h.fits j task htask
    cases hjob : task.job with
    | close => trivial
    | send message =>
        rw [hjob] at hfits
        cases hfits.1
  active := h.active
  sent := h.sent
  failed := h.failed

theorem Proper.fits_update (h : Proper sessionId t) (hfits : Fits sessionId t task.job)
    (hgrows : Grows t t') {progress : Progress}
    (htasks : t'.tasks = Function.update t.tasks j (some { task with progress })) {i : Nat}
    {task' : Task} (htask' : t'.tasks i = some task') : Fits sessionId t' task'.job := by
  rcases tasks_of_update htasks htask' with ⟨-, rfl⟩ | ⟨-, hold⟩
  · exact hfits.grows hgrows
  · exact (h.fits i task' hold).grows hgrows

theorem Proper.settles {progress : Progress} (h : Proper sessionId t)
    (hfits : Fits sessionId t task.job) (hgrows : Grows t t')
    (hactive : ∀ writer message, task = ⟨writer, .send message, .active⟩ → message ∈ t.frames)
    (hsettles : Settles t task progress)
    (htasks : t'.tasks = Function.update t.tasks j (some { task with progress }))
    (hframes : t'.frames = t.frames) (hclosed : t'.closed = t.closed) : Proper sessionId t' := by
  obtain ⟨writer₀, job₀, progress₀⟩ := task
  refine ⟨hframes ▸ h.ordered, hframes ▸ h.session,
    fun i task' => h.fits_update hfits hgrows htasks, ?_, ?_, ?_⟩
  · intro i writer message htask
    rcases tasks_of_update htasks htask with ⟨-, heq⟩ | ⟨-, hold⟩
    · cases heq
      cases hsettles
    · rw [hframes]
      exact h.active i writer message hold
  · intro i writer message htask
    rw [hframes]
    rcases tasks_of_update htasks htask with ⟨-, heq⟩ | ⟨-, hold⟩
    · cases heq
      cases hsettles with
      | ended _ hprogress =>
          obtain rfl : progress₀ = _ := hprogress
          exact hactive writer₀ message rfl
      | closedBefore code reason hjob => cases hjob
    · exact h.sent i writer message hold
  · intro i writer message error htask
    rw [hframes, hclosed]
    rcases tasks_of_update htasks htask with ⟨-, heq⟩ | ⟨-, hold⟩
    · cases heq
      cases hsettles with
      | cancelled => exact .inr (.inr (.inl rfl))
      | ended _ hprogress =>
          obtain rfl : progress₀ = _ := hprogress
          exact .inl (hactive writer₀ message rfl)
      | refused _ _ _ hclosed => exact .inr (.inl hclosed)
      | invalid message' command _ hjob hpayload =>
          cases hjob
          refine .inr (.inr (.inr ?_))
          simp [IsCommand, hpayload]
    · exact h.failed i writer message error hold

theorem Proper.sends {message : ServerMessage} (h : Proper sessionId t)
    (hfits : Fits sessionId t task.job) (hgrows : Grows t t') (hjob : task.job = .send message)
    (hopen : t.closed = false)
    (htasks : t'.tasks = Function.update t.tasks j (some { task with progress := .active }))
    (hframes : t'.frames = t.frames ++ [message]) (hclosed : t'.closed = t.closed) :
    Proper sessionId t' := by
  obtain ⟨writer₀, job₀, progress₀⟩ := task
  have hfitting := hfits
  rw [hjob] at hfitting
  obtain ⟨hsession, hplace⟩ := hfitting
  obtain ⟨hfirst, hlate⟩ := hplace.resolve_left (by simp [hopen])
  have hmem {message' : ServerMessage} (hmem : message' ∈ t.frames) : message' ∈ t'.frames := by
    rw [hframes]
    exact List.mem_append_left _ hmem
  refine ⟨?_, ?_, fun i task' => h.fits_update hfits hgrows htasks, ?_, ?_, ?_⟩
  · rw [hframes]
    exact h.ordered.append hfirst hlate
  · intro message' hmessage
    rw [hframes] at hmessage
    rcases List.mem_append.mp hmessage with hold | hlast
    · exact h.session message' hold
    · obtain rfl := List.mem_singleton.mp hlast
      exact hsession
  · intro i writer message' htask
    rcases tasks_of_update htasks htask with ⟨-, heq⟩ | ⟨-, hold⟩
    · obtain rfl : job₀ = _ := hjob
      cases heq
      rw [hframes]
      exact List.mem_append_right _ (List.mem_singleton_self _)
    · exact hmem (h.active i writer message' hold)
  · intro i writer message' htask
    rcases tasks_of_update htasks htask with ⟨-, heq⟩ | ⟨-, hold⟩
    · cases heq
    · exact hmem (h.sent i writer message' hold)
  · intro i writer message' error htask
    rcases tasks_of_update htasks htask with ⟨-, heq⟩ | ⟨-, hold⟩
    · cases heq
    · rw [hclosed]
      exact (h.failed i writer message' error hold).imp_left hmem

theorem Proper.closes {code : Nat} {reason : String} (h : Proper sessionId t)
    (hfits : Fits sessionId t task.job) (hgrows : Grows t t')
    (hjob : task.job = .close code reason)
    (htasks : t'.tasks = Function.update t.tasks j (some { task with progress := .active }))
    (hframes : t'.frames = t.frames) (hclosed : t'.closed = true) : Proper sessionId t' := by
  obtain ⟨writer₀, job₀, progress₀⟩ := task
  refine ⟨hframes ▸ h.ordered, hframes ▸ h.session,
    fun i task' => h.fits_update hfits hgrows htasks, ?_, ?_, ?_⟩
  · intro i writer message htask
    rcases tasks_of_update htasks htask with ⟨-, heq⟩ | ⟨-, hold⟩
    · obtain rfl : job₀ = _ := hjob
      cases heq
    · rw [hframes]
      exact h.active i writer message hold
  · intro i writer message htask
    rcases tasks_of_update htasks htask with ⟨-, heq⟩ | ⟨-, hold⟩
    · cases heq
    · rw [hframes]
      exact h.sent i writer message hold
  · intro i writer message error htask
    exact .inr (.inl hclosed)

theorem Proper.evolves (h : Proper sessionId t) (hfits : Fits sessionId t task.job)
    (hactive : ∀ writer message, task = ⟨writer, .send message, .active⟩ → message ∈ t.frames)
    (hevolves : Evolves t j task t') : Proper sessionId t' := by
  have hgrows := grows_of_evolves hevolves
  cases hevolves with
  | settles progress hsettles htasks hframes hcloses hclosed =>
      exact h.settles hfits hgrows hactive hsettles htasks hframes hclosed
  | sends message hjob hopen htasks hframes hcloses hclosed =>
      exact h.sends hfits hgrows hjob hopen htasks hframes hclosed
  | closes code reason hjob hopen htasks hframes hcloses hclosed =>
      exact h.closes hfits hgrows hjob htasks hframes hclosed

theorem clear_tasks {i : Nat} (h : (t.clear j).tasks i = some task) :
    i ≠ j ∧ t.tasks i = some task := by
  by_cases hi : i = j
  · subst hi
    rw [show (t.clear i).tasks i = none from Function.update_self _ _ _] at h
    cases h
  · rw [show (t.clear j).tasks i = t.tasks i from Function.update_of_ne hi _ _] at h
    exact ⟨hi, h⟩

theorem Proper.clear (h : Proper sessionId t) (j : Nat) : Proper sessionId (t.clear j) where
  ordered := h.ordered
  session := h.session
  fits i task htask := h.fits i task (clear_tasks htask).2
  active i writer message htask := h.active i writer message (clear_tasks htask).2
  sent i writer message htask := h.sent i writer message (clear_tasks htask).2
  failed i writer message error htask := h.failed i writer message error (clear_tasks htask).2

end Steps

section Writers

variable {encodes : DeviceCommand → Bool} {t t' : Transport} {j : Nat} {task : Task}
  {allowed : Job → Prop}

/-- The handler of the socket has given the transport at most one job. -/
def OwnTasks (allowed : Job → Prop) (t : Transport) : Prop :=
  ∀ j task, t.tasks j = some task → task.writer = .handler → allowed task.job ∧
    ∀ i task', t.tasks i = some task' → task'.writer = .handler → i = j

def Free (t : Transport) : Prop := ∀ j task, t.tasks j = some task → task.writer ≠ .handler

/-- Nobody but the handler uses the transport, and nobody closes it. -/
def Untouched (t : Transport) : Prop :=
  t.closed = false ∧ ∀ j task, t.tasks j = some task →
    task.writer = .handler ∧ ∃ message, task.job = .send message

theorem Free.ownTasks (h : Free t) (allowed : Job → Prop) : OwnTasks allowed t :=
  fun j task htask hwriter => absurd hwriter (h j task htask)

theorem OwnTasks.free (h : OwnTasks allowed t) (hnone : ∀ job, ¬ allowed job) : Free t :=
  fun j task htask hwriter => hnone task.job (h j task htask hwriter).1

theorem evolves_tasks (h : Evolves t j task t') : ∃ progress,
    t'.tasks = Function.update t.tasks j (some { task with progress }) := by
  cases h with
  | settles progress _ htasks => exact ⟨progress, htasks⟩
  | sends _ _ _ htasks => exact ⟨.active, htasks⟩
  | closes _ _ _ _ htasks => exact ⟨.active, htasks⟩

theorem OwnTasks.evolves (h : OwnTasks allowed t) (htask : t.tasks j = some task)
    (hevolves : Evolves t j task t') : OwnTasks allowed t' := by
  obtain ⟨progress, htasks⟩ := evolves_tasks hevolves
  have old {i : Nat} {task' : Task} (hi : t'.tasks i = some task') :
      ∃ task₀, t.tasks i = some task₀ ∧ task₀.writer = task'.writer ∧ task₀.job = task'.job := by
    rcases tasks_of_update htasks hi with ⟨rfl, rfl⟩ | ⟨-, hold⟩
    · exact ⟨task, htask, rfl, rfl⟩
    · exact ⟨task', hold, rfl, rfl⟩
  intro i task' hi hwriter
  obtain ⟨task₀, hi₀, hwriter₀, hjob₀⟩ := old hi
  obtain ⟨hallowed, hunique⟩ := h i task₀ hi₀ (hwriter₀.trans hwriter)
  refine ⟨hjob₀ ▸ hallowed, ?_⟩
  intro i' task'' hi' hwriter'
  obtain ⟨task₁, hi₁, hwriter₁, -⟩ := old hi'
  exact hunique i' task₁ hi₁ (hwriter₁.trans hwriter')

theorem OwnTasks.request (h : OwnTasks allowed t) {writer : Writer} (hwriter : writer ≠ .handler)
    (job : Job) : OwnTasks allowed (t.request encodes writer job) := by
  obtain ⟨progress, htasks⟩ := evolves_tasks (request_evolves writer job : Evolves t _ _ (t.request encodes writer job))
  have old {i : Nat} {task' : Task} (hi : (t.request encodes writer job).tasks i = some task')
      (hown : task'.writer = .handler) : t.tasks i = some task' := by
    rcases tasks_of_update htasks hi with ⟨-, rfl⟩ | ⟨-, hold⟩
    · exact absurd hown hwriter
    · exact hold
  intro i task' hi hown
  obtain ⟨hallowed, hunique⟩ := h i task' (old hi hown) hown
  exact ⟨hallowed, fun i' task'' hi' hown' => hunique i' task'' (old hi' hown') hown'⟩

theorem Free.request (h : Free t) {job : Job} (hallowed : allowed job) :
    OwnTasks allowed (t.request encodes .handler job) := by
  obtain ⟨progress, htasks⟩ := evolves_tasks (request_evolves .handler job : Evolves t _ _ (t.request encodes .handler job))
  have new {i : Nat} {task' : Task} (hi : (t.request encodes .handler job).tasks i = some task')
      (hown : task'.writer = .handler) : i = t.nextTask ∧ task'.job = job := by
    rcases tasks_of_update htasks hi with ⟨hnew, rfl⟩ | ⟨-, hold⟩
    · exact ⟨hnew, rfl⟩
    · exact absurd hown (h i task' hold)
  intro i task' hi hown
  obtain ⟨rfl, hjob⟩ := new hi hown
  exact ⟨hjob ▸ hallowed, fun i' task'' hi' hown' => (new hi' hown').1⟩

theorem OwnTasks.clear (h : OwnTasks allowed t) (j : Nat) : OwnTasks allowed (t.clear j) := by
  intro i task hi hwriter
  obtain ⟨hallowed, hunique⟩ := h i task (clear_tasks hi).2 hwriter
  exact ⟨hallowed, fun i' task' hi' => hunique i' task' (clear_tasks hi').2⟩

theorem OwnTasks.clear_own (h : OwnTasks allowed t) (htask : t.tasks j = some task)
    (hwriter : task.writer = .handler) : Free (t.clear j) := by
  intro i task' hi hown
  obtain ⟨hne, hi⟩ := clear_tasks hi
  exact hne ((h j task htask hwriter).2 i task' hi hown)

theorem Untouched.evolves (h : Untouched t) (htask : t.tasks j = some task)
    (hevolves : Evolves t j task t') : Untouched t' := by
  obtain ⟨progress, htasks⟩ := evolves_tasks hevolves
  obtain ⟨hopen, hown⟩ := h
  constructor
  · cases hevolves with
    | settles _ _ _ _ _ hclosed => exact hclosed.trans hopen
    | sends _ _ _ _ _ _ hclosed => exact hclosed.trans hopen
    | closes code reason hjob =>
        obtain ⟨-, message, hsend⟩ := hown j task htask
        cases hjob.symm.trans hsend
  · intro i task' hi
    rcases tasks_of_update htasks hi with ⟨rfl, rfl⟩ | ⟨-, hold⟩
    · exact hown i task htask
    · exact hown i task' hold

theorem Untouched.request (h : Untouched t) (message : ServerMessage) :
    Untouched (t.request encodes .handler (.send message)) := by
  have hevolves : Evolves t _ _ (t.request encodes .handler (.send message)) :=
    request_evolves .handler (.send message)
  obtain ⟨progress, htasks⟩ := evolves_tasks hevolves
  constructor
  · cases hevolves with
    | settles _ _ _ _ _ hclosed => exact hclosed.trans h.1
    | sends _ _ _ _ _ _ hclosed => exact hclosed.trans h.1
    | closes code reason hjob => cases hjob
  · intro i task' hi
    rcases tasks_of_update htasks hi with ⟨rfl, rfl⟩ | ⟨-, hold⟩
    · exact ⟨rfl, message, rfl⟩
    · exact h.2 i task' hold

theorem Untouched.clear (h : Untouched t) (j : Nat) : Untouched (t.clear j) :=
  ⟨h.1, fun i task hi => h.2 i task (clear_tasks hi).2⟩

theorem Untouched.writes (h : Untouched t) (hfree : Free t) (hok : t.Ok) {message : ServerMessage}
    (haccepts : accepts encodes message = true) :
    (t.request encodes .handler (.send message)).frames = t.frames ++ [message] := by
  have hidle (i : Nat) : t.tasks i = none := by
    cases htask : t.tasks i with
    | none => rfl
    | some task => exact absurd (h.2 i task htask).1 (hfree i task htask)
  have hopen : ¬ t.closed = true := by simp [h.1]
  unfold Transport.request
  dsimp only
  rw [if_pos (hok.available hidle)]
  unfold perform
  dsimp only
  rw [if_neg hopen, if_pos haccepts]
  rfl

end Writers

end JarvisCore.Gateway.Frames
