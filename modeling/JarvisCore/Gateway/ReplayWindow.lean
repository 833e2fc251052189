import JarvisCore.Gateway.Handlers

namespace JarvisCore.Gateway.ReplayWindow

open JarvisCore.Domain.Values
open JarvisCore.Domain.Errors
open JarvisCore.Gateway.Handlers

variable {maxlen : Nat} {accepted : List UUID} {ids : SeenIds} {messageId : UUID}

/-- The identifiers that may not come again; the latest accepted one stands first. -/
def window (maxlen : Nat) (accepted : List UUID) : List UUID := accepted.take maxlen

structure Remembers (maxlen : Nat) (ids : SeenIds) (accepted : List UUID) : Prop where
  ordered : ids.ordered = (window maxlen accepted).reverse
  seen : ids.seen = (window maxlen accepted).toFinset
  nodup : (window maxlen accepted).Nodup

theorem remembers_empty (maxlen : Nat) : Remembers maxlen .empty [] where
  ordered := by simp [SeenIds.empty, window]
  seen := by simp [SeenIds.empty, window]
  nodup := by simp [window]

theorem window_cons (hmaxlen : 0 < maxlen) (messageId : UUID) (accepted : List UUID) :
    window maxlen (messageId :: accepted) = messageId :: accepted.take (maxlen - 1) := by
  obtain ⟨n, rfl⟩ := Nat.exists_eq_succ_of_ne_zero hmaxlen.ne'
  rfl

theorem take_pred_of_short (hshort : (window maxlen accepted).length < maxlen) :
    accepted.take (maxlen - 1) = window maxlen accepted := by
  have hlength : accepted.length < maxlen := by
    rw [window, List.length_take] at hshort
    omega
  rw [window, List.take_of_length_le hlength.le, List.take_of_length_le (by omega)]

theorem window_full (hmaxlen : 0 < maxlen) (hfull : (window maxlen accepted).length = maxlen) :
    ∃ oldest, window maxlen accepted = accepted.take (maxlen - 1) ++ [oldest] := by
  have hlength : maxlen ≤ accepted.length := by
    rw [window, List.length_take] at hfull
    omega
  have hbound : maxlen - 1 < accepted.length := by omega
  refine ⟨accepted[maxlen - 1], ?_⟩
  have htake := List.take_concat_get' accepted (maxlen - 1) (by omega)
  rw [Nat.sub_add_cancel hmaxlen] at htake
  exact htake.symm

theorem mem_seen_iff (h : Remembers maxlen ids accepted) :
    messageId ∈ ids.seen ↔ messageId ∈ window maxlen accepted := by
  rw [h.seen, List.mem_toFinset]

theorem rememberMessage_replayed (h : Remembers maxlen ids accepted)
    (hreplayed : messageId ∈ window maxlen accepted) :
    rememberMessage maxlen messageId ids = .error (.valueError "message ID was replayed") := by
  unfold rememberMessage
  rw [if_pos ((mem_seen_iff h).mpr hreplayed)]

theorem erase_oldest {rest : List UUID} {oldest : UUID} (hnodup : (rest ++ [oldest]).Nodup) :
    (rest ++ [oldest]).toFinset.erase oldest = rest.toFinset := by
  have hold : oldest ∉ rest := by
    intro hmem
    exact (List.nodup_append.mp hnodup).2.2 oldest hmem oldest (List.mem_singleton_self _) rfl
  ext messageId
  simp only [Finset.mem_erase, List.mem_toFinset, List.mem_append, List.mem_singleton]
  constructor
  · rintro ⟨hne, hmem | heq⟩
    · exact hmem
    · exact absurd heq hne
  · intro hmem
    exact ⟨fun heq => hold (heq ▸ hmem), .inl hmem⟩

theorem rememberMessage_short (hshort : ids.ordered.length < maxlen) (hnew : messageId ∉ ids.seen) :
    rememberMessage maxlen messageId ids =
      .ok ⟨ids.ordered ++ [messageId], insert messageId ids.seen⟩ := by
  have hdrop : (ids.ordered ++ [messageId]).length - maxlen = 0 := by
    rw [List.length_append, List.length_singleton]
    omega
  unfold rememberMessage
  rw [if_neg hnew]
  dsimp only
  rw [hdrop, List.drop_zero]
  cases hordered : ids.ordered with
  | nil => rfl
  | cons oldest rest =>
      have hne : (oldest :: rest).length ≠ maxlen := hordered ▸ hshort.ne
      dsimp only
      rw [if_neg hne]

theorem rememberMessage_full {oldest : UUID} {rest : List UUID}
    (hordered : ids.ordered = oldest :: rest) (hfull : ids.ordered.length = maxlen)
    (hnew : messageId ∉ ids.seen) : rememberMessage maxlen messageId ids =
      .ok ⟨rest ++ [messageId], insert messageId (ids.seen.erase oldest)⟩ := by
  have hdrop : (ids.ordered ++ [messageId]).length - maxlen = 1 := by
    rw [List.length_append, List.length_singleton]
    omega
  unfold rememberMessage
  rw [if_neg hnew]
  dsimp only
  rw [hdrop, hordered]
  dsimp only
  rw [if_pos (hordered ▸ hfull)]
  rfl

theorem rememberMessage_accepted (hmaxlen : 0 < maxlen) (h : Remembers maxlen ids accepted)
    (hnew : messageId ∉ window maxlen accepted) :
    ∃ ids', rememberMessage maxlen messageId ids = .ok ids' ∧
      Remembers maxlen ids' (messageId :: accepted) := by
  have hseen : messageId ∉ ids.seen := fun hmem => hnew ((mem_seen_iff h).mp hmem)
  have hlength : ids.ordered.length = (window maxlen accepted).length := by
    rw [h.ordered, List.length_reverse]
  have hwindow := window_cons hmaxlen messageId accepted
  rcases Nat.lt_or_eq_of_le (List.length_take_le maxlen accepted) with hshort | hfull
  · rw [take_pred_of_short hshort] at hwindow
    refine ⟨_, rememberMessage_short (hlength ▸ hshort) hseen, ?_, ?_, ?_⟩
    · rw [hwindow, List.reverse_cons, h.ordered]
    · rw [hwindow, List.toFinset_cons, h.seen]
    · rw [hwindow]
      exact List.nodup_cons.mpr ⟨hnew, h.nodup⟩
  · obtain ⟨oldest, hsplit⟩ := window_full hmaxlen hfull
    have hordered : ids.ordered = oldest :: (accepted.take (maxlen - 1)).reverse := by
      rw [h.ordered, hsplit, List.reverse_append]
      rfl
    have hnodup : (accepted.take (maxlen - 1) ++ [oldest]).Nodup := hsplit ▸ h.nodup
    have hrest : messageId ∉ accepted.take (maxlen - 1) := by
      intro hmem
      exact hnew (hsplit ▸ List.mem_append_left _ hmem)
    refine ⟨_, rememberMessage_full hordered (hlength.trans hfull) hseen, ?_, ?_, ?_⟩
    · rw [hwindow, List.reverse_cons]
    · rw [hwindow, List.toFinset_cons, h.seen, hsplit, erase_oldest hnodup]
    · rw [hwindow]
      exact List.nodup_cons.mpr ⟨hrest, hnodup.of_append_left⟩

/-- The containers of a connection, and the identifiers accepted so far. -/
structure Accepted where
  ids : SeenIds
  accepted : List UUID

def Accepted.start : Accepted := ⟨.empty, []⟩

/-- A call of `_remember_message`; it raises before it changes a container. -/
def Accepted.remember (maxlen : Nat) (s : Accepted) (messageId : UUID) : Accepted :=
  match rememberMessage maxlen messageId s.ids with
  | .ok ids => ⟨ids, messageId :: s.accepted⟩
  | .error _ => s

def Accepted.rejects (maxlen : Nat) (s : Accepted) (messageId : UUID) : Bool :=
  match rememberMessage maxlen messageId s.ids with
  | .ok _ => false
  | .error _ => true

theorem remember_remembers (hmaxlen : 0 < maxlen) {s : Accepted}
    (h : Remembers maxlen s.ids s.accepted) (messageId : UUID) :
    Remembers maxlen (s.remember maxlen messageId).ids (s.remember maxlen messageId).accepted := by
  unfold Accepted.remember
  by_cases hreplayed : messageId ∈ window maxlen s.accepted
  · rw [rememberMessage_replayed h hreplayed]
    exact h
  · obtain ⟨ids, hok, hafter⟩ := rememberMessage_accepted hmaxlen h hreplayed
    rw [hok]
    exact hafter

theorem rejects_iff (hmaxlen : 0 < maxlen) {s : Accepted} (h : Remembers maxlen s.ids s.accepted) :
    s.rejects maxlen messageId = true ↔ messageId ∈ window maxlen s.accepted := by
  unfold Accepted.rejects
  by_cases hreplayed : messageId ∈ window maxlen s.accepted
  · simp [rememberMessage_replayed h hreplayed, hreplayed]
  · obtain ⟨ids, hok, -⟩ := rememberMessage_accepted hmaxlen h hreplayed
    simp [hok, hreplayed]

theorem run_remembers (hmaxlen : 0 < maxlen) (messageIds : List UUID) :
    Remembers maxlen (messageIds.foldl (Accepted.remember maxlen) .start).ids
      (messageIds.foldl (Accepted.remember maxlen) .start).accepted := by
  have hall (s : Accepted) (h : Remembers maxlen s.ids s.accepted) :
      Remembers maxlen (messageIds.foldl (Accepted.remember maxlen) s).ids
        (messageIds.foldl (Accepted.remember maxlen) s).accepted := by
    induction messageIds generalizing s with
    | nil => exact h
    | cons messageId messageIds ih => exact ih _ (remember_remembers hmaxlen h messageId)
  exact hall .start (remembers_empty maxlen)

/-- Whatever has come in, an identifier is rejected if and only if it is among the latest
accepted ones, a full window back; the oldest of the deque still is, and an older one no
longer. The set is that of the deque, which has no duplicates and is no longer than the
window. -/
theorem rejects_latest (hmaxlen : 1 ≤ maxlen) (messageIds : List UUID) (messageId : UUID) :
    let s := messageIds.foldl (Accepted.remember maxlen) .start
    (s.rejects maxlen messageId = true ↔
      messageId ∈ s.accepted.take (min maxlen s.accepted.length)) ∧
    (s.rejects maxlen messageId = true → (s.remember maxlen messageId).ids = s.ids) ∧
    (∀ oldest ∈ s.ids.ordered.head?, s.rejects maxlen oldest = true) ∧
    (s.rejects maxlen messageId = false →
      (s.remember maxlen messageId).accepted = messageId :: s.accepted) ∧
    s.ids.seen = s.ids.ordered.toFinset ∧ s.ids.ordered.Nodup ∧ s.ids.ordered.length ≤ maxlen := by
  intro s
  have h : Remembers maxlen s.ids s.accepted := run_remembers hmaxlen messageIds
  refine ⟨?_, ?_, ?_, ?_, ?_, ?_, ?_⟩
  · rw [rejects_iff hmaxlen h, window, ← List.take_eq_take_min]
  · intro hrejects
    have hreplayed := (rejects_iff hmaxlen h).mp hrejects
    rw [Accepted.remember, rememberMessage_replayed h hreplayed]
  · intro oldest holdest
    apply (rejects_iff hmaxlen h).mpr
    have hmem : oldest ∈ s.ids.ordered := List.mem_of_mem_head? holdest
    rw [h.ordered] at hmem
    exact List.mem_reverse.mp hmem
  · intro haccepts
    have hnew : messageId ∉ window maxlen s.accepted := by
      intro hmem
      rw [(rejects_iff hmaxlen h).mpr hmem] at haccepts
      cases haccepts
    obtain ⟨ids, hok, -⟩ := rememberMessage_accepted hmaxlen h hnew
    rw [Accepted.remember, hok]
  · rw [h.seen, h.ordered, List.toFinset_reverse]
  · rw [h.ordered]
    exact List.nodup_reverse.mpr h.nodup
  · rw [h.ordered, List.length_reverse, window]
    exact List.length_take_le _ _

/-- With a window of two, the second of three messages is rejected and the first accepted
again. -/
theorem rejects_latest_two :
    let ids : List UUID := [⟨1⟩, ⟨2⟩, ⟨3⟩]
    let s := ids.foldl (Accepted.remember 2) .start
    1 ≤ 2 ∧ s.rejects 2 ⟨2⟩ = true ∧ s.rejects 2 ⟨1⟩ = false ∧
      (s.remember 2 ⟨1⟩).accepted = ⟨1⟩ :: s.accepted := by
  refine ⟨by decide, by decide, by decide, ?_⟩
  exact (rejects_latest (by decide) [⟨1⟩, ⟨2⟩, ⟨3⟩] ⟨1⟩).2.2.2.1 (by decide)

end JarvisCore.Gateway.ReplayWindow
