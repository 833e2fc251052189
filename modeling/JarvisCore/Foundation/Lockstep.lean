import Mathlib.Data.List.Forall2

namespace JarvisCore.Foundation.Lockstep

universe u

structure Machine (Call Reply : Type u) where
  State : Type u
  answer : State → Call → State × Reply

variable {Call Reply : Type u}

namespace Machine

def replies (M : Machine Call Reply) : M.State → List Call → List Reply
  | _, [] => []
  | s, call :: calls => (M.answer s call).2 :: M.replies (M.answer s call).1 calls

end Machine

/-- Each call meets a condition on the calls before it, the latest one first. -/
def Meets (condition : List Call → Call → Prop) : List Call → List Call → Prop
  | _, [] => True
  | earlier, call :: calls => condition earlier call ∧ Meets condition (call :: earlier) calls

variable {M N : Machine Call Reply}

/-- A relation that every call keeps, and under which the replies agree, makes all replies
of the two objects agree. It may speak of the calls made so far. -/
theorem replies_agree {condition : List Call → Call → Prop}
    (R : List Call → M.State → N.State → Prop) (Agree : Reply → Reply → Prop)
    (hstep : ∀ earlier s t call, R earlier s t → condition earlier call →
      R (call :: earlier) (M.answer s call).1 (N.answer t call).1 ∧
        Agree (M.answer s call).2 (N.answer t call).2)
    {earlier calls : List Call} {s : M.State} {t : N.State} (hrelated : R earlier s t)
    (hmeets : Meets condition earlier calls) :
    List.Forall₂ Agree (M.replies s calls) (N.replies t calls) := by
  induction calls generalizing earlier s t with
  | nil => exact .nil
  | cons call calls ih =>
      obtain ⟨hcondition, hmeets⟩ := hmeets
      obtain ⟨hrelated, hagree⟩ := hstep earlier s t call hrelated hcondition
      exact .cons hagree (ih hrelated hmeets)

theorem meets_of_nodup {Key : Type*} (key : Call → Option Key) {earlier calls : List Call}
    (h : (calls.filterMap key).Nodup)
    (hearlier : ∀ k ∈ calls.filterMap key, k ∉ earlier.filterMap key) :
    Meets (fun earlier call => ∀ k ∈ key call, k ∉ earlier.filterMap key) earlier calls := by
  induction calls generalizing earlier with
  | nil => trivial
  | cons call calls ih =>
      cases hkey : key call with
      | none =>
          rw [List.filterMap_cons_none hkey] at h hearlier
          refine ⟨by simp [hkey], ih h ?_⟩
          rw [List.filterMap_cons_none hkey]
          exact hearlier
      | some k =>
          rw [List.filterMap_cons_some hkey] at h hearlier
          rw [List.nodup_cons] at h
          constructor
          · intro k' hk'
            obtain rfl : k = k' := Option.some.inj (hkey.symm.trans hk')
            exact hearlier k List.mem_cons_self
          · refine ih h.2 ?_
            intro k' hk'
            rw [List.filterMap_cons_some hkey, List.mem_cons, not_or]
            refine ⟨?_, hearlier k' (List.mem_cons_of_mem _ hk')⟩
            rintro rfl
            exact h.1 hk'

end JarvisCore.Foundation.Lockstep
