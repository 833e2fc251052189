import Mathlib.Data.Set.Card

namespace JarvisCore.Foundation.Overlays

universe u v

variable {K : Type u} {V : Type v}

/-- The upper map where it has a value, the lower one elsewhere. -/
def overlay (lower upper : K → Option V) : K → Option V := fun k => (upper k).or (lower k)

theorem overlay_of_none {lower upper : K → Option V} {k : K} (h : upper k = none) :
    overlay lower upper k = lower k := by
  rw [overlay, h, Option.none_or]

theorem overlay_congr {lower lower' upper : K → Option V}
    (hagree : ∀ k, upper k = none → lower k = lower' k) :
    overlay lower upper = overlay lower' upper := by
  funext k
  cases hupper : upper k with
  | none => rw [overlay_of_none hupper, overlay_of_none hupper, hagree k hupper]
  | some v => rw [overlay, overlay, hupper, Option.some_or, Option.some_or]

section Writes

variable [DecidableEq K]

/-- The values that the writes leave, the later ones in place of the earlier ones. -/
def written : List (K × V) → K → Option V
  | [], _ => none
  | (k', v) :: rest, k => (written rest k).or (if k = k' then some v else none)

theorem written_eq_none_iff {writes : List (K × V)} {k : K} :
    written writes k = none ↔ k ∉ writes.map Prod.fst := by
  induction writes with
  | nil => exact ⟨fun _ => List.not_mem_nil, fun _ => rfl⟩
  | cons w rest ih =>
      obtain ⟨k', v⟩ := w
      rw [written, Option.or_eq_none_iff, ih, List.map_cons, List.mem_cons, not_or, and_comm]
      apply and_congr_left'
      split <;> simp_all

theorem written_eq_some_iff {writes : List (K × V)} (hnodup : (writes.map Prod.fst).Nodup)
    {k : K} {v : V} : written writes k = some v ↔ (k, v) ∈ writes := by
  induction writes with
  | nil => simp [written]
  | cons w rest ih =>
      obtain ⟨k', v'⟩ := w
      rw [List.map_cons, List.nodup_cons] at hnodup
      rw [written, List.mem_cons, ← ih hnodup.2]
      by_cases hk : k = k'
      · subst hk
        rw [written_eq_none_iff.mpr hnodup.1, if_pos rfl, Option.none_or]
        simp [eq_comm]
      · rw [if_neg hk, Option.or_none]
        simp [hk]

theorem length_eq_encard_written {writes : List (K × V)} (hnodup : (writes.map Prod.fst).Nodup) :
    (writes.length : ℕ∞) = {k | written writes k ≠ none}.encard := by
  have hkeys : {k | written writes k ≠ none} = ((writes.map Prod.fst).toFinset : Set K) := by
    ext k
    rw [Set.mem_ofPred_eq, Ne, written_eq_none_iff, not_not, Finset.mem_coe, List.mem_toFinset]
  rw [hkeys, Set.encard_coe_eq_coe_finsetCard, List.toFinset_card_of_nodup hnodup,
    List.length_map]

theorem overlay_written_cons (m : K → Option V) (k' : K) (v : V) (rest : List (K × V)) :
    overlay m (written ((k', v) :: rest)) =
      overlay (fun k => if k = k' then some v else m k) (written rest) := by
  funext k
  simp only [overlay, written, Option.or_assoc]
  congr 1
  split
  · rfl
  · exact Option.none_or

end Writes

end JarvisCore.Foundation.Overlays
