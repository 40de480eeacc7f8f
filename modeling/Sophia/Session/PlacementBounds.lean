import Sophia.Protocol.Output
import Sophia.Session.LiveLayout

/-! When the live session takes the placements of a layout, in terms of the numbers. -/
namespace Sophia.Session

open Std Sophia.Protocol Sophia.Engine

variable {bounds geometry : Rect} {layout : PersistentLiveLayout}
  {transaction : LayoutTransaction Transform}

/-- A rectangle is within the bounds when no edge of the bounds cuts it off and all four far edges
are numbers of the machine. -/
theorem rectIsWithin_iff : rectIsWithin bounds geometry = true ↔
    (I32.Fits (bounds.x.toInt + bounds.width.toInt) ∧
        I32.Fits (geometry.x.toInt + geometry.width.toInt) ∧
        bounds.x.toInt ≤ geometry.x.toInt ∧
        geometry.x.toInt + geometry.width.toInt ≤ bounds.x.toInt + bounds.width.toInt) ∧
      I32.Fits (bounds.y.toInt + bounds.height.toInt) ∧
        I32.Fits (geometry.y.toInt + geometry.height.toInt) ∧
        bounds.y.toInt ≤ geometry.y.toInt ∧
        geometry.y.toInt + geometry.height.toInt ≤ bounds.y.toInt + bounds.height.toInt := by
  rw [rectIsWithin]
  constructor
  · intro h
    split at h
    · rename_i right bottom far low hright hbottom hfar hlow
      rw [checkedAddInt32_eq_some] at hright hbottom hfar hlow
      simp only [Bool.and_eq_true, decide_eq_true_eq, Int32.le_iff_toInt_le] at h
      obtain ⟨⟨⟨hx, hy⟩, hr⟩, hb⟩ := h
      rw [← hright, ← hbottom, ← hfar, ← hlow]
      exact ⟨⟨I32.fits_toInt right, I32.fits_toInt far, hx, hr⟩, I32.fits_toInt bottom,
        I32.fits_toInt low, hy, hb⟩
    · cases h
  · rintro ⟨⟨hright, hfar, hx, hr⟩, hbottom, hlow, hy, hb⟩
    rw [checkedAddInt32_of_fits hright, checkedAddInt32_of_fits hbottom,
      checkedAddInt32_of_fits hfar, checkedAddInt32_of_fits hlow]
    simp only [Bool.and_eq_true, decide_eq_true_eq, Int32.le_iff_toInt_le, I32.toInt_ofInt hright,
      I32.toInt_ofInt hbottom, I32.toInt_ofInt hfar, I32.toInt_ofInt hlow]
    exact ⟨⟨⟨hx, hy⟩, hr⟩, hb⟩

/-- A size that the session asks a client for. -/
def Requestable (size : Size) : Prop :=
  (0 < size.width.toInt ∧ size.width.toInt ≤ 65535) ∧
    0 < size.height.toInt ∧ size.height.toInt ≤ 65535

/-- Where every placement is one the session takes, and the layout knows all surfaces, only a size
can be turned down. -/
theorem validate_of_placed
    (hplaced : ∀ placement ∈ transaction.renderPositions, placement.surface ∈ layout.layers ∧
      placement.geometry.isEmpty = false ∧ rectIsWithin bounds placement.geometry = true)
    (hsizes : ∀ request ∈ transaction.requestedSizes, request.surface ∈ layout.layers)
    (hfocus : ∀ surface, transaction.focus = some surface → surface ∈ layout.layers) :
    validateLiveWmTransaction transaction layout bounds ≠ .error .invalidPlacement ∧
      (validateLiveWmTransaction transaction layout bounds = .ok () ↔
        ∀ request ∈ transaction.requestedSizes, Requestable request.size) := by
  have hall : (transaction.renderPositions.all fun placement =>
      layout.layers.contains placement.surface && !placement.geometry.isEmpty &&
        rectIsWithin bounds placement.geometry) = true := by
    refine List.all_eq_true.mpr fun placement hp => ?_
    obtain ⟨hknown, hempty, hwithin⟩ := hplaced placement hp
    rw [hempty, hwithin, ExtTreeMap.contains_iff_mem.mpr hknown]
    rfl
  have hfocused : (transaction.focus.any fun surface => !layout.layers.contains surface) =
      false := by
    cases hf : transaction.focus with
    | none => rfl
    | some surface => simpa using hfocus surface hf
  have hrequests : (transaction.requestedSizes.all fun request =>
      layout.layers.contains request.surface && 0 < request.size.width &&
        0 < request.size.height && request.size.width ≤ 65535 && request.size.height ≤ 65535) =
          true ↔ ∀ request ∈ transaction.requestedSizes, Requestable request.size := by
    rw [List.all_eq_true]
    refine forall₂_congr fun request hr => ?_
    have hknown := ExtTreeMap.contains_iff_mem.mpr (hsizes request hr)
    simp only [hknown, Bool.true_and, Bool.and_eq_true, decide_eq_true_eq,
      Int32.lt_iff_toInt_lt, Int32.le_iff_toInt_le, Requestable]
    change ((0 < _ ∧ 0 < _) ∧ _ ≤ 65535) ∧ _ ≤ 65535 ↔ _
    omega
  rw [validateLiveWmTransaction, hall, ← hrequests, hfocused]
  generalize transaction.requestedSizes.all _ = taken
  cases taken <;> simp

end Sophia.Session
