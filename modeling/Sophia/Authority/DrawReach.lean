import Sophia.Authority.LineFootprints
import Sophia.Authority.RejectedDraws

/-! What the runtime's draws can reach, whether they are accepted or not. -/
namespace Sophia.Authority

open Std Sophia.Protocol XAuthorityCpuBufferSnapshot XSoftwareBufferStore

/-- One of the region's rectangles has the pixel. -/
def Region.Contains (region : Region) (p : ℕ × ℕ) : Prop :=
  ∃ rect ∈ region.rects, Rect.Contains rect p

instance (region : Region) (p : ℕ × ℕ) : Decidable (Region.Contains region p) :=
  inferInstanceAs (Decidable (∃ rect ∈ region.rects, _))

theorem Region.contains_single {rect : Rect} {p : ℕ × ℕ} :
    Region.Contains (.single rect) p ↔ Rect.Contains rect p := by
  unfold Region.Contains Region.single
  split
  · rename_i hempty
    simp only [Rect.isEmpty, Bool.or_eq_true, decide_eq_true_eq, Int32.le_iff_toInt_le] at hempty
    have hzero : (0 : Int32).toInt = 0 := rfl
    simp only [Region.empty, List.not_mem_nil, false_and, exists_false, false_iff]
    unfold Rect.Contains
    omega
  · simp

theorem single_rects_subset {rect other : Rect} (h : other ∈ (Region.single rect).rects) :
    other ∈ [rect] := by
  unfold Region.single at h
  split at h
  · cases h
  · exact h

namespace FullRuntime

namespace DrawCall

/-- The drawable a draw is for. -/
def target : DrawCall → XResourceId
  | .coreDraw _ _ window _ _ | .lineDraw _ _ window _ _ | .putImage _ _ window _ _
  | .textDraw _ _ window _ _ _ _ _ | .clear _ _ window _ _ => window
  | .copyArea _ _ _ destination _ _ _ _ _ _ _ => destination

/-- The rectangles a draw paints in. -/
def footprint : DrawCall → List Rect
  | .coreDraw _ _ _ damage _ | .putImage _ _ _ damage _ => damage.rects
  | .copyArea _ _ _ _ _ _ dstX dstY width height _ => [copyRect dstX dstY width height]
  | .lineDraw _ _ _ points gc => (lineStamps points gc).map Stamp.rect
  | .textDraw _ _ _ x baseline text _ _ => [textDamage x baseline text]
  | .clear _ _ _ damage _ => damage.rects.head?.toList

end DrawCall

variable {runtime : FullRuntime} {transaction : TransactionId} {ns : NamespaceId}
  {target : XResourceId} {record : XWindowRecord} {kind : XDrawingUpdateKind} {damage : Region}
  {unpainted : XAuthorityResponsePacket} {size : Size} {store : XSoftwareBufferStore}
  {painted : Option XAuthorityCpuBufferUpdate × XSoftwareBufferStore}

theorem finishDrawingUpdate_buffers (update : XDrawingUpdate) :
    (runtime.finishDrawingUpdate update).2.softwareBuffers = runtime.softwareBuffers := by
  unfold finishDrawingUpdate
  split <;> rfl

/-- What was painted stays, whatever the answer is. -/
theorem conclude_buffers :
    (runtime.conclude transaction ns record target kind damage unpainted
      painted).2.softwareBuffers = painted.2 := by
  obtain ⟨update, store⟩ := painted
  cases update with
  | none => rfl
  | some update => exact finishDrawingUpdate_buffers _

/-- The store a draw starts from is no matter to its conclusion. -/
theorem conclude_store :
    conclude { runtime with softwareBuffers := store } transaction ns record target kind damage
      unpainted painted =
        runtime.conclude transaction ns record target kind damage unpainted painted := by
  obtain ⟨update, next⟩ := painted
  cases update <;> rfl

theorem conclude_unpainted (h : painted.1 = none) :
    (runtime.conclude transaction ns record target kind damage unpainted painted).1 =
      unpainted := by
  obtain ⟨update, store⟩ := painted
  cases h
  rfl

theorem drawLines_touchesOnly (points : List XPoint) (gc : XGraphicsContextValues) :
    store.TouchesOnly (store.drawLines target size points gc).2 target size
      ((lineStamps points gc).map Stamp.rect) := by
  by_cases hsized : Sized size
  · refine ⟨fun other hother => drawLines_other hother, fun p hchanged => ?_⟩
    rw [drawLines_pixel hsized] at hchanged
    by_contra hout
    by_cases hp : Holds size p
    · refine hchanged (stamped_of_uncovered fun stamp hstamp hat => hout ⟨hp, ?_⟩)
      exact ⟨stamp.rect, List.mem_map_of_mem hstamp, hat⟩
    · rw [stamped, if_neg fun h => hp h.1] at hchanged
      exact hchanged rfl
  · exact .of_sameBuffers (drawLines_of_not_sized hsized)

theorem paintImage_touchesOnly {rects : List Rect} (data : Option (List UInt8)) :
    store.TouchesOnly (paintImage store target size rects data).2 target size rects := by
  unfold paintImage
  split
  · rename_i data rect rest
    have hfirst : store.TouchesOnly (store.putImage target size rect data).2 target size
        (rect :: rest) := (putImage_touchesOnly rect data).mono (by simp)
    split
    · rename_i next hnext
      rw [hnext] at hfirst
      exact hfirst.trans (paintDamage_touchesOnly _ _)
    · exact hfirst
  · exact paintDamage_touchesOnly _ _

/-- A copy touches the rectangle it names, also where that is filled instead. -/
theorem applyCopyArea_touches {source destination : XResourceId} {srcX srcY dstX dstY : Int16}
    {width height : UInt16} {gc : XGraphicsContextValues}
    (hrecord : runtime.windows.get destination = some record) :
    runtime.softwareBuffers.TouchesOnly (runtime.applyCopyAreaWithGc transaction ns source
      destination srcX srcY dstX dstY width height gc).2.softwareBuffers destination record.size
      [copyRect dstX dstY width height] := by
  unfold applyCopyAreaWithGc
  split
  · exact .refl _ _ _ _
  · split
    · exact .refl _ _ _ _
    · rw [hrecord]
      dsimp only
      have htouches : runtime.softwareBuffers.TouchesOnly (runtime.softwareBuffers.copyArea source
          destination record.size (copyRect srcX srcY width height) dstX dstY gc).2 destination
          record.size [copyRect dstX dstY width height] :=
        copyArea_touchesOnly srcX srcY dstX dstY width height gc
      generalize runtime.softwareBuffers.copyArea source destination record.size
        (copyRect srcX srcY width height) dstX dstY gc = copied at htouches ⊢
      obtain ⟨update, next⟩ := copied
      cases update with
      | some update =>
        rw [conclude_buffers]
        exact htouches
      | none =>
        simp only [applyCoreDrawWithGc, hrecord, conclude_buffers]
        exact htouches.trans ((paintDamage_touchesOnly _ _).mono fun _ => single_rects_subset)

/-- Accepted or not, a draw changes no pixel outside its footprint. -/
theorem draw_touches (call : DrawCall) (hrecord : runtime.windows.get call.target = some record) :
    runtime.softwareBuffers.TouchesOnly (runtime.draw call).2.softwareBuffers call.target
      record.size call.footprint := by
  cases call with
  | coreDraw transaction ns window damage gc =>
    simp only [DrawCall.target] at hrecord
    simp only [draw, applyCoreDrawWithGc, hrecord, conclude_buffers]
    exact paintDamage_touchesOnly damage.rects gc
  | copyArea transaction ns source destination srcX srcY dstX dstY width height gc =>
    exact applyCopyArea_touches hrecord
  | lineDraw transaction ns window points gc =>
    simp only [DrawCall.target] at hrecord
    simp only [draw, applyLineDraw, hrecord, conclude_buffers]
    exact drawLines_touchesOnly points gc
  | putImage transaction ns window damage data =>
    simp only [DrawCall.target] at hrecord
    simp only [draw, applyPutImage, hrecord, conclude_buffers]
    exact paintImage_touchesOnly data
  | textDraw transaction ns window x baseline text isOpaque gc =>
    simp only [DrawCall.target] at hrecord
    simp only [draw, applyTextDraw, hrecord, conclude_buffers]
    exact drawText_touchesOnly x baseline text isOpaque gc
  | clear transaction ns window damage pixel =>
    simp only [DrawCall.target] at hrecord
    simp only [draw, applyClearWithPixel, hrecord, DrawCall.target, DrawCall.footprint]
    cases damage.rects with
    | nil => exact .refl _ _ _ _
    | cons rect rest =>
      dsimp only
      rw [conclude_buffers]
      exact clear_touchesOnly rect pixel

/-- Without a window there is nothing to draw on. -/
theorem draw_of_unknown {call : DrawCall} (hrecord : runtime.windows.get call.target = none) :
    (runtime.draw call).2 = runtime := by
  cases call with
  | copyArea transaction ns source destination srcX srcY dstX dstY width height gc =>
    simp only [DrawCall.target] at hrecord
    simp only [draw, applyCopyAreaWithGc, hrecord]
    split
    · rfl
    · split <;> rfl
  | _ =>
    simp only [DrawCall.target] at hrecord
    simp only [draw, applyCoreDrawWithGc, applyLineDraw, applyPutImage, applyTextDraw,
      applyClearWithPixel, hrecord]

end FullRuntime
end Sophia.Authority
