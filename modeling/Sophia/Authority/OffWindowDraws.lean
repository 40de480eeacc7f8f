import Sophia.Authority.DrawReach

/-! Draws beside a window: who accepts them, and whether its buffer matters. -/
namespace Sophia.Authority

open Std Sophia.Protocol XAuthorityCpuBufferSnapshot XSoftwareBufferStore

namespace XSoftwareBufferStore

variable {store : XSoftwareBufferStore} {drawable : XResourceId} {size : Size} {rects : List Rect}
  {damage : Option Rect} {change : XAuthorityCpuBufferSnapshot → XAuthorityCpuBufferSnapshot}

/-- A buffer that cannot go on is still there after painting, and still cannot. -/
theorem paint_exhausted
    (hchange : ∀ buffer : XAuthorityCpuBufferSnapshot, buffer.Repainted (change buffer))
    (h : ¬ store.Renewable drawable) :
    (store.paint drawable size damage change).1 = none ∧
      ¬ (store.paint drawable size damage change).2.Renewable drawable := by
  have hnone : ¬ (store.paint drawable size damage change).1.isSome := by
    rw [paint_isSome hchange]
    exact fun hcompletes => h hcompletes.2.1
  refine ⟨Option.not_isSome_iff_eq_none.mp hnone, ?_⟩
  unfold paint at hnone ⊢
  dsimp only at hnone ⊢
  cases hensure : store.allocateHandle.2.ensure drawable size store.allocateHandle.1 with
  | none => exact h
  | some result =>
    obtain ⟨buffer, replaced⟩ := result
    obtain ⟨-, -, -, -, hgeneration⟩ := ensure_eq_some hensure
    rw [hensure] at hnone
    dsimp only at hnone ⊢
    rw [finish_of_none hnone]
    intro hrenew
    refine h (hgeneration.mpr ?_)
    have hlast := hrenew (change buffer) (by simp)
    rwa [(hchange buffer).generation] at hlast

end XSoftwareBufferStore

namespace FullRuntime

/-- The checks that do not look at the buffers let the draw through. -/
def Permitted (runtime : FullRuntime) : DrawCall → Prop
  | .coreDraw transaction ns window _ _ | .lineDraw transaction ns window _ _
  | .putImage transaction ns window _ _ | .textDraw transaction ns window _ _ _ _ _
  | .clear transaction ns window _ _ => runtime.Admissible transaction ns window
  | .copyArea transaction ns source destination _ _ _ _ _ _ _ =>
    (runtime.validateDrawableAccess ns source).isOk ∧
      runtime.Admissible transaction ns destination

/-- The runtime as it would be with this buffer for the window, or with none. -/
def withBuffer (runtime : FullRuntime) (window : XResourceId)
    (buffer : Option XAuthorityCpuBufferSnapshot) : FullRuntime :=
  { runtime with softwareBuffers :=
    { runtime.softwareBuffers with buffers := match buffer with
      | none => runtime.softwareBuffers.buffers.erase window
      | some buffer => runtime.softwareBuffers.buffers.insert window buffer } }

/-- The draw is accepted and changes no pixel, and would be accepted just the same with any other
buffer of the window's size that can go on, or with none. -/
structure OffWindowNoOp (runtime : FullRuntime) (call : DrawCall) (size : Size) : Prop where
  accepted : (runtime.draw call).1.outcome = .accepted
  others : ∀ other, other ≠ call.target →
    (runtime.draw call).2.softwareBuffers.buffers[other]? = runtime.softwareBuffers.buffers[other]?
  unchanged : ∀ p, (runtime.draw call).2.softwareBuffers.pixel call.target size p =
    runtime.softwareBuffers.pixel call.target size p
  independent : ∀ buffer : Option XAuthorityCpuBufferSnapshot,
    (∀ found ∈ buffer, found.size = size ∧ found.generation.toNat + 1 < UInt64.size) →
      (((runtime.withBuffer call.target buffer).draw call).1.outcome = .accepted ↔
        (runtime.draw call).1.outcome = .accepted)

/-- Lines, copies to a pixmap and clearing nothing need no pixel of the window. -/
def Unconditional (runtime : FullRuntime) : DrawCall → Prop
  | .lineDraw .. => True
  | .copyArea _ ns _ destination _ _ _ _ _ _ _ => (runtime.validatePixmapAccess ns destination).isOk
  | .clear _ _ _ damage _ => damage.rects = []
  | _ => False

/-- The box that fills and images report in place of their rectangles. -/
def DrawCall.box : DrawCall → Option Rect
  | .coreDraw _ _ _ damage _ | .putImage _ _ _ damage _ => unionRects damage.rects
  | _ => none

/-- The draw needs no pixel, or the box it reports reaches a window that can be painted on. -/
def AcceptedBeside (runtime : FullRuntime) (size : Size) (call : DrawCall) : Prop :=
  runtime.Unconditional call ∨ Sized size ∧ runtime.softwareBuffers.Renewable call.target ∧
    ∃ box ∈ call.box, Meets size box

variable {runtime : FullRuntime} {transaction : TransactionId} {ns : NamespaceId}
  {target window : XResourceId} {record : XWindowRecord} {kind : XDrawingUpdateKind}
  {damage : Region} {unpainted : XAuthorityResponsePacket} {size : Size} {call : DrawCall}
  {store : XSoftwareBufferStore} {rects : List Rect} {buffer : Option XAuthorityCpuBufferSnapshot}
  {painted : Option XAuthorityCpuBufferUpdate × XSoftwareBufferStore}

theorem conclude_accepted (hadmissible : runtime.Admissible transaction ns target)
    (hrecord : runtime.windows.get target = some record)
    (h : painted.1.isSome ∨ unpainted.outcome = .accepted) :
    (runtime.conclude transaction ns record target kind damage unpainted
      painted).1.outcome = .accepted := by
  obtain ⟨update, next⟩ := painted
  cases update with
  | none =>
    rcases h with h | h
    · cases h
    · exact h
  | some update => exact finishDrawingUpdate_accepted hadmissible (by simp) hrecord rfl

theorem conclude_refused (hnone : painted.1 = none) (h : unpainted.outcome ≠ .accepted) :
    (runtime.conclude transaction ns record target kind damage unpainted
      painted).1.outcome ≠ .accepted := by
  rw [conclude_unpainted hnone]
  exact h

/-- Where no pixel is reached, not even by the box, a draw that needs one is refused. -/
theorem draw_refused (hrecord : runtime.windows.get call.target = some record)
    (h : ¬ runtime.Unconditional call)
    (hspares : runtime.softwareBuffers.Spares call.target record.size
      (call.box.toList ++ call.footprint)) :
    (runtime.draw call).1.outcome ≠ .accepted := by
  cases call with
  | coreDraw transaction ns window damage gc =>
    simp only [DrawCall.target] at hrecord
    simp only [draw, applyCoreDrawWithGc, hrecord]
    exact conclude_refused (paintDamage_spares hspares).1 (by simp [rejected])
  | copyArea transaction ns source destination srcX srcY dstX dstY width height gc =>
    simp only [DrawCall.target] at hrecord
    simp only [Unconditional] at h
    simp only [draw, applyCopyAreaWithGc, hrecord, if_neg h]
    split
    · simp [rejected]
    · have hspares : runtime.softwareBuffers.Spares destination record.size
          [copyRect dstX dstY width height] := hspares
      have hcopied : (runtime.softwareBuffers.copyArea source destination record.size
            (copyRect srcX srcY width height) dstX dstY gc).1 = none ∧
          runtime.softwareBuffers.SameBuffers (runtime.softwareBuffers.copyArea source destination
            record.size (copyRect srcX srcY width height) dstX dstY gc).2 := copyArea_spares hspares
      generalize runtime.softwareBuffers.copyArea source destination record.size
        (copyRect srcX srcY width height) dstX dstY gc = copied at hcopied ⊢
      obtain ⟨update, next⟩ := copied
      obtain ⟨rfl, hsame⟩ := hcopied
      simp only [applyCoreDrawWithGc, hrecord]
      exact conclude_refused (paintDamage_spares (hsame.spares.mpr hspares).single).1
        (by simp [rejected])
  | lineDraw transaction ns window points gc => exact absurd trivial h
  | putImage transaction ns window damage data =>
    simp only [DrawCall.target] at hrecord
    simp only [draw, applyPutImage, hrecord]
    exact conclude_refused (paintImage_spares hspares).1 (by simp [rejected])
  | textDraw transaction ns window x baseline text isOpaque gc =>
    simp only [DrawCall.target] at hrecord
    simp only [draw, applyTextDraw, hrecord]
    exact conclude_refused (drawText_spares hspares).1 (by simp [rejected])
  | clear transaction ns window damage pixel =>
    simp only [DrawCall.target] at hrecord
    simp only [Unconditional] at h
    simp only [draw, applyClearWithPixel, hrecord]
    simp only [DrawCall.box, DrawCall.footprint] at hspares
    cases hrects : damage.rects with
    | nil => exact absurd hrects h
    | cons rect rest =>
      rw [hrects] at hspares
      exact conclude_refused (clear_spares hspares).1 (by simp [rejected])

/-- A fill or an image of a buffer that cannot go on is refused. -/
theorem draw_exhausted (hrecord : runtime.windows.get call.target = some record)
    (hlast : ¬ runtime.softwareBuffers.Renewable call.target) (hbox : call.box.isSome) :
    (runtime.draw call).1.outcome ≠ .accepted := by
  cases call with
  | coreDraw transaction ns window damage gc =>
    simp only [DrawCall.target] at hrecord hlast
    simp only [draw, applyCoreDrawWithGc, hrecord]
    refine conclude_refused (paint_exhausted ?_ hlast).1 (by simp [rejected])
    exact fun buffer => .foldl (fun _ _ => repainted_fillRect _ _ _) _ buffer
  | putImage transaction ns window damage data =>
    simp only [DrawCall.target] at hrecord hlast
    simp only [draw, applyPutImage, hrecord]
    refine conclude_refused ?_ (by simp [rejected])
    have hfill : ∀ store : XSoftwareBufferStore, ¬ store.Renewable window →
        (store.paintDamage window record.size damage.rects {}).1 = none :=
      fun store hlast => (paint_exhausted
        (fun buffer => .foldl (fun _ _ => repainted_fillRect _ _ _) _ buffer) hlast).1
    unfold paintImage
    split
    · rename_i data rect rest hrects
      obtain ⟨hnone, hnext⟩ : (runtime.softwareBuffers.putImage window record.size rect data).1 =
            none ∧ ¬ (runtime.softwareBuffers.putImage window record.size rect
              data).2.Renewable window :=
        paint_exhausted (fun _ => repainted_copyXrgb8888 _ _) hlast
      generalize runtime.softwareBuffers.putImage window record.size rect data = painted
        at hnone hnext ⊢
      obtain ⟨update, next⟩ := painted
      obtain rfl : update = none := hnone
      exact hfill next hnext
    · exact hfill _ hlast
  | _ => cases hbox

/-- With the checks passed, what needs no pixel or reports one of the window is accepted. -/
theorem draw_accepted (hrecord : runtime.windows.get call.target = some record)
    (hpermitted : runtime.Permitted call) (h : runtime.AcceptedBeside record.size call) :
    (runtime.draw call).1.outcome = .accepted := by
  cases call with
  | coreDraw transaction ns window damage gc =>
    rcases h with h | ⟨hsized, hrenew, box, hbox, hmeets⟩
    · exact h.elim
    · have hbox : unionRects damage.rects = some box := hbox
      have hcompletes : runtime.softwareBuffers.Completes window record.size
          (unionRects damage.rects).toList :=
        ⟨hsized, hrenew, fun _ => ⟨box, by simpa using hbox, hmeets⟩⟩
      exact coreDraw_accepted hrecord hcompletes hpermitted
  | copyArea transaction ns source destination srcX srcY dstX dstY width height gc =>
    rcases h with h | ⟨-, -, box, hbox, -⟩
    · have h : (runtime.validatePixmapAccess ns destination).isOk := h
      obtain ⟨hsource, -⟩ := hpermitted
      simp only [draw, applyCopyAreaWithGc]
      cases haccess : runtime.validateDrawableAccess ns source with
      | error error =>
        rw [haccess] at hsource
        cases hsource
      | ok _ =>
        dsimp only
        rw [if_pos h]
        rfl
    · cases hbox
  | lineDraw transaction ns window points gc =>
    simp only [DrawCall.target] at hrecord
    simp only [draw, applyLineDraw, hrecord]
    exact conclude_accepted hpermitted hrecord (.inr rfl)
  | putImage transaction ns window damage data =>
    rcases h with h | ⟨hsized, hrenew, box, hbox, hmeets⟩
    · exact h.elim
    · have hbox : unionRects damage.rects = some box := hbox
      simp only [DrawCall.target] at hrecord
      simp only [draw, applyPutImage, hrecord]
      refine conclude_accepted hpermitted hrecord (.inl (paintImage_completes ?_))
      exact ⟨hsized, hrenew, fun _ =>
        ⟨box, List.mem_append_left _ (by simpa using hbox), hmeets⟩⟩
  | textDraw transaction ns window x baseline text isOpaque gc =>
    rcases h with h | ⟨-, -, box, hbox, -⟩
    · exact h.elim
    · cases hbox
  | clear transaction ns window damage pixel =>
    rcases h with h | ⟨-, -, box, hbox, -⟩
    · simp only [DrawCall.target] at hrecord
      simp only [Unconditional] at h
      simp only [draw, applyClearWithPixel, hrecord, h]
      rfl
    · cases hbox

section Buffers

@[simp] theorem windows_withBuffer : (runtime.withBuffer window buffer).windows = runtime.windows :=
  rfl

@[simp] theorem get_withBuffer :
    (runtime.withBuffer window buffer).softwareBuffers.buffers[window]? = buffer := by
  cases buffer <;> simp [withBuffer]

/-- No check that comes before or after the painting looks at the buffers. -/
theorem permitted_withBuffer (h : runtime.Permitted call) :
    (runtime.withBuffer window buffer).Permitted call := by
  cases call <;> exact h

theorem unconditional_withBuffer :
    (runtime.withBuffer window buffer).Unconditional call ↔ runtime.Unconditional call := by
  cases call <;> exact Iff.rfl

theorem acceptedBeside_withBuffer
    (hbuffer : ∀ found ∈ buffer, found.generation.toNat + 1 < UInt64.size)
    (h : runtime.AcceptedBeside size call) :
    (runtime.withBuffer call.target buffer).AcceptedBeside size call := by
  rcases h with h | ⟨hsized, -, hbox⟩
  · exact .inl (unconditional_withBuffer.mpr h)
  · refine .inr ⟨hsized, fun found hfound => ?_, hbox⟩
    rw [get_withBuffer] at hfound
    exact hbuffer found hfound

/-- Some buffer of the window's size, or having none, keeps rectangles beside it from painting. -/
theorem exists_spared (runtime : FullRuntime) (window : XResourceId)
    (hmiss : ∀ rect ∈ rects, ¬ Meets size rect) :
    ∃ buffer : Option XAuthorityCpuBufferSnapshot,
      (∀ found ∈ buffer, found.size = size ∧ found.generation.toNat + 1 < UInt64.size) ∧
        (runtime.withBuffer window buffer).softwareBuffers.Spares window size rects := by
  by_cases hsized : Sized size
  · refine ⟨some (blank 1 window size 0 hsized), ?_, .inr ⟨?_, hmiss⟩⟩
    · rintro found ⟨⟩
      exact ⟨rfl, show (0 : UInt64).toNat + 1 < UInt64.size by decide⟩
    · exact ⟨blank 1 window size 0 hsized, get_withBuffer, rfl⟩
  · exact ⟨none, by simp, .inl hsized⟩

end Buffers

/-- What misses the window and is not accepted for its box is refused by one buffer at least. -/
theorem acceptedBeside_of_noOp (hrecord : runtime.windows.get call.target = some record)
    (hmiss : ∀ rect ∈ call.footprint, ¬ Meets record.size rect)
    (h : runtime.OffWindowNoOp call record.size) : runtime.AcceptedBeside record.size call := by
  by_cases hneeds : runtime.Unconditional call
  · exact .inl hneeds
  by_cases hbox : ∃ box ∈ call.box, Meets record.size box
  · refine .inr ⟨?_, ?_, hbox⟩
    · by_contra hsized
      exact draw_refused hrecord hneeds (.inl hsized) h.accepted
    · by_contra hlast
      obtain ⟨box, hbox, -⟩ := hbox
      exact draw_exhausted hrecord hlast (Option.isSome_of_mem hbox) h.accepted
  · -- The boxes miss as well, so a buffer already there makes the same draw fail.
    have hmissed : ∀ rect ∈ call.box.toList ++ call.footprint, ¬ Meets record.size rect := by
      intro rect hrect hmeets
      rcases List.mem_append.mp hrect with hrect | hrect
      · exact hbox ⟨rect, Option.mem_toList.mp hrect, hmeets⟩
      · exact hmiss rect hrect hmeets
    obtain ⟨buffer, hbuffer, hspares⟩ := exists_spared runtime call.target hmissed
    have haccepted := (h.independent buffer hbuffer).mpr h.accepted
    have hneeds' : ¬ (runtime.withBuffer call.target buffer).Unconditional call := fun h =>
      hneeds (unconditional_withBuffer.mp h)
    have hrecord' : (runtime.withBuffer call.target buffer).windows.get call.target = some record :=
      hrecord
    exact (draw_refused hrecord' hneeds' hspares haccepted).elim

theorem noOp_of_acceptedBeside (hrecord : runtime.windows.get call.target = some record)
    (hpermitted : runtime.Permitted call)
    (hmiss : ∀ rect ∈ call.footprint, ¬ Meets record.size rect)
    (h : runtime.AcceptedBeside record.size call) : runtime.OffWindowNoOp call record.size := by
  have htouches := draw_touches call hrecord
  have haccepted := draw_accepted hrecord hpermitted h
  refine ⟨haccepted, htouches.1, htouches.pixel_eq hmiss, fun buffer hbuffer => ?_⟩
  · have hother : ((runtime.withBuffer call.target buffer).draw call).1.outcome = .accepted :=
      draw_accepted hrecord (permitted_withBuffer hpermitted)
        (acceptedBeside_withBuffer (fun found hfound => (hbuffer found hfound).2) h)
    exact iff_of_true hother haccepted

/-- In any reachable state a permitted draw beside its window is a no-op, whatever buffer the
window has, exactly when it needs no pixel or reports a box that reaches the window. -/
theorem off_window_noop_iff (calls : List RuntimeCall) {call : DrawCall} {record : XWindowRecord}
    (hrecord : (after calls).windows.get call.target = some record)
    (hpermitted : (after calls).Permitted call)
    (hmiss : ∀ rect ∈ call.footprint, ¬ Meets record.size rect) :
    (after calls).OffWindowNoOp call record.size ↔
      (after calls).AcceptedBeside record.size call :=
  ⟨acceptedBeside_of_noOp hrecord hmiss, noOp_of_acceptedBeside hrecord hpermitted hmiss⟩

section Beside

instance (runtime : FullRuntime) (call : DrawCall) : Decidable (runtime.Permitted call) :=
  match call with
  | .coreDraw .. | .lineDraw .. | .putImage .. | .textDraw .. | .clear .. =>
    inferInstanceAs (Decidable (Admissible ..))
  | .copyArea .. => inferInstanceAs (Decidable (_ ∧ Admissible ..))

theorem victim_record (calls : List RuntimeCall)
    (h : ((after calls).windows.get victim).map XWindowRecord.size = some ⟨1, 1⟩) :
    ∃ record, (after calls).windows.get victim = some record ∧ record.size = ⟨1, 1⟩ := by
  obtain ⟨record, hrecord, hsize⟩ := Option.map_eq_some_iff.mp h
  exact ⟨record, hrecord, hsize⟩

/-- A line beside a window of one pixel is accepted and paints nothing. -/
def sideLine : DrawCall := .lineDraw ⟨3⟩ ⟨1⟩ victim [⟨5, 5⟩, ⟨7, 5⟩] {}

theorem side_line_noop : (after paintedWindow).OffWindowNoOp sideLine ⟨1, 1⟩ := by
  obtain ⟨record, hrecord, hsize⟩ := victim_record paintedWindow (by decide +kernel)
  have hrecord : (after paintedWindow).windows.get sideLine.target = some record := hrecord
  have hmiss : ∀ rect ∈ sideLine.footprint, ¬ Meets record.size rect := by
    rw [hsize]
    decide +kernel
  have hnoop := (off_window_noop_iff paintedWindow hrecord (by decide +kernel) hmiss).mpr
    (.inl trivial)
  rwa [hsize] at hnoop

/-- The owner fills beside its window: refused where the window was painted before, and accepted
where this is its first draw. -/
theorem fill_beside_refused :
    (after paintedWindow).Permitted (fill 3 ⟨1⟩ 1 0x0000ff) ∧
      (∀ rect ∈ (fill 3 ⟨1⟩ 1 0x0000ff).footprint, ¬ Meets ⟨1, 1⟩ rect) ∧
      ((after paintedWindow).draw (fill 3 ⟨1⟩ 1 0x0000ff)).1.outcome =
        .rejected .invalidResource ∧
      ((after (paintedWindow.take 1)).draw (fill 3 ⟨1⟩ 1 0x0000ff)).1.outcome = .accepted ∧
      ¬ (after paintedWindow).OffWindowNoOp (fill 3 ⟨1⟩ 1 0x0000ff) ⟨1, 1⟩ := by
  have hrefused : ((after paintedWindow).draw (fill 3 ⟨1⟩ 1 0x0000ff)).1.outcome =
      .rejected .invalidResource := by decide +kernel
  refine ⟨by decide +kernel, by decide +kernel, hrefused, by decide +kernel, fun h => ?_⟩
  have haccepted := h.accepted
  rw [hrefused] at haccepted
  cases haccepted

end Beside

end FullRuntime
end Sophia.Authority
