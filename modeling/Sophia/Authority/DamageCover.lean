import Sophia.Authority.DrawReach

/-! Whether the damage a draw reports has every pixel that it changes. -/
namespace Sophia.Authority

open Std Sophia.Protocol XAuthorityCpuBufferSnapshot XSoftwareBufferStore

theorem textDamage_contained {x baseline : Int16} {text : List UInt8} {p : ℕ × ℕ}
    (h : Rect.Contains (textDamage x baseline text) p) :
    Rect.Contains { textDamage x baseline text with
      width := max (textDamage x baseline text).width 1 } p := by
  obtain ⟨⟨hleft, hright⟩, hrows⟩ := h
  have hwiden : (textDamage x baseline text).width.toInt ≤
      (max (textDamage x baseline text).width 1).toInt := by
    show _ ≤ (if (textDamage x baseline text).width ≤ 1 then 1 else _ : Int32).toInt
    split
    · rename_i hle
      exact Int32.le_iff_toInt_le.mp hle
    · exact le_rfl
  refine ⟨⟨hleft, ?_⟩, hrows⟩
  dsimp only
  omega

namespace FullRuntime

/-- No other drawable changes, and every pixel of the target that does, at the window's size, is in
the damage of a transaction that is emitted. -/
def DamageCovers (runtime : FullRuntime) (target : XResourceId)
    (answer : XAuthorityResponsePacket × FullRuntime) : Prop :=
  (∀ other, other ≠ target → answer.2.softwareBuffers.buffers[other]? =
    runtime.softwareBuffers.buffers[other]?) ∧
  ∀ size, (∀ record ∈ runtime.windows.get target, record.size = size) →
    ∀ p, answer.2.softwareBuffers.pixel target size p ≠
        runtime.softwareBuffers.pixel target size p →
      ∃ transaction ∈ answer.1.transactions, Region.Contains transaction.damage p

/-- The lines leave as they are the pixels of the window and the clip that are left of all points
or above them all, and every pixel if the buffer's generations are used up. -/
def LinesStay (runtime : FullRuntime) : DrawCall → Prop
  | .lineDraw _ _ window points gc => ∀ record ∈ runtime.windows.get window,
    Sized record.size → ∀ p, Holds record.size p → InClip gc p →
      (runtime.softwareBuffers.Renewable window →
        (∀ a ∈ points, (p.1 : ℤ) < a.x.toInt) ∨ ∀ a ∈ points, (p.2 : ℤ) < a.y.toInt) →
      combined gc (sourcesOn (lineStamps points gc) p)
          (runtime.softwareBuffers.pixel window record.size p) =
        runtime.softwareBuffers.pixel window record.size p
  | _ => True

variable {runtime : FullRuntime} {transaction : TransactionId} {ns : NamespaceId}
  {target : XResourceId} {record : XWindowRecord} {kind : XDrawingUpdateKind} {damage : Region}
  {unpainted : XAuthorityResponsePacket}
  {painted : Option XAuthorityCpuBufferUpdate × XSoftwareBufferStore}

theorem covers_of_same {answer : XAuthorityResponsePacket × FullRuntime}
    (h : answer.2.softwareBuffers = runtime.softwareBuffers) :
    runtime.DamageCovers target answer := by
  unfold DamageCovers
  rw [h]
  exact ⟨fun _ _ => rfl, fun _ _ _ hchanged => absurd rfl hchanged⟩

/-- An accepted update emits one transaction, with its damage. -/
theorem finishDrawingUpdate_damage {update : XDrawingUpdate}
    (haccepted : (runtime.finishDrawingUpdate update).1.outcome = .accepted) :
    ∃ built, (runtime.finishDrawingUpdate update).1.transactions = [built] ∧
      built.damage = update.damage := by
  rcases finishDrawingUpdate_cases runtime update with
    ⟨error, hrefused⟩ | ⟨built, windows, hbuilt, -, hanswer⟩
  · rw [hrefused] at haccepted
    cases haccepted
  · obtain ⟨-, -, -, -, hdamage, -⟩ := surfaceTransaction_eq_ok hbuilt
    exact ⟨built, by rw [hanswer], hdamage⟩

theorem conclude_damage (hsome : painted.1.isSome)
    (haccepted : (runtime.conclude transaction ns record target kind damage unpainted
      painted).1.outcome = .accepted) :
    ∃ built, (runtime.conclude transaction ns record target kind damage unpainted
      painted).1.transactions = [built] ∧ built.damage = damage := by
  obtain ⟨update, store⟩ := painted
  cases update with
  | none => cases hsome
  | some update => exact finishDrawingUpdate_damage haccepted

/-- The draw changes no buffer, or emits a transaction whose damage has all these rectangles. -/
def ReportsDamage (runtime : FullRuntime) (rects : List Rect)
    (answer : XAuthorityResponsePacket × FullRuntime) : Prop :=
  answer.2.softwareBuffers = runtime.softwareBuffers ∨
    ∃ built ∈ answer.1.transactions, ∀ rect ∈ rects, ∀ p, Rect.Contains rect p →
      Region.Contains built.damage p

/-- A draw that is rejected when it paints nothing reports its damage when it is accepted. -/
theorem reports_conclude {rects : List Rect}
    (hrects : ∀ rect ∈ rects, ∀ p, Rect.Contains rect p → Region.Contains damage p)
    (hunpainted : unpainted.outcome ≠ .accepted)
    (haccepted : (runtime.conclude transaction ns record target kind damage unpainted
      painted).1.outcome = .accepted) :
    runtime.ReportsDamage rects
      (runtime.conclude transaction ns record target kind damage unpainted painted) := by
  have hsome : painted.1.isSome := by
    rw [← Option.ne_none_iff_isSome]
    intro hnone
    rw [conclude_unpainted hnone] at haccepted
    exact hunpainted haccepted
  obtain ⟨built, hbuilt, hdamage⟩ := conclude_damage hsome haccepted
  exact .inr ⟨built, by rw [hbuilt]; exact List.mem_singleton_self _, hdamage ▸ hrects⟩

theorem reports_single {rect : Rect} : ∀ other ∈ [rect], ∀ p, Rect.Contains other p →
    Region.Contains (.single rect) p := by
  intro other hother p hcontains
  rw [Region.contains_single, ← List.mem_singleton.mp hother]
  exact hcontains

/-- The draws other than lines report their footprint. -/
theorem draw_reports {call : DrawCall} (hlines : ∀ transaction ns window points gc,
      call ≠ .lineDraw transaction ns window points gc)
    (hrecord : runtime.windows.get call.target = some record)
    (haccepted : (runtime.draw call).1.outcome = .accepted) :
    runtime.ReportsDamage call.footprint (runtime.draw call) := by
  cases call with
  | coreDraw transaction ns window damage gc =>
    simp only [DrawCall.target] at hrecord
    simp only [draw, applyCoreDrawWithGc, hrecord] at haccepted ⊢
    exact reports_conclude (fun rect hrect p hcontains => ⟨rect, hrect, hcontains⟩)
      (by simp [rejected]) haccepted
  | copyArea transaction ns source destination srcX srcY dstX dstY width height gc =>
    simp only [DrawCall.target] at hrecord
    simp only [draw, applyCopyAreaWithGc, hrecord] at haccepted ⊢
    cases hsource : runtime.validateDrawableAccess ns source with
    | error error => exact .inl rfl
    | ok _ =>
      rw [hsource] at haccepted
      dsimp only at haccepted ⊢
      split at haccepted
      · rename_i hpixmap
        rw [if_pos hpixmap]
        exact .inl rfl
      · rename_i hpixmap
        rw [if_neg hpixmap]
        generalize runtime.softwareBuffers.copyArea source destination record.size
          (copyRect srcX srcY width height) dstX dstY gc = copied at haccepted ⊢
        obtain ⟨update, next⟩ := copied
        cases update with
        | some update => exact reports_conclude reports_single (by simp [rejected]) haccepted
        | none =>
          -- What could not be copied is filled, and the damage is the rectangle either way.
          simp only [applyCoreDrawWithGc, hrecord, conclude_store] at haccepted ⊢
          exact reports_conclude reports_single (by simp [rejected]) haccepted
  | lineDraw transaction ns window points gc => exact absurd rfl (hlines _ _ _ _ _)
  | putImage transaction ns window damage data =>
    simp only [DrawCall.target] at hrecord
    simp only [draw, applyPutImage, hrecord] at haccepted ⊢
    exact reports_conclude (fun rect hrect p hcontains => ⟨rect, hrect, hcontains⟩)
      (by simp [rejected]) haccepted
  | textDraw transaction ns window x baseline text isOpaque gc =>
    simp only [DrawCall.target] at hrecord
    simp only [draw, applyTextDraw, hrecord] at haccepted ⊢
    refine reports_conclude (fun rect hrect p hcontains => ?_) (by simp [rejected]) haccepted
    rw [List.mem_singleton.mp hrect] at hcontains
    exact Region.contains_single.mpr (textDamage_contained hcontains)
  | clear transaction ns window damage pixel =>
    simp only [DrawCall.target] at hrecord
    simp only [draw, applyClearWithPixel, hrecord, DrawCall.footprint] at haccepted ⊢
    cases hrects : damage.rects with
    | nil => exact .inl rfl
    | cons rect rest =>
      rw [hrects] at haccepted
      refine reports_conclude (fun other hother p hcontains => ?_) (by simp [rejected]) haccepted
      rw [List.head?_cons, Option.toList_some, List.mem_singleton] at hother
      exact ⟨other, by rw [hrects, hother]; exact List.mem_cons_self, hcontains⟩

/-- So their damage has every pixel they change. -/
theorem covers_draw {call : DrawCall} (hlines : ∀ transaction ns window points gc,
      call ≠ .lineDraw transaction ns window points gc)
    (haccepted : (runtime.draw call).1.outcome = .accepted) :
    runtime.DamageCovers call.target (runtime.draw call) := by
  cases hrecord : runtime.windows.get call.target with
  | none => exact covers_of_same (by rw [draw_of_unknown hrecord])
  | some record =>
    have htouches := draw_touches call hrecord
    rcases draw_reports hlines hrecord haccepted with hsame | ⟨built, hbuilt, hdamage⟩
    · exact covers_of_same hsame
    · refine ⟨htouches.1, fun size hsize p hchanged => ⟨built, hbuilt, ?_⟩⟩
      obtain rfl := hsize record hrecord
      obtain ⟨-, rect, hrect, hcontains⟩ := htouches.2 p hchanged
      exact hdamage rect hrect p hcontains

section Lines

variable {points : List XPoint} {gc : XGraphicsContextValues}

theorem applyLineDraw_of_known (hrecord : runtime.windows.get target = some record) :
    runtime.applyLineDraw transaction ns target points gc =
      runtime.conclude transaction ns record target .coreDraw
        (.single (lineDamage points gc.lineWidth)) (accepted transaction)
        (runtime.softwareBuffers.drawLines target record.size points gc) := by
  rw [applyLineDraw, hrecord]

theorem applyLineDraw_pixel {p : ℕ × ℕ} (hrecord : runtime.windows.get target = some record)
    (hsized : Sized record.size) :
    (runtime.applyLineDraw transaction ns target points gc).2.softwareBuffers.pixel target
      record.size p = stamped record.size gc (lineStamps points gc) p
        (runtime.softwareBuffers.pixel target record.size p) := by
  rw [applyLineDraw_of_known hrecord, conclude_buffers, drawLines_pixel hsized]

/-- What an accepted line emits: nothing if nothing was finished, else the box of its points. -/
theorem applyLineDraw_emits (hrecord : runtime.windows.get target = some record)
    (haccepted : (runtime.applyLineDraw transaction ns target points gc).1.outcome = .accepted)
    {built : SurfaceTransaction}
    (hbuilt : built ∈ (runtime.applyLineDraw transaction ns target points gc).1.transactions) :
    (runtime.softwareBuffers.drawLines target record.size points gc).1.isSome ∧
      built.damage = .single (lineDamage points gc.lineWidth) := by
  rw [applyLineDraw_of_known hrecord] at haccepted hbuilt
  have hsome : (runtime.softwareBuffers.drawLines target record.size points gc).1.isSome := by
    rw [← Option.ne_none_iff_isSome]
    intro hnone
    rw [conclude_unpainted hnone] at hbuilt
    cases hbuilt
  obtain ⟨emitted, hemitted, hdamage⟩ := conclude_damage hsome haccepted
  rw [hemitted] at hbuilt
  exact ⟨hsome, List.mem_singleton.mp hbuilt ▸ hdamage⟩

theorem linesStay_of_covers
    (haccepted : (runtime.applyLineDraw transaction ns target points gc).1.outcome = .accepted)
    (hcovers : runtime.DamageCovers target
      (runtime.applyLineDraw transaction ns target points gc)) :
    runtime.LinesStay (.lineDraw transaction ns target points gc) := by
  intro record hrecord hsized p hp hin hside
  by_contra hchanged
  have hsize : ∀ other ∈ runtime.windows.get target, other.size = record.size := by
    intro other hother
    rw [Option.some.inj (hother.symm.trans hrecord)]
  obtain ⟨built, hbuilt, hdamage⟩ := hcovers.2 record.size hsize p (by
    rw [applyLineDraw_pixel hrecord hsized, stamped,
      if_pos ⟨hp, (pixelInClip_iff_inClip hp).mpr hin⟩]
    exact hchanged)
  obtain ⟨hsome, hreported⟩ := applyLineDraw_emits hrecord haccepted hbuilt
  rw [hreported, Region.contains_single, lineDamage_contains (inReach_of_changed hchanged)]
    at hdamage
  obtain ⟨⟨a, ha, hax⟩, b, hb, hby⟩ := hdamage
  obtain ⟨box, -, -, hrenew, -⟩ := drawLines_isSome.mp hsome
  rcases hside hrenew with hleft | habove
  · have hlow := hleft a ha
    omega
  · have hlow := habove b hb
    omega

theorem covers_of_linesStay
    (haccepted : (runtime.applyLineDraw transaction ns target points gc).1.outcome = .accepted)
    (hstay : runtime.LinesStay (.lineDraw transaction ns target points gc)) :
    runtime.DamageCovers target (runtime.applyLineDraw transaction ns target points gc) := by
  cases hrecord : runtime.windows.get target with
  | none =>
    rw [applyLineDraw, hrecord] at haccepted
    cases haccepted
  | some record =>
    have htouches := draw_touches (.lineDraw transaction ns target points gc) hrecord
    refine ⟨htouches.1, fun size hsize p hchanged => ?_⟩
    obtain rfl := hsize record hrecord
    have hsized : Sized record.size := by
      by_contra hsmall
      rw [applyLineDraw_of_known hrecord, conclude_buffers] at hchanged
      exact hchanged (pixel_congr (drawLines_of_not_sized hsmall target))
    rw [applyLineDraw_pixel hrecord hsized] at hchanged
    have hin : Holds record.size p ∧ pixelInClip gc p.1 p.2 := by
      by_contra hout
      rw [stamped, if_neg hout] at hchanged
      exact hchanged rfl
    rw [stamped, if_pos hin] at hchanged
    have hclip := (pixelInClip_iff_inClip hin.1).mp hin.2
    have hreach := inReach_of_changed hchanged
    have hrenew : runtime.softwareBuffers.Renewable target := by
      by_contra hlast
      exact hchanged (hstay record hrecord hsized p hin.1 hclip fun h => absurd h hlast)
    rw [applyLineDraw_of_known hrecord] at haccepted ⊢
    obtain ⟨built, hbuilt, hdamage⟩ :=
      conclude_damage (drawLines_isSome_of_inReach hsized hrenew hin.1 hreach) haccepted
    refine ⟨built, by rw [hbuilt]; exact List.mem_singleton_self _, ?_⟩
    rw [hdamage, Region.contains_single, lineDamage_contains hreach]
    by_contra hout
    refine hchanged (hstay record hrecord hsized p hin.1 hclip fun _ => ?_)
    rcases not_and_or.mp hout with h | h
    · push Not at h
      exact .inl h
    · push Not at h
      exact .inr h

/-- A line of one pixel's width is not wider than its box, and stays where its buffer can go on. -/
theorem linesStay_of_thin (hthin : gc.lineWidth.toNat ≤ 1)
    (hrenew : runtime.softwareBuffers.Renewable target) :
    runtime.LinesStay (.lineDraw transaction ns target points gc) := by
  intro record _ _ p _ _ hside
  by_contra hchanged
  obtain ⟨⟨a, ha, hleft⟩, -, ⟨b, hb, htop⟩, -⟩ := inReach_of_changed hchanged
  have hbrush : brush gc.lineWidth = 1 := by
    unfold brush
    omega
  rw [hbrush] at hleft htop
  rcases hside hrenew with h | h
  · have hax := h a ha
    omega
  · have hby := h b hb
    omega

end Lines

/-- In every reachable state, an accepted draw reports every pixel it changes exactly when it is no
line, or one that changes nothing left of all its points or above them all. -/
theorem damage_covers_iff (calls : List RuntimeCall) {call : DrawCall}
    (haccepted : ((after calls).draw call).1.outcome = .accepted) :
    (after calls).DamageCovers call.target ((after calls).draw call) ↔
      (after calls).LinesStay call := by
  cases call with
  | lineDraw transaction ns window points gc =>
    exact ⟨linesStay_of_covers haccepted, covers_of_linesStay haccepted⟩
  | coreDraw | copyArea | putImage | textDraw | clear =>
    refine iff_of_true (covers_draw (by simp) haccepted) ?_
    trivial

/-- A thin line on a window of one pixel is reported. -/
theorem damage_covers_iff_thin :
    (after paintedWindow).DamageCovers victim ((after paintedWindow).draw
      (.lineDraw ⟨3⟩ ⟨1⟩ victim [⟨0, 0⟩, ⟨0, 0⟩] { foreground := 0x0000ff })) :=
  (damage_covers_iff paintedWindow (by decide +kernel)).mpr
    (linesStay_of_thin (by decide) (by decide +kernel))

/-- Around a point just outside that window, three pixels wide: the window's pixel changes, and is
not in the damage. -/
def wideLine : DrawCall :=
  .lineDraw ⟨3⟩ ⟨1⟩ victim [⟨1, 1⟩, ⟨1, 1⟩] { lineWidth := 3, foreground := 0x0000ff }

theorem wide_line_unreported :
    (((after paintedWindow).draw wideLine).1.outcome = .accepted ∧
      (after paintedWindow).softwareBuffers.Kept victim ⟨1, 1⟩) ∧
      ¬ (after paintedWindow).DamageCovers victim ((after paintedWindow).draw wideLine) := by
  refine ⟨by decide +kernel, fun hcovers => ?_⟩
  obtain ⟨built, hbuilt, hdamage⟩ := hcovers.2 ⟨1, 1⟩ (by decide +kernel) (0, 0)
    (by decide +kernel)
  have hout : ∀ built ∈ ((after paintedWindow).draw wideLine).1.transactions,
      ¬ Region.Contains built.damage (0, 0) := by decide +kernel
  exact hout built hbuilt hdamage

end FullRuntime
end Sophia.Authority
