import Sophia.Authority.RuntimeCalls

/-! Which rejected draws leave the pixels alone: the paint comes before the checks. -/
namespace Sophia.Authority

open Std Sophia.Protocol

namespace XSoftwareBufferStore

variable {store : XSoftwareBufferStore} {drawable : XResourceId} {size : Size} {rect : Rect}
  {rects more : List Rect}

theorem Spares.mono (h : store.Spares drawable size more) (hsub : ∀ rect ∈ rects, rect ∈ more) :
    store.Spares drawable size rects :=
  h.imp_right fun ⟨hkept, hmiss⟩ => ⟨hkept, fun rect hrect => hmiss rect (hsub rect hrect)⟩

/-- An empty rectangle is left out of a region, and reaches nothing. -/
theorem meets_single :
    (∃ box ∈ (unionRects (Region.single rect).rects).toList, Meets size box) ↔
      Meets size rect := by
  unfold Region.single
  split
  · rename_i hempty
    have hmiss : ¬ Meets size rect := by
      rw [meets_iff]
      rintro ⟨⟨-, hwidth, -⟩, -, hheight, -⟩
      simp only [Rect.isEmpty, Bool.or_eq_true, decide_eq_true_eq, Int32.le_iff_toInt_le] at hempty
      have hzero : (0 : Int32).toInt = 0 := rfl
      omega
    simp [Region.empty, unionRects, hmiss]
  · rw [← meets_unionRects_single]
    simp

theorem Completes.single (h : store.Completes drawable size [rect]) :
    store.Completes drawable size (unionRects (Region.single rect).rects).toList := by
  refine ⟨h.1, h.2.1, fun hkept => meets_single.mpr ?_⟩
  obtain ⟨found, hfound, hmeets⟩ := h.2.2 hkept
  rw [List.mem_singleton.mp hfound] at hmeets
  exact hmeets

theorem Spares.single (h : store.Spares drawable size [rect]) :
    store.Spares drawable size
      ((unionRects (Region.single rect).rects).toList ++ (Region.single rect).rects) := by
  refine h.imp_right fun ⟨hkept, hmiss⟩ => ⟨hkept, fun box hbox => ?_⟩
  have hmiss := hmiss rect List.mem_cons_self
  rcases List.mem_append.mp hbox with hbox | hbox
  · exact fun hmeets => hmiss (meets_single.mp ⟨box, hbox, hmeets⟩)
  · unfold Region.single at hbox
    split at hbox
    · simp [Region.empty] at hbox
    · rw [List.mem_singleton.mp hbox]
      exact hmiss

end XSoftwareBufferStore

namespace FullRuntime

open XSoftwareBufferStore

variable {runtime : FullRuntime} {transaction : TransactionId} {ns : NamespaceId}
  {window : XResourceId} {record : XWindowRecord} {rects : List Rect}
  {data : Option (List UInt8)} {size : Size} {store : XSoftwareBufferStore}

/-- The checks that follow the painting let the update through. -/
def Admissible (runtime : FullRuntime) (transaction : TransactionId) (ns : NamespaceId)
    (window : XResourceId) : Prop :=
  transaction.isValid ∧ ns.isValid ∧ window.isValid ∧
    ∃ record ∈ runtime.windows.get window, record.namespaceId = ns ∧ record.surface.isValid ∧
      record.generation.toNat + 1 < UInt64.size

/-- Every draw that ends in an update passes the checks, and every other one reaches no pixel. -/
def PaintsSafely (runtime : FullRuntime) : DrawCall → Prop
  | .coreDraw transaction ns window damage _ => ∀ record ∈ runtime.windows.get window,
    runtime.softwareBuffers.Spares window record.size
        ((unionRects damage.rects).toList ++ damage.rects) ∨
      runtime.softwareBuffers.Completes window record.size (unionRects damage.rects).toList ∧
        runtime.Admissible transaction ns window
  | .copyArea transaction ns source destination srcX srcY dstX dstY width height _ =>
    (runtime.validateDrawableAccess ns source).isOk →
      ¬ (runtime.validatePixmapAccess ns destination).isOk →
        ∀ record ∈ runtime.windows.get destination,
          runtime.softwareBuffers.Spares destination record.size
              [copyRect dstX dstY width height] ∨
            runtime.softwareBuffers.CopyCompletes source destination record.size
                (copyRect srcX srcY width height) (copyRect dstX dstY width height) ∧
              runtime.Admissible transaction ns destination
  | .lineDraw transaction ns window points gc => ∀ record ∈ runtime.windows.get window,
    ∀ damage ∈ pointBounds points gc.lineWidth,
      runtime.softwareBuffers.Completes window record.size [damage] →
        runtime.Admissible transaction ns window
  | .putImage transaction ns window damage data => ∀ record ∈ runtime.windows.get window,
    runtime.softwareBuffers.Spares window record.size
        ((unionRects damage.rects).toList ++ damage.rects) ∨
      runtime.softwareBuffers.Completes window record.size
          ((unionRects damage.rects).toList ++
            if data.isSome then damage.rects.head?.toList else []) ∧
        runtime.Admissible transaction ns window
  | .textDraw transaction ns window x baseline text _ _ => ∀ record ∈ runtime.windows.get window,
    runtime.softwareBuffers.Spares window record.size [textDamage x baseline text] ∨
      runtime.softwareBuffers.Completes window record.size [textDamage x baseline text] ∧
        runtime.Admissible transaction ns window
  | .clear transaction ns window damage _ => ∀ record ∈ runtime.windows.get window,
    ∀ rect ∈ damage.rects.head?,
      runtime.softwareBuffers.Spares window record.size [rect] ∨
        runtime.softwareBuffers.Completes window record.size [rect] ∧
          runtime.Admissible transaction ns window

/-- If the answer is a rejection, all buffers and the last update are what they were. -/
def Untouched (runtime : FullRuntime) (answer : XAuthorityResponsePacket × FullRuntime) : Prop :=
  answer.1.outcome ≠ .accepted →
    runtime.softwareBuffers.SameBuffers answer.2.softwareBuffers ∧
      answer.2.lastCpuBufferUpdate = runtime.lastCpuBufferUpdate

theorem untouched_same (response : XAuthorityResponsePacket) :
    runtime.Untouched (response, runtime) := fun _ => ⟨.refl _, rfl⟩

theorem untouched_of_accepted {answer : XAuthorityResponsePacket × FullRuntime}
    (h : answer.1.outcome = .accepted) : runtime.Untouched answer := fun hrejected =>
  absurd h hrejected

theorem Untouched.of_same {answer : XAuthorityResponsePacket × FullRuntime}
    (hsame : runtime.softwareBuffers.SameBuffers store)
    (h : Untouched { runtime with softwareBuffers := store } answer) : runtime.Untouched answer :=
  fun hrejected => ⟨hsame.trans (h hrejected).1, (h hrejected).2⟩

/-- An admissible draw of a painted buffer is accepted. -/
theorem finishDrawingUpdate_accepted {update : XDrawingUpdate}
    (h : runtime.Admissible update.transaction update.requesterNamespace update.targetWindow)
    (hbuffer : update.buffer ≠ .none) (hrecord : runtime.windows.get update.targetWindow = some record)
    (hgeneration : update.previousCommittedGeneration = record.generation) :
    (runtime.finishDrawingUpdate update).1.outcome = .accepted := by
  obtain ⟨htransaction, hns, hwindow, found, hfound, hown, hsurface, hnext⟩ := h
  obtain rfl : found = record := Option.some.inj (hfound.symm.trans hrecord)
  have htransaction' :
      ∃ built, surfaceTransactionFromDrawingUpdate runtime.windows update = .ok built := by
    unfold surfaceTransactionFromDrawingUpdate
    rw [hrecord]
    simp [htransaction, hns, hwindow, hbuffer, hown, hsurface]
  obtain ⟨built, hbuilt⟩ := htransaction'
  have hadvanced : ∃ windows, runtime.windows.advanceGeneration update.targetWindow
      update.previousCommittedGeneration = .ok windows := by
    have hget : runtime.windows.windows[update.targetWindow]? = some found := hrecord
    unfold XWindowTable.advanceGeneration
    rw [hget, hgeneration]
    simp [hnext]
  obtain ⟨windows, hwindows⟩ := hadvanced
  unfold finishDrawingUpdate XAuthorityRuntime.finishDrawingUpdate
  rw [hbuilt, hwindows]
  rfl

/-- An update ends in its one transaction, or in a rejection. -/
theorem finishDrawingUpdate_cases (runtime : FullRuntime) (update : XDrawingUpdate) :
    (∃ error, runtime.finishDrawingUpdate update = (rejected update.transaction error, runtime)) ∨
      ∃ built windows, surfaceTransactionFromDrawingUpdate runtime.windows update = .ok built ∧
        runtime.windows.advanceGeneration update.targetWindow
          update.previousCommittedGeneration = .ok windows ∧
        (runtime.finishDrawingUpdate update).1 =
          { transaction := update.transaction, outcome := .accepted, transactions := [built] } := by
  rw [finishDrawingUpdate]
  cases hbase : runtime.toXAuthorityRuntime.finishDrawingUpdate update with
  | error error => exact Or.inl ⟨error, rfl⟩
  | ok answered =>
    simp only [XAuthorityRuntime.finishDrawingUpdate, Fallible.bind_eq_ok,
      Fallible.mapError_eq_ok, Fallible.pure_eq_ok] at hbase
    obtain ⟨built, hbuilt, windows, hwindows, rfl⟩ := hbase
    exact Or.inr ⟨built, windows, hbuilt, hwindows, rfl⟩

theorem surfaceTransaction_eq_ok {windows : XWindowTable} {update : XDrawingUpdate}
    {built : SurfaceTransaction}
    (h : surfaceTransactionFromDrawingUpdate windows update = .ok built) :
    update.transaction.isValid ∧ update.requesterNamespace.isValid ∧ update.targetWindow.isValid ∧
      built.targetBuffer = update.buffer ∧ built.damage = update.damage ∧
      ∃ record, windows.get update.targetWindow = some record ∧
        record.namespaceId = update.requesterNamespace ∧ record.surface.isValid := by
  rw [surfaceTransactionFromDrawingUpdate] at h
  split at h
  · cases h
  rename_i htransaction
  split at h
  · cases h
  rename_i hns
  split at h
  · cases h
  rename_i hwindow
  split at h
  · cases h
  split at h
  · cases h
  rename_i record hrecord
  split at h
  · cases h
  rename_i hown
  split at h
  · cases h
  rename_i hsurface
  cases h
  exact ⟨by simpa using htransaction, by simpa using hns, by simpa using hwindow, rfl, rfl, record,
    hrecord, not_not.mp hown, by simpa using hsurface⟩

/-- A draw that painted nothing leaves the store the same, and any other passes the checks. -/
theorem untouched_conclude {target : XResourceId} {kind : XDrawingUpdateKind} {damage : Region}
    {unpainted : XAuthorityResponsePacket}
    {painted : Option XAuthorityCpuBufferUpdate × XSoftwareBufferStore}
    (hrecord : runtime.windows.get target = some record)
    (hnone : painted.1 = none → unpainted.outcome ≠ .accepted →
      runtime.softwareBuffers.SameBuffers painted.2)
    (hsome : painted.1.isSome → runtime.Admissible transaction ns target) :
    runtime.Untouched (runtime.conclude transaction ns record target kind damage unpainted
      painted) := by
  obtain ⟨update, softwareBuffers⟩ := painted
  cases update with
  | none =>
    intro hrejected
    exact ⟨hnone rfl hrejected, rfl⟩
  | some update =>
    refine untouched_of_accepted (finishDrawingUpdate_accepted ?_ ?_ hrecord rfl)
    · exact hsome rfl
    · simp

/-- The two ways a safe draw ends. -/
theorem untouched_conclude_of {target : XResourceId} {kind : XDrawingUpdateKind} {damage : Region}
    {unpainted : XAuthorityResponsePacket}
    {painted : Option XAuthorityCpuBufferUpdate × XSoftwareBufferStore}
    (hrecord : runtime.windows.get target = some record)
    (h : painted.1 = none ∧ runtime.softwareBuffers.SameBuffers painted.2 ∨
      painted.1.isSome ∧ runtime.Admissible transaction ns target) :
    runtime.Untouched (runtime.conclude transaction ns record target kind damage unpainted
      painted) := by
  refine untouched_conclude hrecord (fun hnone _ => ?_) (fun hsome => ?_)
  · rcases h with ⟨-, hsame⟩ | ⟨hsome, -⟩
    · exact hsame
    · rw [hnone] at hsome
      cases hsome
  · rcases h with ⟨hnone, -⟩ | ⟨-, hadmissible⟩
    · rw [hnone] at hsome
      cases hsome
    · exact hadmissible

theorem untouched_coreDraw {damage : Region} {gc : XGraphicsContextValues}
    (h : runtime.PaintsSafely (.coreDraw transaction ns window damage gc)) :
    runtime.Untouched (runtime.applyCoreDrawWithGc transaction ns window damage gc) := by
  unfold applyCoreDrawWithGc
  cases hrecord : runtime.windows.get window with
  | none => exact untouched_same _
  | some record =>
    refine untouched_conclude_of hrecord ?_
    exact (h record hrecord).imp paintDamage_spares (And.imp_left paintDamage_isSome.mpr)

/-- A core draw that paints and passes the checks is accepted. -/
theorem coreDraw_accepted {damage : Region} {gc : XGraphicsContextValues}
    (hrecord : runtime.windows.get window = some record)
    (hcompletes : runtime.softwareBuffers.Completes window record.size
      (unionRects damage.rects).toList) (h : runtime.Admissible transaction ns window) :
    (runtime.applyCoreDrawWithGc transaction ns window damage gc).1.outcome = .accepted := by
  unfold applyCoreDrawWithGc
  rw [hrecord]
  dsimp only
  have hpainted : (runtime.softwareBuffers.paintDamage window record.size damage.rects gc).1.isSome :=
    paintDamage_isSome.mpr hcompletes
  generalize runtime.softwareBuffers.paintDamage window record.size damage.rects gc = painted
    at hpainted
  obtain ⟨update, next⟩ := painted
  cases update with
  | none => cases hpainted
  | some update => exact finishDrawingUpdate_accepted h (by simp) hrecord rfl

theorem paintImage_spares
    (h : store.Spares window size ((unionRects rects).toList ++ rects)) :
    (paintImage store window size rects data).1 = none ∧
      store.SameBuffers (paintImage store window size rects data).2 := by
  unfold paintImage
  split
  · rename_i data rect rest
    have hfirst : store.Spares window size [rect] := h.mono (by simp)
    obtain ⟨hnone, hsame⟩ : (store.putImage window size rect data).1 = none ∧
        store.SameBuffers (store.putImage window size rect data).2 := putImage_spares hfirst
    generalize store.putImage window size rect data = painted at hnone hsame ⊢
    obtain ⟨update, next⟩ := painted
    obtain rfl : update = none := hnone
    obtain ⟨hnone, hrest⟩ : (next.paintDamage window size (rect :: rest) {}).1 = none ∧
        next.SameBuffers (next.paintDamage window size (rect :: rest) {}).2 :=
      paintDamage_spares (hsame.spares.mpr h)
    exact ⟨hnone, hsame.trans hrest⟩
  · exact paintDamage_spares h

theorem paintImage_completes
    (h : store.Completes window size
      ((unionRects rects).toList ++ if data.isSome then rects.head?.toList else [])) :
    (paintImage store window size rects data).1.isSome := by
  unfold paintImage
  split
  · rename_i data rect rest
    by_cases hfirst : store.Completes window size [rect]
    · have hsome : (store.putImage window size rect data).1.isSome := putImage_isSome.mpr hfirst
      generalize store.putImage window size rect data = painted at hsome ⊢
      obtain ⟨update, next⟩ := painted
      cases update with
      | none => cases hsome
      | some update => rfl
    · -- The image missed the buffer, so it is the whole region that meets it.
      obtain ⟨hsized, hrenew, hmeets⟩ := h
      have hmissed : store.Kept window size ∧ ¬ Meets size rect := by
        by_contra hno
        refine hfirst ⟨hsized, hrenew, fun hkept => ⟨rect, List.mem_cons_self, ?_⟩⟩
        by_contra hmiss
        exact hno ⟨hkept, hmiss⟩
      obtain ⟨hkept, hmiss⟩ := hmissed
      obtain ⟨hnone, hsame⟩ : (store.putImage window size rect data).1 = none ∧
          store.SameBuffers (store.putImage window size rect data).2 :=
        putImage_spares (.inr ⟨hkept, by simpa using hmiss⟩)
      generalize store.putImage window size rect data = painted at hnone hsame ⊢
      obtain ⟨update, next⟩ := painted
      obtain rfl : update = none := hnone
      refine paintDamage_isSome.mpr (hsame.completes.mpr ⟨hsized, hrenew, fun _ => ?_⟩)
      obtain ⟨found, hfound, hmeet⟩ := hmeets hkept
      rcases List.mem_append.mp hfound with hunion | hhead
      · exact ⟨found, hunion, hmeet⟩
      · simp only [Option.isSome_some, if_true, List.head?_cons, Option.toList_some,
          List.mem_singleton] at hhead
        rw [hhead] at hmeet
        exact absurd hmeet hmiss
  · rename_i hnot
    refine paintDamage_isSome.mpr ?_
    cases data with
    | none => simpa using h
    | some data =>
      cases rects with
      | nil => simpa using h
      | cons rect rest => exact absurd rfl (hnot data rect rest rfl)

theorem untouched_copyArea {source destination : XResourceId} {srcX srcY dstX dstY : Int16}
    {width height : UInt16} {gc : XGraphicsContextValues}
    (h : runtime.PaintsSafely (.copyArea transaction ns source destination srcX srcY dstX dstY
      width height gc)) :
    runtime.Untouched (runtime.applyCopyAreaWithGc transaction ns source destination srcX srcY
      dstX dstY width height gc) := by
  unfold applyCopyAreaWithGc
  cases hsource : runtime.validateDrawableAccess ns source with
  | error error => exact untouched_same _
  | ok _ =>
    dsimp only
    split
    · exact untouched_same _
    rename_i hpixmap
    cases hrecord : runtime.windows.get destination with
    | none => exact untouched_same _
    | some record =>
      have h := h (by rw [hsource]; rfl) hpixmap record hrecord
      dsimp only
      generalize hcopied : runtime.softwareBuffers.copyArea source destination record.size
        (copyRect srcX srcY width height) dstX dstY gc = copied
      obtain ⟨update, next⟩ := copied
      rcases h with hspares | ⟨hcompletes, hadmissible⟩
      · obtain ⟨hnone, hsame⟩ : (update, next).1 = none ∧
            runtime.softwareBuffers.SameBuffers (update, next).2 := by
          rw [← hcopied]
          exact copyArea_spares hspares
        obtain rfl : update = none := hnone
        refine .of_same hsame (untouched_coreDraw fun found hfound => .inl ?_)
        obtain rfl : record = found := Option.some.inj (hrecord.symm.trans hfound)
        exact (hsame.spares.mpr hspares).single
      · cases update with
        | some update =>
          exact untouched_conclude_of hrecord (.inr ⟨rfl, hadmissible⟩)
        | none =>
          have hnext := copyArea_completes gc hcompletes
          rw [hcopied] at hnext
          rcases hnext with hsome | hnext
          · cases hsome
          · -- The destination is filled in place of the copy, and that ends in an update.
            refine untouched_of_accepted (coreDraw_accepted hrecord ?_ ?_)
            · exact hnext.single
            · exact hadmissible

/-- A draw that is safe for the state it is made in leaves no trace when it is rejected. -/
theorem untouched_draw {call : DrawCall} (h : runtime.PaintsSafely call) :
    runtime.Untouched (runtime.draw call) := by
  cases call with
  | coreDraw transaction ns window damage gc => exact untouched_coreDraw h
  | copyArea transaction ns source destination srcX srcY dstX dstY width height gc =>
    exact untouched_copyArea h
  | lineDraw transaction ns window points gc =>
    simp only [draw, applyLineDraw]
    cases hrecord : runtime.windows.get window with
    | none => exact untouched_same _
    | some record =>
      refine untouched_conclude hrecord (fun _ hrejected => (hrejected rfl).elim) (fun hsome => ?_)
      obtain ⟨damage, hdamage, hcompletes⟩ := drawLines_isSome.mp hsome
      exact h record hrecord damage hdamage hcompletes
  | putImage transaction ns window damage data =>
    simp only [draw, applyPutImage]
    cases hrecord : runtime.windows.get window with
    | none => exact untouched_same _
    | some record =>
      refine untouched_conclude_of hrecord ?_
      exact (h record hrecord).imp paintImage_spares (And.imp_left paintImage_completes)
  | textDraw transaction ns window x baseline text isOpaque gc =>
    simp only [draw, applyTextDraw]
    cases hrecord : runtime.windows.get window with
    | none => exact untouched_same _
    | some record =>
      refine untouched_conclude_of hrecord ?_
      exact (h record hrecord).imp drawText_spares (And.imp_left drawText_isSome.mpr)
  | clear transaction ns window damage pixel =>
    simp only [draw, applyClearWithPixel]
    cases hrecord : runtime.windows.get window with
    | none => exact untouched_same _
    | some record =>
      have h := h record hrecord
      cases hrects : damage.rects with
      | nil => exact untouched_same _
      | cons rect rest =>
        have h := h rect (by simp [hrects])
        exact untouched_conclude_of hrecord (h.imp clear_spares (And.imp_left clear_isSome.mpr))

/-- From any reachable state, a rejected draw that is safe there changes no pixel. -/
theorem rejected_draw_untouched (calls : List RuntimeCall) {call : DrawCall}
    (h : (after calls).PaintsSafely call) : (after calls).Untouched ((after calls).draw call) :=
  untouched_draw h

section Intrusion

instance (runtime : FullRuntime) (transaction : TransactionId) (ns : NamespaceId)
    (window : XResourceId) : Decidable (runtime.Admissible transaction ns window) :=
  inferInstanceAs (Decidable (_ ∧ _ ∧ _ ∧ ∃ record ∈ runtime.windows.get window, _))

/-- A window of one pixel, of the first namespace. -/
def victim : XResourceId := .new 0x400001 1

def fill (transaction : UInt64) (ns : NamespaceId) (x : Int32) (pixel : UInt32) : DrawCall :=
  .coreDraw ⟨transaction⟩ ns victim ⟨[⟨x, 0, 1, 1⟩]⟩ { foreground := pixel }

/-- The first namespace opens the window and paints it. -/
def paintedWindow : List RuntimeCall :=
  [.plain (.apply ⟨⟨1⟩, ⟨1⟩, .createWindow victim ⟨1, 1⟩ ⟨0, 0, 1, 1⟩ ⟨none, none⟩ 1⟩) rfl,
    .draw (fill 2 ⟨1⟩ 0 0xff0000)]

/-- The second namespace draws beside the window: it is refused and reaches no pixel. -/
theorem rejected_draw_untouched_beside :
    ((after paintedWindow).draw (fill 3 ⟨2⟩ 1 0x0000ff)).1.outcome =
        .rejected .invalidResource ∧
      (after paintedWindow).Untouched ((after paintedWindow).draw (fill 3 ⟨2⟩ 1 0x0000ff)) := by
  refine ⟨by decide +kernel, rejected_draw_untouched paintedWindow ?_⟩
  show ∀ record ∈ (after paintedWindow).windows.get victim, _
  decide +kernel

/-- It draws on the window: it is refused, and the pixel is its own. -/
theorem rejected_draw_paints :
    ((after paintedWindow).draw (fill 3 ⟨2⟩ 0 0x0000ff)).1.outcome =
        .rejected .crossNamespaceDenied ∧
      ¬ (after paintedWindow).Untouched ((after paintedWindow).draw (fill 3 ⟨2⟩ 0 0x0000ff)) := by
  have hrefused : ((after paintedWindow).draw (fill 3 ⟨2⟩ 0 0x0000ff)).1.outcome =
      .rejected .crossNamespaceDenied := by decide +kernel
  refine ⟨hrefused, fun h => ?_⟩
  have hkept := (h (by rw [hrefused]; decide)).1 victim
  revert hkept
  decide +kernel

end Intrusion
end FullRuntime
end Sophia.Authority
