import Sophia.Authority.SoftwareBuffers

/-! What the drawing calls of the store can reach, measured by the damage they report. -/
namespace Sophia.Authority

open Std Sophia.Protocol

theorem toInt_saturateInt32 (n : ℤ) : (saturateInt32 n).toInt = saturated n := by
  unfold saturateInt32 saturated
  exact Int32.toInt_ofInt_of_le (by omega) (by omega)

theorem toInt_ofInt_toInt (n : Int32) : (Int32.ofInt n.toInt).toInt = n.toInt :=
  Int32.toInt_ofInt_of_le n.le_toInt n.toInt_lt

theorem saturated_cases (n : ℤ) :
    n < -2 ^ 31 ∧ saturated n = -2 ^ 31 ∨ (-2 ^ 31 ≤ n ∧ n < 2 ^ 31) ∧ saturated n = n ∨
      2 ^ 31 ≤ n ∧ saturated n = 2 ^ 31 - 1 := by
  unfold saturated
  omega

/-- A stretch inside another one covers nothing the larger one does not. -/
theorem Covers.mono {start extent start' extent' limit : ℤ} (h : Covers start extent limit)
    (hextent : 0 < extent') (hstart : start' ≤ start) (hsmall : start' < 2 ^ 31 - 1)
    (hend : 0 < saturated (start + extent) → 0 < start' + extent') :
    Covers start' extent' limit := by
  obtain ⟨hlimit, -, hlow, hhigh, -⟩ := h
  have hend := hend hhigh
  have hcut := saturated_cases (start' + extent')
  exact ⟨hlimit, hextent, by omega, by omega, by omega⟩

/-- The box around one rectangle reaches what the rectangle does. -/
theorem meets_unionRects_single {size : Size} {rect : Rect} :
    (∃ box ∈ unionRects [rect], Meets size box) ↔ Meets size rect := by
  have hx := rect.x.le_toInt
  have hx' := rect.x.toInt_lt
  have hy := rect.y.le_toInt
  have hy' := rect.y.toInt_lt
  simp only [unionRects, List.foldl_nil, Option.mem_def, Option.some.injEq, exists_eq_left',
    meets_iff, toInt_saturateInt32, toInt_ofInt_toInt, Rect.edges]
  -- Cutting off at the largest coordinate once more changes nothing.
  have hagain : ∀ start extent limit : ℤ, -2 ^ 31 ≤ start → start < 2 ^ 31 →
      extent < 2 ^ 31 →
      (Covers start (saturated (saturated (start + extent) - start)) limit ↔
        Covers start extent limit) := by
    intro start extent limit hlow hhigh hlarge
    have hend := saturated_cases (start + extent)
    have hextent := saturated_cases (saturated (start + extent) - start)
    have hlast := saturated_cases (start + saturated (saturated (start + extent) - start))
    unfold Covers
    omega
  rw [hagain _ _ _ hx hx' rect.width.toInt_lt, hagain _ _ _ hy hy' rect.height.toInt_lt]

section Text

variable {x : Int16} {text : List UInt8} {cell : Int32 × UInt8} {rect : Rect} {size : Size}

theorem length_xFixedGlyphRows (byte : UInt8) : (xFixedGlyphRows byte).length = 7 := by
  unfold xFixedGlyphRows
  cases h : xFixedGlyphs.lookup (toAsciiUppercase byte) with
  | none => rfl
  | some rows =>
    have hall : ∀ glyph ∈ xFixedGlyphs, glyph.2.length = 7 := by decide
    obtain ⟨before, after, hsplit, -⟩ := List.lookup_eq_some_iff.mp h
    exact hall (toAsciiUppercase byte, rows) (by simp [hsplit])

theorem mem_textCells (h : cell ∈ XAuthorityCpuBufferSnapshot.textCells x text) :
    ∃ index < text.length,
      cell.1.toInt = saturated (x.toInt + min (index * 8 : ℕ) (2 ^ 31 - 1)) := by
  simp only [XAuthorityCpuBufferSnapshot.textCells, List.mem_map, Prod.exists] at h
  obtain ⟨byte, index, hmem, rfl⟩ := h
  obtain ⟨-, hindex, -⟩ := List.mem_zipIdx hmem
  exact ⟨index, by omega, toInt_saturateInt32 _⟩

/-- The pixels of a glyph are in the five columns and seven rows its cell has for them. -/
theorem mem_glyphRects {cellX cellY : Int32} {byte : UInt8}
    (h : rect ∈ glyphRects cellX cellY byte) :
    ∃ column < 5, ∃ row < 7, rect.x.toInt = saturated (cellX.toInt + (column + 1 : ℕ)) ∧
      rect.y.toInt = saturated (cellY.toInt + (row + 2 : ℕ)) ∧ rect.width = 1 ∧ rect.height = 1 := by
  simp only [glyphRects, List.mem_flatMap, List.mem_filterMap, List.mem_range, Prod.exists] at h
  obtain ⟨bits, row, hrow, column, hcolumn, hset⟩ := h
  obtain ⟨-, hlast, -⟩ := List.mem_zipIdx hrow
  rw [length_xFixedGlyphRows] at hlast
  split at hset
  · cases hset
    exact ⟨column, hcolumn, row, by omega, toInt_saturateInt32 _, toInt_saturateInt32 _, rfl, rfl⟩
  · cases hset

theorem meets_textDamage_of_cell {baseline : Int16}
    (hcell : cell ∈ XAuthorityCpuBufferSnapshot.textCells x text)
    (h : Meets size { x := cell.1, y := textTop baseline, width := 8, height := 12 }) :
    Meets size (textDamage x baseline text) := by
  obtain ⟨index, hindex, hat⟩ := mem_textCells hcell
  rw [meets_iff] at h ⊢
  have hx := x.le_toInt
  have hx' := x.toInt_lt
  have hwidth : (8 : Int32).toInt = 8 := rfl
  simp only [hat, hwidth] at h
  have hcell := saturated_cases (x.toInt + min (index * 8 : ℕ) (2 ^ 31 - 1))
  have hend := saturated_cases (saturated (x.toInt + min (index * 8 : ℕ) (2 ^ 31 - 1)) + 8)
  have hlength := saturated_cases (text.length * 8)
  refine ⟨h.1.mono ?_ ?_ ?_ ?_, h.2⟩
  all_goals
    simp only [textDamage, toInt_saturateInt32, Int16.toInt_toInt32]
    omega

theorem meets_textDamage_of_glyph {baseline : Int16}
    (hcell : cell ∈ XAuthorityCpuBufferSnapshot.textCells x text)
    (hrect : rect ∈ glyphRects cell.1 (textTop baseline) cell.2) (h : Meets size rect) :
    Meets size (textDamage x baseline text) := by
  obtain ⟨index, hindex, hat⟩ := mem_textCells hcell
  obtain ⟨column, hcolumn, row, hrow, hleft, htop, hwidth, hheight⟩ := mem_glyphRects hrect
  have hx := x.le_toInt
  have hx' := x.toInt_lt
  have hbase := baseline.le_toInt
  have hbase' := baseline.toInt_lt
  have hone : (1 : Int32).toInt = 1 := rfl
  have htwelve : (12 : Int32).toInt = 12 := rfl
  rw [meets_iff] at h ⊢
  simp only [hleft, htop, hwidth, hheight, hone, hat, textTop, toInt_saturateInt32] at h
  have hcell := saturated_cases (x.toInt + min (index * 8 : ℕ) (2 ^ 31 - 1))
  have hpixel := saturated_cases
    (saturated (x.toInt + min (index * 8 : ℕ) (2 ^ 31 - 1)) + (column + 1 : ℕ))
  have hend := saturated_cases
    (saturated (saturated (x.toInt + min (index * 8 : ℕ) (2 ^ 31 - 1)) + (column + 1 : ℕ)) + 1)
  have hlength := saturated_cases (text.length * 8)
  have hline := saturated_cases (baseline.toInt - 10)
  have hpixel' := saturated_cases (saturated (baseline.toInt - 10) + (row + 2 : ℕ))
  have hend' := saturated_cases (saturated (saturated (baseline.toInt - 10) + (row + 2 : ℕ)) + 1)
  refine ⟨h.1.mono ?_ ?_ ?_ ?_, h.2.mono ?_ ?_ ?_ ?_⟩
  all_goals
    simp only [textDamage, textTop, toInt_saturateInt32, Int16.toInt_toInt32, htwelve]
    omega

end Text

section Copy

/-- The rectangle a copy names by a corner and an extent. -/
def copyRect (x y : Int16) (width height : UInt16) : Rect where
  x := x.toInt32
  y := y.toInt32
  width := .ofNat width.toNat
  height := .ofNat height.toNat

variable {srcX srcY dstX dstY : Int16} {width height : UInt16} {size sourceSize : Size}
  {bounds : PixelBounds} {column row : ℕ}

theorem toInt_ofNat_toNat (n : UInt16) : (Int32.ofNat n.toNat).toInt = n.toNat := by
  have hn := n.toNat_lt
  exact Int32.toInt_ofNat_of_lt (by omega)

/-- What is left of the source's rectangle is no larger than the rectangle. -/
theorem copied_extent
    (h : clippedBounds sourceSize (copyRect srcX srcY width height) = some bounds) :
    (0 < bounds.right - bounds.left ∧ bounds.right - bounds.left ≤ width.toNat) ∧
      0 < bounds.bottom - bounds.top ∧ bounds.bottom - bounds.top ≤ height.toNat := by
  obtain ⟨⟨hlr, -, hwidth⟩, htb, -, hheight⟩ := clippedBounds_eq_some h
  simp only [copyRect, toInt_ofNat_toNat, Int.toNat_natCast] at hwidth hheight
  omega

/-- The damage of the copied part is inside the rectangle the request names. -/
theorem meets_copyRect_of_copied
    (h : clippedBounds sourceSize (copyRect srcX srcY width height) = some bounds)
    (hmeets : Meets size
      { x := dstX.toInt32, y := dstY.toInt32, width := .ofNat (bounds.right - bounds.left),
        height := .ofNat (bounds.bottom - bounds.top) }) :
    Meets size (copyRect dstX dstY width height) := by
  obtain ⟨⟨hw, hwidth⟩, hh, hheight⟩ := copied_extent h
  have hlarge := width.toNat_lt
  have hlarge' := height.toNat_lt
  have hx := dstX.le_toInt
  have hx' := dstX.toInt_lt
  have hy := dstY.le_toInt
  have hy' := dstY.toInt_lt
  rw [meets_iff] at hmeets ⊢
  rw [Int32.toInt_ofNat_of_lt (by omega), Int32.toInt_ofNat_of_lt (by omega)] at hmeets
  simp only [Int16.toInt_toInt32] at hmeets
  have hend := saturated_cases (dstX.toInt + (bounds.right - bounds.left : ℕ))
  have hend' := saturated_cases (dstY.toInt + (bounds.bottom - bounds.top : ℕ))
  refine ⟨hmeets.1.mono ?_ ?_ ?_ ?_, hmeets.2.mono ?_ ?_ ?_ ?_⟩
  all_goals
    simp only [copyRect, toInt_ofNat_toNat, Int16.toInt_toInt32]
    omega

theorem covers_of_copied {corner limit : ℤ} {n count : ℕ} (hlow : -2 ^ 15 ≤ corner)
    (hhigh : corner < 2 ^ 15) (hcount : count < 2 ^ 16) (hn : n < count)
    (hin : ¬ (saturated (corner + min n (2 ^ 31 - 1)) < 0))
    (hlimit : ¬ (limit ≤ saturated (corner + min n (2 ^ 31 - 1)))) :
    Covers corner count limit := by
  have hplace : saturated (corner + min n (2 ^ 31 - 1)) = corner + n := by
    unfold saturated
    omega
  rw [hplace] at hin hlimit
  have hend : saturated (corner + count) = corner + count := by
    unfold saturated
    omega
  unfold Covers
  rw [hend]
  omega

/-- So is every pixel that is copied. -/
theorem meets_copyRect_of_pixel (hcolumn : column < width.toNat) (hrow : row < height.toNat)
    (h : ¬ (saturated (dstX.toInt + min column (2 ^ 31 - 1)) < 0 ∨
      saturated (dstY.toInt + min row (2 ^ 31 - 1)) < 0 ∨
      size.width.toInt ≤ saturated (dstX.toInt + min column (2 ^ 31 - 1)) ∨
      size.height.toInt ≤ saturated (dstY.toInt + min row (2 ^ 31 - 1)))) :
    Meets size (copyRect dstX dstY width height) := by
  obtain ⟨hleft, htop, hright, hbottom⟩ := by simpa only [not_or] using h
  rw [meets_iff]
  simp only [copyRect, toInt_ofNat_toNat, Int16.toInt_toInt32]
  exact ⟨covers_of_copied dstX.le_toInt dstX.toInt_lt width.toNat_lt hcolumn hleft hright,
    covers_of_copied dstY.le_toInt dstY.toInt_lt height.toNat_lt hrow htop hbottom⟩

end Copy

namespace XSoftwareBufferStore

open XAuthorityCpuBufferSnapshot

variable {store : XSoftwareBufferStore} {drawable source destination : XResourceId} {size : Size}
  {rect : Rect} {gc : XGraphicsContextValues} {x baseline srcX srcY dstX dstY : Int16}
  {width height : UInt16} {text data : List UInt8} {isOpaque : Bool} {pixel : UInt32}

theorem clear_isSome :
    (store.clear drawable size rect pixel).1.isSome ↔ store.Completes drawable size [rect] :=
  paint_isSome fun _ => repainted_fillRect _ _ _

theorem clear_spares (h : store.Spares drawable size [rect]) :
    (store.clear drawable size rect pixel).1 = none ∧
      store.SameBuffers (store.clear drawable size rect pixel).2 := by
  refine paint_spares ?_ (by simp) h
  rintro buffer rfl hmiss
  exact fillRect_of_not_meets (hmiss rect List.mem_cons_self) _ _

theorem putImage_isSome :
    (store.putImage drawable size rect data).1.isSome ↔ store.Completes drawable size [rect] :=
  paint_isSome fun _ => repainted_copyXrgb8888 _ _

theorem putImage_spares (h : store.Spares drawable size [rect]) :
    (store.putImage drawable size rect data).1 = none ∧
      store.SameBuffers (store.putImage drawable size rect data).2 := by
  refine paint_spares ?_ (by simp) h
  rintro buffer rfl hmiss
  exact copyXrgb8888_of_not_meets (hmiss rect List.mem_cons_self) _

theorem drawText_isSome :
    (store.drawText drawable size x baseline text isOpaque gc).1.isSome ↔
      store.Completes drawable size [textDamage x baseline text] :=
  paint_isSome fun buffer => .foldl (fun _ _ => repainted_drawCell _ _ _ _) _ buffer

/-- Lines without a point paint nothing. -/
theorem drawLines_isSome {points : List XPoint} :
    (store.drawLines drawable size points gc).1.isSome ↔
      ∃ damage ∈ pointBounds points gc.lineWidth, store.Completes drawable size [damage] := by
  unfold drawLines
  cases pointBounds points gc.lineWidth with
  | none => simp
  | some damage =>
    dsimp only
    rw [paint_isSome fun buffer => .foldl (fun _ _ => repainted_drawLine _ _ _ _) _ buffer]
    simp

theorem drawCell_of_not_meets {buffer : XAuthorityCpuBufferSnapshot} {cell : Int32 × UInt8}
    (hcell : cell ∈ textCells x text) (h : ¬ Meets buffer.size (textDamage x baseline text)) :
    buffer.drawCell gc isOpaque (textTop baseline) cell = buffer := by
  have hglyph : ∀ rects : List Rect,
      (∀ rect ∈ rects, rect ∈ glyphRects cell.1 (textTop baseline) cell.2) →
      rects.foldl (fun buffer rect => buffer.fillRect rect gc.foreground gc) buffer = buffer := by
    intro rects hrects
    induction rects with
    | nil => rfl
    | cons rect rects ih =>
      have hmiss : ¬ Meets buffer.size rect :=
        fun hmeets => h (meets_textDamage_of_glyph hcell (hrects rect List.mem_cons_self) hmeets)
      rw [List.foldl_cons, fillRect_of_not_meets hmiss]
      exact ih fun other hother => hrects other (List.mem_cons_of_mem _ hother)
  have hback : buffer.fillRect { x := cell.1, y := textTop baseline, width := 8, height := 12 }
      gc.background gc = buffer :=
    fillRect_of_not_meets (fun hmeets => h (meets_textDamage_of_cell hcell hmeets)) _ _
  unfold drawCell
  rw [hback, ite_self]
  exact hglyph _ fun _ hrect => hrect

theorem drawText_spares (h : store.Spares drawable size [textDamage x baseline text]) :
    (store.drawText drawable size x baseline text isOpaque gc).1 = none ∧
      store.SameBuffers (store.drawText drawable size x baseline text isOpaque gc).2 := by
  refine paint_spares ?_ (by simp) h
  rintro buffer rfl hmiss
  have hmiss := hmiss _ List.mem_cons_self
  have hcells : ∀ cells : List (Int32 × UInt8), (∀ cell ∈ cells, cell ∈ textCells x text) →
      cells.foldl (drawCell gc isOpaque (textTop baseline)) buffer = buffer := by
    intro cells hcells
    induction cells with
    | nil => rfl
    | cons cell cells ih =>
      rw [List.foldl_cons, drawCell_of_not_meets (hcells cell List.mem_cons_self) hmiss]
      exact ih fun other hother => hcells other (List.mem_cons_of_mem _ hother)
  exact hcells _ fun _ hcell => hcell

section CopyArea

variable {sourceBuffer buffer : XAuthorityCpuBufferSnapshot} {sourceRect : Rect}
  {bounds : PixelBounds}

/-- The source holds every pixel of its own bounds, so copying runs to its end. -/
theorem copyCells_ok (h : clippedBounds sourceBuffer.size sourceRect = some bounds) :
    (sourceBuffer.copyCells bounds dstX dstY gc buffer).1 = .ok () := by
  obtain ⟨⟨-, hright, -⟩, -, hbottom, -⟩ := clippedBounds_eq_some h
  refine Run.tryEach_ok (fun painted cell hcell => ?_) buffer
  obtain ⟨⟨-, hx⟩, -, hy⟩ := mem_cells.mp hcell
  have hfit := sourceBuffer.offset_le (x := cell.1) (y := cell.2) (n := 1) (by omega) (by omega)
  have hpixel := pixelAt?_isSome.mpr (show sourceBuffer.offset cell.1 cell.2 + 4 ≤ _ by omega)
  obtain ⟨pixel, hpixel⟩ := Option.isSome_iff_exists.mp hpixel
  rw [hpixel]
  exact ⟨_, rfl⟩

theorem repainted_copyCells :
    buffer.Repainted (sourceBuffer.copyCells bounds dstX dstY gc buffer).2 := by
  refine Run.tryEach_invariant _ _ (fun painted cell next hnext hpainted => ?_) _ (.refl buffer)
  split at hnext
  · cases hnext
  · cases hnext
    exact hpainted.trans (repainted_setPixel _ _ _ _)

/-- Copying to a rectangle that misses the buffer leaves it as it is. -/
theorem copyCells_of_not_meets
    (h : clippedBounds sourceBuffer.size (copyRect srcX srcY width height) = some bounds)
    (hmiss : ¬ Meets buffer.size (copyRect dstX dstY width height)) :
    (sourceBuffer.copyCells bounds dstX dstY gc buffer).2 = buffer := by
  obtain ⟨⟨-, hwidth⟩, -, hheight⟩ := copied_extent h
  refine Run.tryEach_invariant_mem (P := (· = buffer)) ?_ rfl
  rintro painted cell hcell next hnext rfl
  obtain ⟨⟨hleft, hright⟩, htop, hbottom⟩ := mem_cells.mp hcell
  split at hnext
  · cases hnext
  · cases hnext
    unfold setPixel
    rw [if_pos]
    by_contra hin
    have hcolumn : cell.1 - bounds.left < width.toNat := by omega
    have hrow : cell.2 - bounds.top < height.toNat := by omega
    refine hmiss (meets_copyRect_of_pixel hcolumn hrow ?_)
    simpa using hin

/-- Copying, or else filling the rectangle it names, ends in an update. -/
def CopyCompletes (store : XSoftwareBufferStore) (source destination : XResourceId) (size : Size)
    (sourceRect rect : Rect) : Prop :=
  Sized size ∧ store.Renewable destination ∧
    (Meets size rect ∨ ¬ store.Kept destination size ∧
      ∀ buffer ∈ store.buffers[source]?, Meets buffer.size sourceRect)

theorem completes_insert (hsized : Sized size) (hmeets : Meets size rect)
    (hgeneration : buffer.generation.toNat + 1 < UInt64.size) :
    Completes { store with buffers := store.buffers.insert drawable buffer } drawable size
      [rect] := by
  refine ⟨hsized, ?_, fun _ => ⟨rect, List.mem_cons_self, hmeets⟩⟩
  intro found hfound
  have he : buffer = found := by simpa using hfound
  rw [← he]
  exact hgeneration

theorem copyArea_completes (gc : XGraphicsContextValues)
    (h : store.CopyCompletes source destination size (copyRect srcX srcY width height)
      (copyRect dstX dstY width height)) :
    (store.copyArea source destination size (copyRect srcX srcY width height) dstX dstY gc).1.isSome ∨
      (store.copyArea source destination size (copyRect srcX srcY width height) dstX dstY
        gc).2.Completes destination size [copyRect dstX dstY width height] := by
  obtain ⟨hsized, hrenew, hreach⟩ := h
  have hkept : store.Kept destination size → Meets size (copyRect dstX dstY width height) := by
    intro hk
    rcases hreach with hmeets | ⟨hnew, -⟩
    · exact hmeets
    · exact absurd hk hnew
  unfold copyArea
  cases hsource : store.buffers[source]? with
  | none =>
    right
    exact ⟨hsized, hrenew, fun hk => ⟨_, List.mem_cons_self, hkept hk⟩⟩
  | some sourceBuffer =>
    dsimp only
    obtain ⟨buffer, replaced, hensure⟩ : ∃ buffer replaced, store.allocateHandle.2.ensure
        destination size store.allocateHandle.1 = some (buffer, replaced) := ensure_of_sized hsized
    obtain ⟨-, hsize, hreplaced, -, hgeneration⟩ := ensure_eq_some hensure
    have hgeneration := hgeneration.mp hrenew
    rw [hensure]
    dsimp only
    cases hbounds : clippedBounds sourceBuffer.size (copyRect srcX srcY width height) with
    | none =>
      right
      refine completes_insert hsized ?_ hgeneration
      rcases hreach with hmeets | ⟨-, hsrc⟩
      · exact hmeets
      · have hmeets := hsrc sourceBuffer hsource
        rw [Meets, hbounds] at hmeets
        cases hmeets
    | some bounds =>
      have hok : (sourceBuffer.copyCells bounds dstX dstY gc buffer).1 = .ok () :=
        copyCells_ok hbounds
      have hpainted : buffer.Repainted (sourceBuffer.copyCells bounds dstX dstY gc buffer).2 :=
        repainted_copyCells
      generalize hcopied : sourceBuffer.copyCells bounds dstX dstY gc buffer = copied at hok hpainted
      obtain ⟨outcome, painted⟩ := copied
      cases hok
      dsimp only at hpainted ⊢
      rw [hcopied]
      dsimp only
      by_cases hdone : (finish store.allocateHandle.2 destination store.allocateHandle.1 replaced
          (some { x := dstX.toInt32, y := dstY.toInt32, width := .ofNat (bounds.right - bounds.left),
                  height := .ofNat (bounds.bottom - bounds.top) }) painted).1.isSome
      · exact .inl hdone
      · right
        rw [finish_of_none hdone]
        refine completes_insert hsized ?_ (by rw [hpainted.generation]; exact hgeneration)
        -- Only painting in the old buffer can end without an update.
        cases replaced with
        | false => exact hkept (hreplaced.mp rfl)
        | true =>
          refine absurd (finish_isSome.mpr ⟨.inl rfl, ?_⟩) hdone
          rw [hpainted.generation]
          exact hgeneration

theorem copyArea_spares
    (h : store.Spares destination size [copyRect dstX dstY width height]) :
    (store.copyArea source destination size (copyRect srcX srcY width height) dstX dstY
        gc).1 = none ∧
      store.SameBuffers (store.copyArea source destination size (copyRect srcX srcY width height)
        dstX dstY gc).2 := by
  unfold copyArea
  cases hsource : store.buffers[source]? with
  | none => exact ⟨rfl, .refl store⟩
  | some sourceBuffer =>
    dsimp only
    cases hensure : store.allocateHandle.2.ensure destination size store.allocateHandle.1 with
    | none => exact ⟨rfl, sameBuffers_allocateHandle⟩
    | some result =>
      obtain ⟨buffer, replaced⟩ := result
      obtain ⟨rfl, hsize, hget, hmiss⟩ := h.ensure_eq_some hensure
      have hmiss := hmiss _ List.mem_cons_self
      dsimp only
      cases hbounds : clippedBounds sourceBuffer.size (copyRect srcX srcY width height) with
      | none => exact ⟨rfl, sameBuffers_insert hget⟩
      | some bounds =>
        have hok : (sourceBuffer.copyCells bounds dstX dstY gc buffer).1 = .ok () :=
          copyCells_ok hbounds
        have hsame : (sourceBuffer.copyCells bounds dstX dstY gc buffer).2 = buffer :=
          copyCells_of_not_meets hbounds (hsize ▸ hmiss)
        generalize hcopied : sourceBuffer.copyCells bounds dstX dstY gc buffer = copied at hok hsame
        obtain ⟨outcome, painted⟩ := copied
        cases hok
        dsimp only at hsame ⊢
        rw [hcopied]
        dsimp only
        rw [hsame]
        have hnone : ¬ (finish store.allocateHandle.2 destination store.allocateHandle.1 false
            (some { x := dstX.toInt32, y := dstY.toInt32,
                    width := .ofNat (bounds.right - bounds.left),
                    height := .ofNat (bounds.bottom - bounds.top) }) buffer).1.isSome := by
          rw [finish_isSome, hsize]
          rintro ⟨hf | ⟨copied, hcopied, hmeet⟩, -⟩
          · cases hf
          · cases hcopied
            exact hmiss (meets_copyRect_of_copied hbounds hmeet)
        refine ⟨Option.not_isSome_iff_eq_none.mp hnone, ?_⟩
        rw [finish_of_none hnone]
        exact sameBuffers_insert hget

end CopyArea
end XSoftwareBufferStore
end Sophia.Authority
