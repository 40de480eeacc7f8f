import Sophia.Lib.Pointwise
import Sophia.Authority.DrawDamage

/-! What the rasteriser does to each pixel. -/
namespace Sophia.Authority

open Std Sophia.Protocol

/-- The size has this pixel. -/
def Holds (size : Size) (pixel : ℕ × ℕ) : Prop :=
  pixel.1 < size.width.toInt.toNat ∧ pixel.2 < size.height.toInt.toNat

instance (size : Size) (pixel : ℕ × ℕ) : Decidable (Holds size pixel) :=
  inferInstanceAs (Decidable (_ ∧ _))

/-- The rectangle has this pixel. -/
def Rect.Contains (rect : Rect) (pixel : ℕ × ℕ) : Prop :=
  (rect.x.toInt ≤ pixel.1 ∧ (pixel.1 : ℤ) < rect.x.toInt + rect.width.toInt) ∧
    rect.y.toInt ≤ pixel.2 ∧ (pixel.2 : ℤ) < rect.y.toInt + rect.height.toInt

instance (rect : Rect) (pixel : ℕ × ℕ) : Decidable (Rect.Contains rect pixel) :=
  inferInstanceAs (Decidable ((_ ∧ _) ∧ _ ∧ _))

section Bytes

variable {bytes other source : List UInt8} {offset start : ℕ} {pixel : UInt32}

theorem pixelAt?_congr (h : ∀ j < 4, bytes[offset + j]? = other[start + j]?) :
    pixelAt? bytes offset = pixelAt? other start := by
  unfold pixelAt?
  rw [Blit.slice?_congr (by omega) h]

theorem pixelAt?_splice_of_disjoint (hfit : start + source.length ≤ bytes.length)
    (h : offset + 4 ≤ start ∨ start + source.length ≤ offset) :
    pixelAt? (Blit.splice bytes start source) offset = pixelAt? bytes offset := by
  unfold pixelAt?
  rw [Blit.slice?_splice_of_disjoint hfit (by omega) h]

theorem pixelAt?_splice_self (hfit : start + 4 ≤ bytes.length) (pixel : UInt32) :
    pixelAt? (Blit.splice bytes start (Codec.toLe 4 pixel.toNat)) start = some pixel := by
  have hlength := Codec.length_toLe 4 pixel.toNat
  have hslice : Blit.slice? (Blit.splice bytes start (Codec.toLe 4 pixel.toNat)) start
      (start + (Codec.toLe 4 pixel.toNat).length) = some (Codec.toLe 4 pixel.toNat) :=
    Blit.slice?_splice_self (by omega) (by omega)
  rw [hlength] at hslice
  unfold pixelAt?
  rw [hslice, Option.map_some, Codec.fromLe_toLe (by simpa using pixel.toNat_lt),
    UInt32.ofNat_toNat]

end Bytes

namespace XAuthorityCpuBufferSnapshot

variable {buffer : XAuthorityCpuBufferSnapshot} {size : Size} {p q : ℕ × ℕ} {rect : Rect}
  {bounds : PixelBounds}

/-- The pixel at a place, and zero at the places the buffer does not have. -/
def pixel (buffer : XAuthorityCpuBufferSnapshot) (p : ℕ × ℕ) : UInt32 :=
  if Holds buffer.size p then (pixelAt? buffer.bytes (buffer.offset p.1 p.2)).getD 0 else 0

theorem offset_fits (h : Holds buffer.size p) :
    buffer.offset p.1 p.2 + 4 ≤ buffer.bytes.length := by
  have hfit := buffer.offset_le (x := p.1) (y := p.2) (n := 1) h.1 h.2
  omega

/-- A pixel that is not in a stretch of a row shares no byte with it. -/
theorem offset_apart {x y n : ℕ} (hp : Holds buffer.size p)
    (hx : x + n ≤ buffer.size.width.toInt.toNat) (h : p.2 = y → p.1 < x ∨ x + n ≤ p.1) :
    buffer.offset p.1 p.2 + 4 ≤ buffer.offset x y ∨
      buffer.offset x y + n * 4 ≤ buffer.offset p.1 p.2 := by
  obtain ⟨hpx, -⟩ := hp
  have hstride := buffer.packed
  unfold offset
  rcases Nat.lt_trichotomy p.2 y with hlt | heq | hgt
  · have hrow := Nat.mul_le_mul_right buffer.stride.toNat (show p.2 + 1 ≤ y by omega)
    rw [Nat.add_mul, Nat.one_mul] at hrow
    omega
  · have hcolumn := h heq
    rw [heq]
    omega
  · have hrow := Nat.mul_le_mul_right buffer.stride.toNat (show y + 1 ≤ p.2 by omega)
    rw [Nat.add_mul, Nat.one_mul] at hrow
    omega

theorem offset_disjoint (hp : Holds buffer.size p) (hq : Holds buffer.size q) (hne : p ≠ q) :
    buffer.offset p.1 p.2 + 4 ≤ buffer.offset q.1 q.2 ∨
      buffer.offset q.1 q.2 + 4 ≤ buffer.offset p.1 p.2 := by
  have hrow : p.2 = q.2 → p.1 < q.1 ∨ q.1 + 1 ≤ p.1 := by
    intro heq
    have hcolumn : p.1 ≠ q.1 := fun he => hne (Prod.ext he heq)
    omega
  have hapart := offset_apart (n := 1) hp hq.1 hrow
  omega

theorem pixel_of_not_holds (h : ¬ Holds buffer.size p) : buffer.pixel p = 0 := if_neg h

theorem pixelAt?_of_holds (h : Holds buffer.size p) :
    pixelAt? buffer.bytes (buffer.offset p.1 p.2) = some (buffer.pixel p) := by
  have hsome : (pixelAt? buffer.bytes (buffer.offset p.1 p.2)).isSome :=
    pixelAt?_isSome.mpr (offset_fits h)
  obtain ⟨value, hvalue⟩ := Option.isSome_iff_exists.mp hsome
  rw [pixel, if_pos h, hvalue]
  rfl

/-- Only the bytes and the size say what the pixels are. -/
theorem pixel_congr {next : XAuthorityCpuBufferSnapshot} (hsize : next.size = buffer.size)
    (hbytes : next.bytes = buffer.bytes) : next.pixel p = buffer.pixel p := by
  have hstride : next.stride.toNat = buffer.stride.toNat := by
    rw [next.packed, buffer.packed, hsize]
  simp only [pixel, offset, hsize, hbytes, hstride]

theorem pixel_mapPixel (hp : Holds buffer.size p) (change : UInt32 → UInt32) (q : ℕ × ℕ) :
    (buffer.mapPixel p.1 p.2 change).pixel q =
      if q = p then change (buffer.pixel q) else buffer.pixel q := by
  have hfit := offset_fits hp
  by_cases hq : Holds buffer.size q
  · have hbytes : (buffer.mapPixel p.1 p.2 change).bytes =
        Blit.splice buffer.bytes (buffer.offset p.1 p.2)
          (Codec.toLe 4 (change (buffer.pixel p)).toNat) := by
      show mapPixelAt buffer.bytes (buffer.offset p.1 p.2) change = _
      rw [mapPixelAt, pixelAt?_of_holds hp]
    have hlength := Codec.length_toLe 4 (change (buffer.pixel p)).toNat
    have hview : (buffer.mapPixel p.1 p.2 change).pixel q =
        (pixelAt? (buffer.mapPixel p.1 p.2 change).bytes (buffer.offset q.1 q.2)).getD 0 :=
      if_pos hq
    rw [hview, hbytes]
    by_cases he : q = p
    · subst he
      rw [pixelAt?_splice_self hfit, if_pos rfl]
      rfl
    · rw [pixelAt?_splice_of_disjoint (by omega) (by rw [hlength]; exact offset_disjoint hq hp he),
        pixelAt?_of_holds hq, if_neg he]
      rfl
  · have hne : q ≠ p := by
      rintro rfl
      exact hq hp
    rw [if_neg hne, pixel_of_not_holds hq]
    exact if_neg hq

/-- A change of the buffers of a size that acts on each pixel. -/
abbrev Paints (size : Size) (change : XAuthorityCpuBufferSnapshot → XAuthorityCpuBufferSnapshot)
    (act : ℕ × ℕ → UInt32 → UInt32) : Prop :=
  Pointwise.ActsBy pixel (fun buffer => buffer.size = size) change act

theorem paints_mapPixel (hp : Holds size p) (change : UInt32 → UInt32) :
    Paints size (fun buffer => buffer.mapPixel p.1 p.2 change) fun q old =>
      if q = p then change old else old where
  keeps _ hsize := hsize
  view_eq _ hsize q := pixel_mapPixel (hsize ▸ hp) change q

theorem paints_blend (hp : Holds size p) (gc : XGraphicsContextValues) (source : UInt32) :
    Paints size (fun buffer => buffer.blend gc source p.1 p.2) fun q old =>
      if q = p then (if pixelInClip gc q.1 q.2 then applyRasterFunction gc source old else old)
      else old := by
  unfold blend
  by_cases hclip : pixelInClip gc p.1 p.2
  · simp only [hclip, if_true]
    refine (paints_mapPixel hp _).congr fun q old => ?_
    by_cases he : q = p
    · rw [if_pos he, if_pos he, he, if_pos hclip]
    · rw [if_neg he, if_neg he]
  · simp only [hclip]
    refine Pointwise.actsBy_id.congr fun q old => ?_
    by_cases he : q = p
    · rw [if_pos he, he, if_neg hclip]
    · rw [if_neg he]

theorem nodup_cells (bounds : PixelBounds) : bounds.cells.Nodup := by
  have hrows : (List.range' bounds.top (bounds.bottom - bounds.top)).Nodup := List.nodup_range'
  have hcolumns : (List.range' bounds.left (bounds.right - bounds.left)).Nodup :=
    List.nodup_range'
  unfold PixelBounds.cells
  rw [List.nodup_flatMap]
  refine ⟨fun y _ => ?_, ?_⟩
  · refine hcolumns.map fun a b he => ?_
    exact congrArg Prod.fst he
  · refine hrows.imp fun {a b} hne => ?_
    refine List.disjoint_left.mpr ?_
    rintro ⟨x, y⟩ ha hb
    simp only [List.mem_map, Prod.mk.injEq] at ha hb
    obtain ⟨_, -, -, rfl⟩ := ha
    obtain ⟨_, -, -, rfl⟩ := hb
    exact hne rfl

/-- Clipping leaves the pixels the rectangle and the buffer share. -/
theorem mem_cells_of_clipped (h : clippedBounds size rect = some bounds) :
    p ∈ bounds.cells ↔ Holds size p ∧ Rect.Contains rect p := by
  obtain ⟨hx, hy⟩ := cutDown_of_clipped h
  rw [mem_cells, hx.mem_iff size.width.toInt_lt, hy.mem_iff size.height.toInt_lt]
  exact and_and_and_comm

/-- The corner of what is left of a rectangle is its own, or else an edge of the buffer. -/
theorem clipped_corner (h : clippedBounds size rect = some bounds) :
    bounds.left = rect.x.toInt.toNat ∧ bounds.top = rect.y.toInt.toNat ∧
      bounds.right - bounds.left ≤ rect.width.toInt.toNat ∧
      bounds.bottom - bounds.top ≤ rect.height.toInt.toNat := by
  obtain ⟨hx, hy⟩ := cutDown_of_clipped h
  exact ⟨hx.low_eq, hy.low_eq, hx.length_le.2.2, hy.length_le.2.2⟩

theorem not_contained_of_not_clipped (h : clippedBounds size rect = none) :
    ¬ (Holds size p ∧ Rect.Contains rect p) := by
  rintro ⟨⟨hpx, hpy⟩, ⟨hleft, hright⟩, htop, hbottom⟩
  have hx := covers_of_mem rect.x.le_toInt size.width.toInt_lt hpx hleft hright
  have hy := covers_of_mem rect.y.le_toInt size.height.toInt_lt hpy htop hbottom
  obtain ⟨bounds, hbounds, -⟩ := clippedBounds_of_covers hx hy
  cases hbounds.symm.trans h

theorem meets_of_contained (hp : Holds size p) (h : Rect.Contains rect p) : Meets size rect := by
  unfold Meets
  cases hclip : clippedBounds size rect with
  | none => exact absurd ⟨hp, h⟩ (not_contained_of_not_clipped hclip)
  | some bounds => rfl

/-- A fill combines its pixel with each one of the rectangle that the buffer has and the clip lets
through. -/
theorem paints_fillRect (size : Size) (rect : Rect) (source : UInt32)
    (gc : XGraphicsContextValues) :
    Paints size (fun buffer => buffer.fillRect rect source gc) fun p old =>
      if (Holds size p ∧ pixelInClip gc p.1 p.2) ∧ Rect.Contains rect p then
        applyRasterFunction gc source old else old := by
  cases hclip : clippedBounds size rect with
  | none =>
    have hnone := fun p => not_contained_of_not_clipped (p := p) hclip
    constructor
    · intro buffer hsize
      exact (repainted_fillRect rect source gc).size.trans hsize
    · intro buffer hsize p
      rw [fillRect, hsize, hclip, if_neg (fun h => hnone p ⟨h.1.1, h.2⟩)]
  | some bounds =>
    have hcells := Pointwise.ActsBy.foldl_places (nodup_cells bounds) fun p hp =>
      paints_blend ((mem_cells_of_clipped hclip).mp hp).1 gc source
    constructor
    · intro buffer hsize
      exact (repainted_fillRect rect source gc).size.trans hsize
    · intro buffer hsize p
      have hview := hcells.view_eq buffer hsize p
      rw [fillRect, hsize, hclip]
      dsimp only
      rw [hview]
      by_cases hp : p ∈ bounds.cells
      · obtain ⟨hin, hrect⟩ := (mem_cells_of_clipped hclip).mp hp
        rw [if_pos hp]
        by_cases hlet : pixelInClip gc p.1 p.2
        · rw [if_pos hlet, if_pos ⟨⟨hin, hlet⟩, hrect⟩]
        · rw [if_neg hlet, if_neg fun h => hlet h.1.2]
      · rw [if_neg hp, if_neg]
        rintro ⟨⟨hin, -⟩, hrect⟩
        exact hp ((mem_cells_of_clipped hclip).mpr ⟨hin, hrect⟩)

end XAuthorityCpuBufferSnapshot
end Sophia.Authority
