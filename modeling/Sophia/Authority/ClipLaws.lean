import Sophia.Authority.Stamps

/-! What a graphics context's clip lets a draw change, and what it makes of the pixels. -/
namespace Sophia.Authority

open Std Sophia.Protocol XAuthorityCpuBufferSnapshot

/-- The raster function as a truth table: bit zero is for two ones, bit three for two zeros. -/
def gxBit (function : UInt8) (source old : Bool) : Bool :=
  if 15 < function.toNat then source
  else function.toNat.testBit ((if source then 0 else 2) + if old then 0 else 1)

/-- On the planes of the mask the new pixel is the function of the source and the old one, on the
others it is the old one; the unused byte is zero. -/
def Combines (gc : XGraphicsContextValues) (source old new : UInt32) : Prop :=
  ∀ i < 32, new.toBitVec.getLsbD i = (decide (i < 24) &&
    if gc.planeMask.toBitVec.getLsbD i then
      gxBit gc.function (source.toBitVec.getLsbD i) (old.toBitVec.getLsbD i)
    else old.toBitVec.getLsbD i)

/-- The fills, lines, texts and copies that go through a graphics context. -/
inductive GcDraw where
  | fill (damage : List Rect)
  | lines (points : List XPoint)
  | text (x baseline : Int16) (text : List UInt8) (isOpaque : Bool)
  | copy (source : XAuthorityCpuBufferSnapshot) (rect : Rect) (dstX dstY : Int16)

namespace GcDraw

def paint (gc : XGraphicsContextValues) (draw : GcDraw) (buffer : XAuthorityCpuBufferSnapshot) :
    XAuthorityCpuBufferSnapshot :=
  match draw with
  | .fill damage => damage.foldl (fun buffer rect => buffer.fillRect rect gc.foreground gc) buffer
  | .lines points => (points.zip points.tail).foldl (fun buffer ends =>
      buffer.drawLine ends.1 ends.2 (max gc.lineWidth.toNat 1) gc) buffer
  | .text x baseline string isOpaque =>
    (textCells x string).foldl (drawCell gc isOpaque (textTop baseline)) buffer
  | .copy source rect dstX dstY => match clippedBounds source.size rect with
    | none => buffer
    | some bounds => (source.copyCells bounds dstX dstY gc buffer).2

/-- The primitives of the draw, each a rectangle with its source. -/
def stamps (gc : XGraphicsContextValues) : GcDraw → List Stamp
  | .fill damage => fillStamps damage gc
  | .lines points => lineStamps points gc
  | .text x baseline string isOpaque => textStamps x baseline string isOpaque gc
  | .copy source rect dstX dstY => match clippedBounds source.size rect with
    | none => []
    | some bounds => copyStamps source bounds dstX dstY

end GcDraw

/-- One of the rectangles, moved by the origin, has the pixel. -/
def Translated (rectangles : List Rect) (xOrigin yOrigin : Int16) (p : ℕ × ℕ) : Prop :=
  ∃ rect ∈ rectangles,
    (rect.x.toInt + xOrigin.toInt ≤ p.1 ∧
      (p.1 : ℤ) < rect.x.toInt + xOrigin.toInt + rect.width.toInt) ∧
    rect.y.toInt + yOrigin.toInt ≤ p.2 ∧
      (p.2 : ℤ) < rect.y.toInt + yOrigin.toInt + rect.height.toInt

instance (rectangles : List Rect) (xOrigin yOrigin : Int16) (p : ℕ × ℕ) :
    Decidable (Translated rectangles xOrigin yOrigin p) :=
  inferInstanceAs (Decidable (∃ rect ∈ rectangles, _))

/-- Outside the rectangles at their origin the draw changes nothing; inside, every pixel of its
primitives becomes the raster function of its source and of what it was. -/
def ClipLaw (gc : XGraphicsContextValues) (rectangles : List Rect) (xOrigin yOrigin : Int16)
    (draw : GcDraw) (buffer : XAuthorityCpuBufferSnapshot) : Prop :=
  ∀ p, Holds buffer.size p →
    (¬ Translated rectangles xOrigin yOrigin p →
      (draw.paint gc buffer).pixel p = buffer.pixel p) ∧
    (Translated rectangles xOrigin yOrigin p →
      ∀ source ∈ (sourcesOn (draw.stamps gc) p).getLast?,
        Combines gc source (buffer.pixel p) ((draw.paint gc buffer).pixel p))

/-- On the pixels the draw reaches, the rectangles cover the same ones at their origin as at the
context's own and are not empty, and primitives on one pixel come to what the last of them does. -/
def ClipAgrees (gc : XGraphicsContextValues) (rectangles : List Rect) (xOrigin yOrigin : Int16)
    (draw : GcDraw) (size : Size) : Prop :=
  ∀ p, Holds size p → ∀ source ∈ (sourcesOn (draw.stamps gc) p).getLast?,
    (Translated rectangles xOrigin yOrigin p ↔
      rectangles = [] ∨ Translated rectangles gc.clipXOrigin gc.clipYOrigin p) ∧
    (Translated rectangles xOrigin yOrigin p →
      ∀ old, combined gc (sourcesOn (draw.stamps gc) p) old = applyRasterFunction gc source old)

section Raster

theorem colour_bit {i : ℕ} (hi : i < 32) :
    (0x00ffffff : UInt32).toBitVec.getLsbD i = decide (i < 24) := by
  revert i
  decide

theorem getLsbD_and_colour (value : UInt32) {i : ℕ} (hi : i < 32) :
    (value &&& 0x00ffffff).toBitVec.getLsbD i =
      (decide (i < 24) && value.toBitVec.getLsbD i) := by
  rw [UInt32.toBitVec_and, BitVec.getLsbD_and, colour_bit hi, Bool.and_comm]

theorem ones_bit {i : ℕ} (hi : i < 32) : (0xffffffff : UInt32).toBitVec.getLsbD i = true := by
  revert i
  decide

theorem combines_applyRasterFunction (gc : XGraphicsContextValues) (source old : UInt32) :
    Combines gc source old (applyRasterFunction gc source old) := by
  intro i hi
  have hzero : (0 : UInt32).toBitVec.getLsbD i = false := by simp
  unfold applyRasterFunction gxBit
  dsimp only
  rw [getLsbD_and_colour _ hi]
  by_cases hcolour : i < 24
  · simp only [hcolour, decide_true, Bool.true_and, UInt32.toBitVec_or, UInt32.toBitVec_and,
      UInt32.toBitVec_not, BitVec.getLsbD_or, BitVec.getLsbD_and, BitVec.getLsbD_not, hi,
      colour_bit hi, Bool.and_true]
    -- The planes are independent: sixteen functions of two bits, and the copy for the rest.
    split
    all_goals
      rename_i h
      simp only [UInt32.toBitVec_or, UInt32.toBitVec_and, UInt32.toBitVec_xor, hi, hcolour,
        UInt32.toBitVec_not, BitVec.getLsbD_or, BitVec.getLsbD_and, BitVec.getLsbD_xor,
        BitVec.getLsbD_not, colour_bit hi, ones_bit hi, hzero, decide_true, Bool.true_and,
        Bool.and_true]
      generalize source.toBitVec.getLsbD i = s
      generalize old.toBitVec.getLsbD i = d
      generalize gc.planeMask.toBitVec.getLsbD i = m
    case h_17 =>
      simp only [imp_false] at *
      have hlarge : 15 < gc.function.toNat := by omega
      rw [if_pos hlarge]
      cases s <;> cases d <;> cases m <;> rfl
    all_goals
      rw [h]
      cases s <;> cases d <;> cases m <;> decide
  · simp [hcolour]

/-- The table says what every bit is. -/
theorem combines_iff {gc : XGraphicsContextValues} {source old new : UInt32} :
    Combines gc source old new ↔ new = applyRasterFunction gc source old := by
  constructor
  · intro h
    apply UInt32.toBitVec_inj.mp
    apply BitVec.eq_of_getLsbD_eq
    intro i hi
    exact (h i hi).trans (combines_applyRasterFunction gc source old i hi).symm
  · rintro rfl
    exact combines_applyRasterFunction gc source old

/-- The unused byte of a pixel that is combined is cleared. -/
theorem applyRasterFunction_ne_of_unused {gc : XGraphicsContextValues} {source old value : UInt32}
    (h : value.toBitVec.getLsbD 24 = true) : applyRasterFunction gc source old ≠ value := by
  intro he
  have hbit := combines_applyRasterFunction gc source old 24 (by omega)
  rw [he, h] at hbit
  simp at hbit

theorem combined_ne_of_unused {gc : XGraphicsContextValues} {sources : List UInt32}
    {source old value : UInt32} (hlast : source ∈ sources.getLast?)
    (h : value.toBitVec.getLsbD 24 = true) : combined gc sources old ≠ value := by
  rw [← List.dropLast_append_getLast? source hlast, combined_append]
  exact applyRasterFunction_ne_of_unused h

end Raster

section Clip

variable {gc : XGraphicsContextValues} {rectangles : List Rect} {xOrigin yOrigin : Int16}
  {draw : GcDraw} {buffer : XAuthorityCpuBufferSnapshot} {size : Size} {p : ℕ × ℕ}

theorem paints_draw (gc : XGraphicsContextValues) (draw : GcDraw) (size : Size) :
    Paints size (draw.paint gc) (stamped size gc (draw.stamps gc)) := by
  cases draw with
  | fill damage => exact paints_fill size damage gc
  | lines points => exact paints_lines size points gc
  | text x baseline text isOpaque => exact paints_text size x baseline text isOpaque gc
  | copy source rect dstX dstY =>
    simp only [GcDraw.stamps]
    cases hclip : clippedBounds source.size rect with
    | none =>
      refine (Pointwise.actsBy_id.of_eq fun buffer _ => ?_).congr fun p old => ?_
      · rw [GcDraw.paint, hclip]
        rfl
      · rw [stamped_of_uncovered]
        simp
    | some bounds =>
      refine (paints_copyCells hclip size dstX dstY gc).of_eq fun buffer _ => ?_
      rw [GcDraw.paint, hclip]

/-- Where sums in `i32` saturate, the coordinates are out of every buffer. -/
theorem clip_axis_iff {start extent : ℤ} {n : ℕ} (hstart : -2 ^ 31 - 2 ^ 15 ≤ start)
    (hextent : extent < 2 ^ 31) (hn : (n : ℤ) < 2 ^ 31 - 1) :
    (saturated start ≤ min (n : ℤ) (2 ^ 31 - 1) ∧
        min (n : ℤ) (2 ^ 31 - 1) < saturated (saturated start + extent)) ↔
      start ≤ n ∧ (n : ℤ) < start + extent := by
  rw [Int.min_eq_left (by omega)]
  rcases saturated_cases start with ⟨hlow, heq⟩ | ⟨-, heq⟩ | ⟨hhigh, heq⟩
  · rw [heq]
    unfold saturated
    omega
  · rw [heq]
    unfold saturated
    omega
  · rw [heq]
    omega

theorem pixelInClip_iff (hp : Holds size p) :
    pixelInClip gc p.1 p.2 ↔ gc.clipRectangles = [] ∨
      Translated gc.clipRectangles gc.clipXOrigin gc.clipYOrigin p := by
  have hwidth := size.width.toInt_lt
  have hheight := size.height.toInt_lt
  obtain ⟨hpx, hpy⟩ := hp
  unfold pixelInClip Translated
  rw [Bool.or_eq_true, List.isEmpty_iff, List.any_eq_true]
  refine or_congr_right (exists_congr fun rect => and_congr_right fun _ => ?_)
  have hx := rect.x.le_toInt
  have hy := rect.y.le_toInt
  have hxOrigin := gc.clipXOrigin.le_toInt
  have hyOrigin := gc.clipYOrigin.le_toInt
  rw [decide_eq_true_eq, ← clip_axis_iff (by omega) rect.width.toInt_lt (by omega),
    ← clip_axis_iff (by omega) rect.height.toInt_lt (by omega), and_and_and_comm, and_assoc]

/-- Any pixel of a buffer of the size can be any value. -/
theorem exists_buffer (hsize : Sized size) (hp : Holds size p) (value : UInt32) :
    ∃ buffer : XAuthorityCpuBufferSnapshot, buffer.size = size ∧ buffer.pixel p = value := by
  have hblank : (blank 0 ⟨⟨0⟩, 0⟩ size 0 hsize).size = size := rfl
  have hpaints := paints_mapPixel hp (fun _ => value)
  refine ⟨_, hpaints.keeps _ hblank, ?_⟩
  rw [hpaints.view_eq _ hblank, if_pos rfl]

/-- A draw obeys the clip law on every buffer of a size exactly when the clip it is painted with
agrees with the one that was asked for. -/
theorem clip_law_iff (hrects : gc.clipRectangles = rectangles) (hsize : Sized size) :
    (∀ buffer : XAuthorityCpuBufferSnapshot, buffer.size = size →
      ClipLaw gc rectangles xOrigin yOrigin draw buffer) ↔
      ClipAgrees gc rectangles xOrigin yOrigin draw size := by
  have hview : ∀ buffer : XAuthorityCpuBufferSnapshot, buffer.size = size → ∀ p,
      (draw.paint gc buffer).pixel p = stamped size gc (draw.stamps gc) p (buffer.pixel p) :=
    (paints_draw gc draw size).view_eq
  constructor
  · intro hlaw p hp source hsource
    have hclip : pixelInClip gc p.1 p.2 ↔ gc.clipRectangles = [] ∨
        Translated gc.clipRectangles gc.clipXOrigin gc.clipYOrigin p := pixelInClip_iff hp
    rw [hrects] at hclip
    -- A pixel whose unused byte is set shows whether it was painted at all.
    obtain ⟨marked, hmarked, hvalue⟩ := exists_buffer hsize hp 0xff000000
    have hlaw' := hlaw marked hmarked p (hmarked ▸ hp)
    rw [hview marked hmarked, hvalue] at hlaw'
    rw [← hclip]
    constructor
    · constructor
      · intro hin
        by_contra hout
        have hcombines := combines_iff.mp (hlaw'.2 hin source hsource)
        rw [stamped, if_neg fun h => hout h.2] at hcombines
        exact applyRasterFunction_ne_of_unused (by decide) hcombines.symm
      · intro hlet
        by_contra hout
        have hsame := hlaw'.1 hout
        rw [stamped, if_pos ⟨hp, hlet⟩] at hsame
        exact combined_ne_of_unused hsource (by decide) hsame
    · intro hin old
      obtain ⟨buffer, hbuffer, hold⟩ := exists_buffer hsize hp old
      have hcombines :=
        combines_iff.mp ((hlaw buffer hbuffer p (hbuffer ▸ hp)).2 hin source hsource)
      rw [hview buffer hbuffer, hold, stamped] at hcombines
      by_cases hlet : pixelInClip gc p.1 p.2
      · rwa [if_pos ⟨hp, hlet⟩] at hcombines
      · have hcombines := combines_iff.mp (hlaw'.2 hin source hsource)
        rw [stamped, if_neg fun h => hlet h.2] at hcombines
        exact absurd hcombines.symm (applyRasterFunction_ne_of_unused (by decide))
  · intro hagrees buffer hbuffer p hp
    rw [hbuffer] at hp
    have hclip : pixelInClip gc p.1 p.2 ↔ gc.clipRectangles = [] ∨
        Translated gc.clipRectangles gc.clipXOrigin gc.clipYOrigin p := pixelInClip_iff hp
    rw [hrects] at hclip
    rw [hview buffer hbuffer]
    constructor
    · intro hout
      cases hlast : (sourcesOn (draw.stamps gc) p).getLast? with
      | none =>
        rw [stamped, List.getLast?_eq_none_iff.mp hlast]
        exact ite_self _
      | some source =>
        have hlet := hclip.not.mpr fun h => hout ((hagrees p hp source hlast).1.mpr h)
        rw [stamped, if_neg fun h => hlet h.2]
    · intro hin source hsource
      obtain ⟨hiff, hlast⟩ := hagrees p hp source hsource
      rw [combines_iff, stamped, if_pos ⟨hp, hclip.mpr (hiff.mp hin)⟩, hlast hin]

/-- At the context's own origin a clip that is not empty agrees, where the primitives do not
overlap. -/
theorem clipAgrees_of_origin (hrects : rectangles ≠ []) (hx : gc.clipXOrigin = xOrigin)
    (hy : gc.clipYOrigin = yOrigin)
    (hsingle : ∀ p, (sourcesOn (draw.stamps gc) p).length ≤ 1) :
    ClipAgrees gc rectangles xOrigin yOrigin draw size := by
  intro p _ source hsource
  obtain ⟨before, hlist⟩ := List.getLast?_eq_some_iff.mp hsource
  have hlength := hsingle p
  rw [hlist, List.length_append, List.length_singleton] at hlength
  have hnil : before = [] := List.length_eq_zero_iff.mp (by omega)
  subst hx hy hnil
  refine ⟨(or_iff_right hrects).symm, fun _ old => ?_⟩
  rw [hlist]
  rfl

end Clip
end Sophia.Authority
