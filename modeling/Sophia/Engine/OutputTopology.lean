import Mathlib.Algebra.Ring.Int.Defs
import Sophia.Engine.OutputPresentation
import Sophia.Protocol.Output

/-! The extended desktop: the outputs side by side, and what each shows of a rectangle. -/
namespace Sophia.Engine

open Std Sophia.Protocol

def maxDrmKmsOutputs : ℕ := 16

inductive DrmKmsOutputRegistryUpdate where
  | inserted
  | replaced
  | capacityExceeded
  deriving DecidableEq, Repr

namespace DrmKmsOutputRegistry

def new : DrmKmsOutputRegistry := ⟨∅⟩

def upsert (registry : DrmKmsOutputRegistry) (output : DrmKmsOutputDescriptor) :
    DrmKmsOutputRegistryUpdate × DrmKmsOutputRegistry :=
  if output.output ∈ registry.outputs then
    (.replaced, ⟨registry.outputs.insert output.output output⟩)
  else if maxDrmKmsOutputs ≤ registry.outputs.size then
    (.capacityExceeded, registry)
  else
    (.inserted, ⟨registry.outputs.insert output.output output⟩)

def remove (registry : DrmKmsOutputRegistry) (output : OutputId) :
    Option DrmKmsOutputDescriptor × DrmKmsOutputRegistry :=
  (registry.outputs[output]?, ⟨registry.outputs.erase output⟩)

/-- A registry made by its own operations; its map is private. -/
inductive Built : DrmKmsOutputRegistry → Prop
  | new : Built new
  | upsert {registry : DrmKmsOutputRegistry} (h : Built registry)
      (output : DrmKmsOutputDescriptor) : Built (registry.upsert output).2
  | remove {registry : DrmKmsOutputRegistry} (h : Built registry) (output : OutputId) :
      Built (registry.remove output).2

theorem Built.keyed {registry : DrmKmsOutputRegistry} (h : Built registry) :
    Ordered.KeyedBy DrmKmsOutputDescriptor.output registry.outputs := by
  induction h with
  | new => exact Ordered.keyedBy_empty
  | upsert _ output ih =>
    unfold DrmKmsOutputRegistry.upsert
    split
    · exact ih.insert output
    split
    · exact ih
    · exact ih.insert output
  | remove _ output ih =>
    intro k v hv
    exact ih k v ((Ordered.swept_erase output k v).mp hv).1

end DrmKmsOutputRegistry

structure OutputLogicalGeometry where
  output : OutputId
  logical : Rect
  pixelSize : Size
  scale : UInt32
  deriving DecidableEq, Repr

/-- The scale as an `i32`, or the largest one where it is more. -/
def scaleInt32 (scale : UInt32) : Int32 := saturateInt32 (max scale 1).toNat

/-- Where a stretch lies on an output that begins at `origin`, and how much of it is there. -/
def projectAxis (position extent origin size : Int32) : Int32 × Int32 :=
  let start := max position origin
  let stop := min (saturatingAddInt32 position extent) (saturatingAddInt32 origin size)
  (saturatingSubInt32 start origin, saturatingSubInt32 stop start)

/-- The pixels of a stretch of points: the first one, and how many. -/
def scaleAxis (scale pixels : Int32) (axis : Int32 × Int32) : Int32 × Int32 :=
  (saturatingMulInt32 axis.1 scale, min (saturatingMulInt32 axis.2 scale) pixels)

namespace OutputLogicalGeometry

def columns (geometry : OutputLogicalGeometry) (rect : Rect) : Int32 × Int32 :=
  projectAxis rect.x rect.width geometry.logical.x geometry.logical.width

def rows (geometry : OutputLogicalGeometry) (rect : Rect) : Int32 × Int32 :=
  projectAxis rect.y rect.height geometry.logical.y geometry.logical.height

def projectRect (geometry : OutputLogicalGeometry) (rect : Rect) : Option Rect :=
  let columns := geometry.columns rect
  let rows := geometry.rows rect
  if 0 < columns.2 ∧ 0 < rows.2 then some ⟨columns.1, rows.1, columns.2, rows.2⟩ else none

def projectDamage (geometry : OutputLogicalGeometry) (damage : Region) : Region :=
  ⟨damage.rects.filterMap geometry.projectRect⟩

/-- A rectangle of an output's points in its pixels. -/
def pixels (geometry : OutputLogicalGeometry) (own : Rect) : Rect :=
  let scale := scaleInt32 geometry.scale
  let columns := scaleAxis scale geometry.pixelSize.width (own.x, own.width)
  let rows := scaleAxis scale geometry.pixelSize.height (own.y, own.height)
  ⟨columns.1, rows.1, columns.2, rows.2⟩

def projectRectPixels (geometry : OutputLogicalGeometry) (rect : Rect) : Option Rect :=
  (geometry.projectRect rect).map geometry.pixels

def projectDamagePixels (geometry : OutputLogicalGeometry) (damage : Region) : Region :=
  ⟨damage.rects.filterMap geometry.projectRectPixels⟩

end OutputLogicalGeometry

/-- The points of a mode's pixels at a scale; there is at least one. -/
def logicalExtent (pixels : Int32) (scale : UInt32) : Int32 :=
  max (saturatingDivInt32 pixels (scaleInt32 scale)) 1

/-- What an output's geometry is once its left edge is known. -/
def DrmKmsOutputDescriptor.geometry (logicalX : Int32) (output : DrmKmsOutputDescriptor) :
    OutputLogicalGeometry where
  output := output.output
  logical := {
    x := logicalX
    y := 0
    width := logicalExtent output.mode.size.width output.scale
    height := logicalExtent output.mode.size.height output.scale }
  pixelSize := output.mode.size
  scale := max output.scale 1

structure ExtendedDesktopTopology where
  outputs : ExtTreeMap OutputId OutputLogicalGeometry
  logicalSize : Size

namespace ExtendedDesktopTopology

/-- One turn of the loop: the next output begins where the desktop ends so far. -/
def place (topology : ExtendedDesktopTopology) (output : DrmKmsOutputDescriptor) :
    ExtendedDesktopTopology :=
  let geometry := output.geometry topology.logicalSize.width
  { outputs := topology.outputs.insert output.output geometry
    logicalSize := {
      width := saturatingAddInt32 topology.logicalSize.width geometry.logical.width
      height := max topology.logicalSize.height geometry.logical.height } }

def fromDrmOutputs (outputs : DrmKmsOutputRegistry) : ExtendedDesktopTopology :=
  (Ordered.values outputs.outputs).foldl place ⟨∅, 0, 0⟩

def get (topology : ExtendedDesktopTopology) (output : OutputId) : Option OutputLogicalGeometry :=
  topology.outputs[output]?

end ExtendedDesktopTopology

section Axes

variable {position extent origin size pixels : Int32} {scale : UInt32} {axis : Int32 × Int32}

theorem scale_pos (scale : UInt32) : 1 ≤ (max scale 1).toNat := by
  have hone : (1 : UInt32).toNat = 1 := rfl
  show 1 ≤ (if scale ≤ 1 then 1 else scale : UInt32).toNat
  split
  · omega
  · rename_i h
    rw [UInt32.le_iff_toNat_le] at h
    omega

theorem scale_idem (scale : UInt32) : max (max scale 1) 1 = max scale 1 := by
  have hone : (1 : UInt32).toNat = 1 := rfl
  have hpositive := scale_pos scale
  show (if max scale 1 ≤ 1 then 1 else max scale 1) = max scale 1
  split
  · rename_i h
    rw [UInt32.le_iff_toNat_le] at h
    exact UInt32.toNat_inj.mp (by omega)
  · rfl

theorem logicalExtent_scale : logicalExtent pixels (max scale 1) = logicalExtent pixels scale := by
  rw [logicalExtent, logicalExtent, scaleInt32, scaleInt32, scale_idem]

theorem toInt_scaleInt32 (scale : UInt32) :
    (scaleInt32 scale).toInt = min ((max scale 1).toNat : ℤ) (2 ^ 31 - 1) := by
  rw [scaleInt32, toInt_saturate]
  omega

/-- A pixel is in the same block at the scale and at the scale cut off. -/
theorem ediv_scaleInt32 {u : ℤ} (hu : 0 ≤ u) (hhigh : u < 2 ^ 31 - 1) :
    u / (scaleInt32 scale).toInt = u / (max scale 1).toNat := by
  rw [toInt_scaleInt32]
  rcases Int.le_total ((max scale 1).toNat : ℤ) (2 ^ 31 - 1) with h | h
  · rw [Int.min_eq_left h]
  · rw [Int.min_eq_right h, Int.ediv_eq_zero_of_lt hu hhigh,
      Int.ediv_eq_zero_of_lt hu (Int.lt_of_lt_of_le hhigh h)]

theorem toInt_logicalExtent (hpixels : 0 < pixels.toInt) :
    (logicalExtent pixels scale).toInt =
      max (pixels.toInt / (scaleInt32 scale).toInt) 1 := by
  have hone : (1 : Int32).toInt = 1 := rfl
  have hpositive := scale_pos scale
  have hscale := toInt_scaleInt32 scale
  have hlow : 0 ≤ pixels.toInt / (scaleInt32 scale).toInt :=
    Int.ediv_nonneg (by omega) (by omega)
  have hhigh : pixels.toInt / (scaleInt32 scale).toInt ≤ pixels.toInt :=
    Int.ediv_le_self _ (by omega)
  have hlt := pixels.toInt_lt
  rw [logicalExtent, I32.toInt_max, saturatingDivInt32, Int.tdiv_eq_ediv_of_nonneg (by omega),
    toInt_saturate_of_fits ⟨by omega, by omega⟩, hone]

/-- A difference that saturates is negative, so the stretch is empty as it should be. -/
theorem lt_saturatingSub_iff {start stop d : ℤ} (hstart : 0 ≤ start) (hstop : stop < 2 ^ 31)
    (hd : start ≤ d) : d < start + max (-2 ^ 31) (min (stop - start) (2 ^ 31 - 1)) ↔ d < stop := by
  omega

/-- A sum that saturates is past the point, or else before it. -/
theorem lt_saturatingAdd_iff {sum d : ℤ} (hd : 0 ≤ d) (hhigh : d < 2 ^ 31 - 1) :
    d < max (-2 ^ 31) (min sum (2 ^ 31 - 1)) ↔ d < sum := by
  omega

theorem toInt_projectAxis (horigin : 0 ≤ origin.toInt) (hsize : 0 ≤ size.toInt)
    (hend : origin.toInt + size.toInt < 2 ^ 31) :
    (projectAxis position extent origin size).1.toInt =
        max position.toInt origin.toInt - origin.toInt ∧
      (projectAxis position extent origin size).2.toInt =
        max (-2 ^ 31) (min (min (saturatingAddInt32 position extent).toInt
          (origin.toInt + size.toInt) - max position.toInt origin.toInt) (2 ^ 31 - 1)) := by
  have hhigh := position.toInt_lt
  have hexact : (saturatingAddInt32 origin size).toInt = origin.toInt + size.toInt :=
    toInt_saturate_of_fits ⟨by omega, hend⟩
  constructor
  · simp only [projectAxis, toInt_saturatingSubInt32, I32.toInt_max]
    omega
  · simp only [projectAxis, toInt_saturatingSubInt32, I32.toInt_max, I32.toInt_min, hexact]

/-- The part of a stretch on an output has the points the stretch and the output share, counted
from where the output begins. -/
theorem projectAxis_covers (horigin : 0 ≤ origin.toInt) (hsize : 0 ≤ size.toInt)
    (hend : origin.toInt + size.toInt < 2 ^ 31) (d : ℤ) :
    ((projectAxis position extent origin size).1.toInt ≤ d ∧
        d < (projectAxis position extent origin size).1.toInt +
          (projectAxis position extent origin size).2.toInt) ↔
      (0 ≤ d ∧ d < size.toInt) ∧ position.toInt ≤ origin.toInt + d ∧
        origin.toInt + d < position.toInt + extent.toInt := by
  have hsum : (saturatingAddInt32 position extent).toInt = _ := toInt_saturatingAddInt32
  have hfirst : (projectAxis position extent origin size).1.toInt = _ :=
    (toInt_projectAxis horigin hsize hend).1
  have hcount : (projectAxis position extent origin size).2.toInt = _ :=
    (toInt_projectAxis horigin hsize hend).2
  rw [hfirst, hcount]
  have hstart : 0 ≤ max position.toInt origin.toInt := by omega
  have hlow : max position.toInt origin.toInt ≤ origin.toInt + d ↔
      position.toInt ≤ origin.toInt + d ∧ 0 ≤ d := by
    rw [Int.max_le]
    omega
  generalize max position.toInt origin.toInt = start at hstart hlow ⊢
  have hstop : min (saturatingAddInt32 position extent).toInt (origin.toInt + size.toInt) <
      2 ^ 31 := by omega
  have hhigh : 0 ≤ d → (origin.toInt + d <
      min (saturatingAddInt32 position extent).toInt (origin.toInt + size.toInt) ↔
        origin.toInt + d < position.toInt + extent.toInt ∧ d < size.toInt) := by
    intro hd
    rw [Int.lt_min, hsum, and_congr_left fun h => lt_saturatingAdd_iff (by omega) (by omega)]
    omega
  generalize min (saturatingAddInt32 position extent).toInt (origin.toInt + size.toInt) = stop
    at hstop hhigh ⊢
  have hshift : start ≤ origin.toInt + d → (d < start - origin.toInt +
      max (-2 ^ 31) (min (stop - start) (2 ^ 31 - 1)) ↔ origin.toInt + d < stop) := by
    intro hle
    rw [← lt_saturatingSub_iff hstart hstop hle]
    omega
  have hcorner : start - origin.toInt ≤ d ↔ start ≤ origin.toInt + d := by omega
  constructor
  · rintro ⟨hle, hlt⟩
    have hreach := hcorner.mp hle
    obtain ⟨hposition, hd⟩ := hlow.mp hreach
    obtain ⟨hin, hwithin⟩ := (hhigh hd).mp ((hshift hreach).mp hlt)
    exact ⟨⟨hd, hwithin⟩, hposition, hin⟩
  · rintro ⟨⟨hd, hwithin⟩, hposition, hin⟩
    have hreach := hlow.mpr ⟨hposition, hd⟩
    exact ⟨hcorner.mpr hreach, (hshift hreach).mpr ((hhigh hd).mpr ⟨hin, hwithin⟩)⟩

/-- The pixels of a stretch of an output's points are those whose block is one of them. -/
theorem scaleAxis_covers (hpixels : 0 < pixels.toInt) (hstart : 0 ≤ axis.1.toInt)
    (hextent : 0 < axis.2.toInt)
    (hend : axis.1.toInt + axis.2.toInt ≤ (logicalExtent pixels scale).toInt) (u : ℤ) :
    ((scaleAxis (scaleInt32 scale) pixels axis).1.toInt ≤ u ∧
        u < (scaleAxis (scaleInt32 scale) pixels axis).1.toInt +
          (scaleAxis (scaleInt32 scale) pixels axis).2.toInt) ↔
      (0 ≤ u ∧ u < pixels.toInt) ∧ axis.1.toInt ≤ u / (max scale 1).toNat ∧
        u / (max scale 1).toNat < axis.1.toInt + axis.2.toInt := by
  have hlt := pixels.toInt_lt
  have hscale : 0 < (scaleInt32 scale).toInt := by
    have := scale_pos scale
    rw [toInt_scaleInt32]
    omega
  rw [toInt_logicalExtent hpixels] at hend
  simp only [scaleAxis, toInt_saturatingMulInt32, I32.toInt_min]
  -- Inside the mode the division may use the scale cut off.
  have hblock (hin : 0 ≤ u ∧ u < pixels.toInt) :
      (axis.1.toInt ≤ u / (max scale 1).toNat ↔ axis.1.toInt * (scaleInt32 scale).toInt ≤ u) ∧
        (u / (max scale 1).toNat < axis.1.toInt + axis.2.toInt ↔
          u < (axis.1.toInt + axis.2.toInt) * (scaleInt32 scale).toInt) := by
    rw [← ediv_scaleInt32 hin.1 (by omega)]
    exact ⟨Int.le_ediv_iff_mul_le hscale, Int.ediv_lt_iff_lt_mul hscale⟩
  rw [and_congr_right fun hin => and_congr (hblock hin).1 (hblock hin).2]
  generalize (scaleInt32 scale).toInt = s at *
  have hsplit : (axis.1.toInt + axis.2.toInt) * s = axis.1.toInt * s + axis.2.toInt * s :=
    Int.add_mul _ _ _
  have hbefore : 0 ≤ axis.1.toInt * s := Int.mul_nonneg hstart (by omega)
  have hown : 0 < axis.2.toInt * s := Int.mul_pos hextent hscale
  rcases Int.lt_or_le (pixels.toInt / s) 1 with hsmall | hlarge
  · -- The mode is narrower than one block: its only point is all of it.
    have hwide : pixels.toInt < 1 * s := (Int.ediv_lt_iff_lt_mul hscale).mp hsmall
    obtain ⟨hzero, hone⟩ : axis.1.toInt = 0 ∧ axis.2.toInt = 1 := by omega
    rw [hzero, hone, Int.zero_mul, Int.one_mul, Int.zero_add, Int.one_mul]
    omega
  · have hfit : (axis.1.toInt + axis.2.toInt) * s ≤ pixels.toInt := by
      refine Int.le_trans (Int.mul_le_mul_of_nonneg_right ?_ (Int.le_of_lt hscale))
        (Int.ediv_mul_le pixels.toInt (by omega))
      omega
    omega

end Axes

namespace OutputLogicalGeometry

/-- The output lies right of the origin, ends before the largest coordinate, and has the points its
mode and scale give it. -/
structure Placed (geometry : OutputLogicalGeometry) : Prop where
  left : 0 ≤ geometry.logical.x.toInt
  right : geometry.logical.x.toInt + geometry.logical.width.toInt < 2 ^ 31
  top : geometry.logical.y = 0
  scale : geometry.scale = max geometry.scale 1
  width : geometry.logical.width = logicalExtent geometry.pixelSize.width geometry.scale
  height : geometry.logical.height = logicalExtent geometry.pixelSize.height geometry.scale
  wide : 0 < geometry.pixelSize.width.toInt
  tall : 0 < geometry.pixelSize.height.toInt

variable {geometry : OutputLogicalGeometry} {rect own : Rect}

theorem Placed.width_pos (h : geometry.Placed) : 0 < geometry.logical.width.toInt := by
  rw [h.width, toInt_logicalExtent h.wide]
  omega

theorem Placed.height_pos (h : geometry.Placed) : 0 < geometry.logical.height.toInt := by
  rw [h.height, toInt_logicalExtent h.tall]
  omega

theorem Placed.columns_covers (h : geometry.Placed) (rect : Rect) (d : ℤ) :
    ((geometry.columns rect).1.toInt ≤ d ∧
        d < (geometry.columns rect).1.toInt + (geometry.columns rect).2.toInt) ↔
      (0 ≤ d ∧ d < geometry.logical.width.toInt) ∧
        rect.x.toInt ≤ geometry.logical.x.toInt + d ∧
        geometry.logical.x.toInt + d < rect.x.toInt + rect.width.toInt :=
  projectAxis_covers h.left (Int.le_of_lt h.width_pos) h.right d

theorem Placed.rows_covers (h : geometry.Placed) (rect : Rect) (d : ℤ) :
    ((geometry.rows rect).1.toInt ≤ d ∧
        d < (geometry.rows rect).1.toInt + (geometry.rows rect).2.toInt) ↔
      (0 ≤ d ∧ d < geometry.logical.height.toInt) ∧
        rect.y.toInt ≤ geometry.logical.y.toInt + d ∧
        geometry.logical.y.toInt + d < rect.y.toInt + rect.height.toInt := by
  have hheight := geometry.logical.height.toInt_lt
  have hzero : geometry.logical.y.toInt = 0 := by
    rw [h.top]
    rfl
  exact projectAxis_covers (by omega) (Int.le_of_lt h.height_pos) (by omega) d

theorem mem_projectRect_iff : own ∈ geometry.projectRect rect ↔
    (0 < (geometry.columns rect).2.toInt ∧ 0 < (geometry.rows rect).2.toInt) ∧
      ⟨(geometry.columns rect).1, (geometry.rows rect).1, (geometry.columns rect).2,
        (geometry.rows rect).2⟩ = own := by
  simp only [projectRect, Option.mem_def, Option.ite_none_right_eq_some, Option.some.injEq,
    Int32.lt_iff_toInt_lt]
  rfl

/-- What an output shows of a rectangle are the points they share, counted from its origin. -/
theorem projectRect_has (h : geometry.Placed) (rect : Rect) (point : ℤ × ℤ) :
    (∃ own ∈ geometry.projectRect rect, own.Has point) ↔
      ((0 ≤ point.1 ∧ point.1 < geometry.logical.width.toInt) ∧
        0 ≤ point.2 ∧ point.2 < geometry.logical.height.toInt) ∧
      rect.Has (geometry.logical.x.toInt + point.1, geometry.logical.y.toInt + point.2) := by
  have hcolumns := h.columns_covers rect point.1
  have hrows := h.rows_covers rect point.2
  constructor
  · rintro ⟨own, hown, hin⟩
    obtain ⟨-, rfl⟩ := mem_projectRect_iff.mp hown
    obtain ⟨hx, hx'⟩ := hcolumns.mp hin.1
    obtain ⟨hy, hy'⟩ := hrows.mp hin.2
    exact ⟨⟨hx, hy⟩, hx', hy'⟩
  · rintro ⟨⟨hx, hy⟩, hx', hy'⟩
    have hcolumn := hcolumns.mpr ⟨hx, hx'⟩
    have hrow := hrows.mpr ⟨hy, hy'⟩
    exact ⟨_, mem_projectRect_iff.mpr ⟨⟨by omega, by omega⟩, rfl⟩, hcolumn, hrow⟩

/-- What an output shows of a rectangle is not empty, and lies on the output. -/
theorem projectRect_bounds (h : geometry.Placed) (hown : own ∈ geometry.projectRect rect) :
    (0 ≤ own.x.toInt ∧ 0 < own.width.toInt ∧
        own.x.toInt + own.width.toInt ≤ geometry.logical.width.toInt) ∧
      0 ≤ own.y.toInt ∧ 0 < own.height.toInt ∧
        own.y.toInt + own.height.toInt ≤ geometry.logical.height.toInt := by
  obtain ⟨⟨hwidth, hheight⟩, rfl⟩ := mem_projectRect_iff.mp hown
  have hleft := h.columns_covers rect (geometry.columns rect).1.toInt
  have hright := h.columns_covers rect
    ((geometry.columns rect).1.toInt + (geometry.columns rect).2.toInt - 1)
  have htop := h.rows_covers rect (geometry.rows rect).1.toInt
  have hbottom := h.rows_covers rect
    ((geometry.rows rect).1.toInt + (geometry.rows rect).2.toInt - 1)
  dsimp only
  exact ⟨⟨by omega, hwidth, by omega⟩, by omega, hheight, by omega⟩

/-- The pixels of a projection are those of the mode whose block is one of its points. -/
theorem projectRectPixels_has (h : geometry.Placed) (rect : Rect) (pixel : ℤ × ℤ) :
    (∃ shown ∈ geometry.projectRectPixels rect, shown.Has pixel) ↔
      ((0 ≤ pixel.1 ∧ pixel.1 < geometry.pixelSize.width.toInt) ∧
        0 ≤ pixel.2 ∧ pixel.2 < geometry.pixelSize.height.toInt) ∧
      ∃ own ∈ geometry.projectRect rect,
        own.Has (pixel.1 / geometry.scale.toNat, pixel.2 / geometry.scale.toNat) := by
  have hpixels (own) (hown : own ∈ geometry.projectRect rect) :
      (geometry.pixels own).Has pixel ↔
        ((0 ≤ pixel.1 ∧ pixel.1 < geometry.pixelSize.width.toInt) ∧
          0 ≤ pixel.2 ∧ pixel.2 < geometry.pixelSize.height.toInt) ∧
        own.Has (pixel.1 / geometry.scale.toNat, pixel.2 / geometry.scale.toNat) := by
    obtain ⟨⟨hx, hwidth, hx'⟩, hy, hheight, hy'⟩ := projectRect_bounds h hown
    rw [h.width] at hx'
    rw [h.height] at hy'
    have hcolumns := @scaleAxis_covers _ _ (own.x, own.width) h.wide hx hwidth hx' pixel.1
    have hrows := @scaleAxis_covers _ _ (own.y, own.height) h.tall hy hheight hy' pixel.2
    rw [← h.scale] at hcolumns hrows
    exact (and_congr hcolumns hrows).trans and_and_and_comm
  constructor
  · rintro ⟨shown, hshown, hin⟩
    obtain ⟨own, hown, rfl⟩ := Option.map_eq_some_iff.mp hshown
    obtain ⟨hmode, hin⟩ := (hpixels own hown).mp hin
    exact ⟨hmode, own, hown, hin⟩
  · rintro ⟨hmode, own, hown, hin⟩
    exact ⟨_, Option.map_eq_some_iff.mpr ⟨own, hown, rfl⟩, (hpixels own hown).mpr ⟨hmode, hin⟩⟩

/-- A point of the desktop, counted from where the output begins. -/
def inside (geometry : OutputLogicalGeometry) (point : ℤ × ℤ) : ℤ × ℤ :=
  (point.1 - geometry.logical.x.toInt, point.2 - geometry.logical.y.toInt)

/-- The pixel is in the square block of the point, `scale` on each side. -/
def InBlock (scale : UInt32) (point pixel : ℤ × ℤ) : Prop :=
  (point.1 * scale.toNat ≤ pixel.1 ∧ pixel.1 < (point.1 + 1) * scale.toNat) ∧
    point.2 * scale.toNat ≤ pixel.2 ∧ pixel.2 < (point.2 + 1) * scale.toNat

theorem ediv_eq_iff_block {scale : ℕ} (hscale : 0 < scale) {point pixel : ℤ} :
    pixel / scale = point ↔ point * scale ≤ pixel ∧ pixel < (point + 1) * scale := by
  have hpositive : (0 : ℤ) < scale := by omega
  rw [← Int.le_ediv_iff_mul_le hpositive, ← Int.ediv_lt_iff_lt_mul hpositive]
  omega

theorem inBlock_iff {scale : UInt32} (hscale : 0 < scale.toNat) {point pixel : ℤ × ℤ} :
    InBlock scale point pixel ↔ (pixel.1 / scale.toNat, pixel.2 / scale.toNat) = point := by
  rw [InBlock, ← ediv_eq_iff_block hscale, ← ediv_eq_iff_block hscale, Prod.ext_iff]

/-- A point of the output is in a rectangle exactly when it is in the projection, moved along. -/
theorem projectRect_exact (h : geometry.Placed) (rect : Rect) {point : ℤ × ℤ}
    (hon : geometry.logical.Has point) :
    rect.Has point ↔ ∃ own ∈ geometry.projectRect rect, own.Has (geometry.inside point) := by
  obtain ⟨hx, hy⟩ := hon
  have hback : (geometry.logical.x.toInt + (geometry.inside point).1,
      geometry.logical.y.toInt + (geometry.inside point).2) = point := by
    refine Prod.ext ?_ ?_
    all_goals
      simp only [inside]
      omega
  rw [projectRect_has h, hback]
  refine (and_iff_right ?_).symm
  simp only [inside]
  omega

/-- A pixel is shown exactly when it is one of the mode's and in the block of a point of the
rectangle on the output. -/
theorem projectRectPixels_exact (h : geometry.Placed) (rect : Rect) (pixel : ℤ × ℤ) :
    (∃ shown ∈ geometry.projectRectPixels rect, shown.Has pixel) ↔
      ((0 ≤ pixel.1 ∧ pixel.1 < geometry.pixelSize.width.toInt) ∧
        0 ≤ pixel.2 ∧ pixel.2 < geometry.pixelSize.height.toInt) ∧
      ∃ point, geometry.logical.Has point ∧ rect.Has point ∧
        InBlock geometry.scale (geometry.inside point) pixel := by
  have hscale : 0 < geometry.scale.toNat := by
    have hpositive := scale_pos geometry.scale
    rwa [← h.scale] at hpositive
  rw [projectRectPixels_has h, and_congr_right_iff]
  intro hmode
  rw [projectRect_has h]
  constructor
  · rintro ⟨⟨hx, hy⟩, hin⟩
    refine ⟨_, ?_, hin, (inBlock_iff hscale).mpr ?_⟩
    · simp only [Rect.Has]
      omega
    · simp only [inside, Prod.mk.injEq]
      omega
  · rintro ⟨point, hon, hin, hblock⟩
    rw [inBlock_iff hscale] at hblock
    rw [hblock, ← projectRect_has h]
    exact (projectRect_exact h rect hon).mp hin

/-- The pixels of projected damage are the blocks of the damaged points on the output. -/
theorem projectDamagePixels_exact (h : geometry.Placed) (damage : Region) (pixel : ℤ × ℤ) :
    (∃ shown ∈ (geometry.projectDamagePixels damage).rects, shown.Has pixel) ↔
      ((0 ≤ pixel.1 ∧ pixel.1 < geometry.pixelSize.width.toInt) ∧
        0 ≤ pixel.2 ∧ pixel.2 < geometry.pixelSize.height.toInt) ∧
      ∃ rect ∈ damage.rects, ∃ point, geometry.logical.Has point ∧ rect.Has point ∧
        InBlock geometry.scale (geometry.inside point) pixel := by
  simp only [projectDamagePixels, List.mem_filterMap]
  constructor
  · rintro ⟨shown, ⟨rect, hrect, hshown⟩, hin⟩
    obtain ⟨hmode, hpoint⟩ := (projectRectPixels_exact h rect pixel).mp ⟨shown, hshown, hin⟩
    exact ⟨hmode, rect, hrect, hpoint⟩
  · rintro ⟨hmode, rect, hrect, hpoint⟩
    obtain ⟨shown, hshown, hin⟩ := (projectRectPixels_exact h rect pixel).mpr ⟨hmode, hpoint⟩
    exact ⟨shown, ⟨rect, hrect, hshown⟩, hin⟩

end OutputLogicalGeometry

/-- Each begins at the top where the one before it ended. -/
def SideBySide : ℤ → List Rect → Prop
  | _, [] => True
  | start, rect :: rest => rect.x.toInt = start ∧ rect.y.toInt = 0 ∧
      SideBySide (start + rect.width.toInt) rest

section Row

variable {start : ℤ} {rects : List Rect}

theorem SideBySide.start_le (h : SideBySide start rects)
    (hwidths : ∀ rect ∈ rects, 0 ≤ rect.width.toInt) : ∀ rect ∈ rects, start ≤ rect.x.toInt := by
  induction rects generalizing start with
  | nil => simp
  | cons first rest ih =>
    obtain ⟨hx, -, hrest⟩ := h
    have hfirst := hwidths first List.mem_cons_self
    intro rect hrect
    rcases List.mem_cons.mp hrect with rfl | hrect
    · omega
    · have := ih hrest (fun rect hrect => hwidths rect (List.mem_cons_of_mem _ hrect)) rect hrect
      omega

/-- Rectangles side by side share no point. -/
theorem SideBySide.disjoint (h : SideBySide start rects)
    (hwidths : ∀ rect ∈ rects, 0 ≤ rect.width.toInt) :
    rects.Pairwise fun a b => ∀ point, a.Has point → ¬ b.Has point := by
  induction rects generalizing start with
  | nil => exact .nil
  | cons first rest ih =>
    obtain ⟨hx, -, hrest⟩ := h
    have hwidths' := fun rect hrect => hwidths rect (List.mem_cons_of_mem _ hrect)
    refine .cons ?_ (ih hrest hwidths')
    intro rect hrect point hfirst hpoint
    have hend := hrest.start_le hwidths' rect hrect
    have hleft := hfirst.1
    have hright := hpoint.1
    omega

end Row

section Layout

variable {logicalX : Int32} {output : DrmKmsOutputDescriptor} {geometry : OutputLogicalGeometry}
  {outputs : List DrmKmsOutputDescriptor}

/-- The geometries the loop puts down, from the left edge of the first. -/
def laidOut (logicalX : Int32) : List DrmKmsOutputDescriptor → List OutputLogicalGeometry
  | [] => []
  | output :: rest =>
    let geometry := output.geometry logicalX
    geometry :: laidOut (saturatingAddInt32 logicalX geometry.logical.width) rest

/-- The sum of the logical widths. -/
def logicalWidths (outputs : List DrmKmsOutputDescriptor) : ℤ :=
  (outputs.map fun output => (logicalExtent output.mode.size.width output.scale).toInt).sum

def Positive (outputs : List DrmKmsOutputDescriptor) : Prop :=
  ∀ output ∈ outputs, 0 < output.mode.size.width.toInt ∧ 0 < output.mode.size.height.toInt

theorem outputs_foldl_place (topology : ExtendedDesktopTopology) :
    (outputs.foldl ExtendedDesktopTopology.place topology).outputs =
      topology.outputs.insertMany ((laidOut topology.logicalSize.width outputs).map
        fun geometry => (geometry.output, geometry)) := by
  induction outputs generalizing topology with
  | nil => simp [laidOut]
  | cons output rest ih =>
    rw [List.foldl_cons, ih, laidOut, List.map_cons, ExtTreeMap.insertMany_cons]
    rfl

theorem map_laidOut : (laidOut logicalX outputs).map
      (fun geometry => (geometry.output, geometry.pixelSize, geometry.scale)) =
    outputs.map fun output => (output.output, output.mode.size, max output.scale 1) := by
  induction outputs generalizing logicalX with
  | nil => rfl
  | cons output rest ih =>
    rw [laidOut, List.map_cons, ih]
    rfl

/-- The topology has what the loop put down, in the order of the outputs' ids. -/
theorem values_fromDrmOutputs {registry : DrmKmsOutputRegistry} (h : registry.Built) :
    Ordered.values (ExtendedDesktopTopology.fromDrmOutputs registry).outputs =
      laidOut 0 (Ordered.values registry.outputs) := by
  have hsorted := h.keyed.sorted_values
  have hids : (laidOut 0 (Ordered.values registry.outputs)).map OutputLogicalGeometry.output =
      (Ordered.values registry.outputs).map DrmKmsOutputDescriptor.output := by
    have hall := congrArg (List.map Prod.fst) (@map_laidOut 0 (Ordered.values registry.outputs))
    rw [List.map_map, List.map_map] at hall
    exact hall
  rw [← hids] at hsorted
  rw [ExtendedDesktopTopology.fromDrmOutputs, outputs_foldl_place,
    ← ExtTreeMap.ofList_eq_insertMany_empty]
  exact Ordered.values_ofList_map hsorted

theorem placed_geometry (hleft : 0 ≤ logicalX.toInt)
    (hend : logicalX.toInt + (output.geometry logicalX).logical.width.toInt < 2 ^ 31)
    (hwide : 0 < output.mode.size.width.toInt) (htall : 0 < output.mode.size.height.toInt) :
    (output.geometry logicalX).Placed where
  left := hleft
  right := hend
  top := rfl
  scale := (scale_idem _).symm
  width := logicalExtent_scale.symm
  height := logicalExtent_scale.symm
  wide := hwide
  tall := htall

theorem logicalWidths_cons (logicalX : Int32) (output : DrmKmsOutputDescriptor) :
    logicalWidths (output :: outputs) =
      (output.geometry logicalX).logical.width.toInt + logicalWidths outputs := by
  rw [logicalWidths, List.map_cons, List.sum_cons]
  rfl

theorem logicalWidths_nonneg (h : Positive outputs) : 0 ≤ logicalWidths outputs := by
  induction outputs with
  | nil => exact Int.le_refl 0
  | cons output rest ih =>
    obtain ⟨hmode, hrest⟩ := List.forall_mem_cons.mp h
    have hrest := ih hrest
    rw [logicalWidths_cons 0]
    show 0 ≤ (logicalExtent output.mode.size.width output.scale).toInt + _
    rw [toInt_logicalExtent hmode.1]
    omega

/-- Where the widths add up to a coordinate, every output is placed and they lie side by side. -/
theorem laidOut_placed (hmodes : Positive outputs) (hleft : 0 ≤ logicalX.toInt)
    (hwidths : logicalX.toInt + logicalWidths outputs < 2 ^ 31) :
    (∀ geometry ∈ laidOut logicalX outputs, geometry.Placed) ∧
      SideBySide logicalX.toInt ((laidOut logicalX outputs).map OutputLogicalGeometry.logical) := by
  induction outputs generalizing logicalX with
  | nil => exact ⟨by simp [laidOut], trivial⟩
  | cons output rest ih =>
    obtain ⟨hmode, hrest⟩ := List.forall_mem_cons.mp hmodes
    have hnonneg := logicalWidths_nonneg hrest
    rw [logicalWidths_cons logicalX] at hwidths
    have hplaced := placed_geometry hleft (by omega) hmode.1 hmode.2
    have hright := hplaced.right
    have hpositive := hplaced.width_pos
    have hnext : (saturatingAddInt32 logicalX (output.geometry logicalX).logical.width).toInt =
        logicalX.toInt + (output.geometry logicalX).logical.width.toInt :=
      toInt_saturate_of_fits ⟨by omega, hright⟩
    obtain ⟨hall, hside⟩ := @ih (saturatingAddInt32 logicalX
      (output.geometry logicalX).logical.width) hrest (by omega) (by omega)
    rw [hnext] at hside
    exact ⟨List.forall_mem_cons.mpr ⟨hplaced, hall⟩, rfl, rfl, hside⟩

end Layout

/-- The extended desktop of any registry whose logical widths add up to a coordinate: the outputs
lie side by side and share no point, and what each shows of a rectangle are exactly the points of
the rectangle on it, and exactly the blocks of those points in its pixels. -/
theorem extended_desktop_projects {registry : DrmKmsOutputRegistry} (hbuilt : registry.Built)
    (hmodes : Positive (Ordered.values registry.outputs))
    (hwidths : logicalWidths (Ordered.values registry.outputs) ≤ 2 ^ 31 - 1) :
    (Ordered.values (ExtendedDesktopTopology.fromDrmOutputs registry).outputs).map
        (fun geometry => (geometry.output, geometry.pixelSize, geometry.scale)) =
      (Ordered.values registry.outputs).map
        (fun output => (output.output, output.mode.size, max output.scale 1)) ∧
    SideBySide 0 ((Ordered.values (ExtendedDesktopTopology.fromDrmOutputs registry).outputs).map
      OutputLogicalGeometry.logical) ∧
    (Ordered.values (ExtendedDesktopTopology.fromDrmOutputs registry).outputs).Pairwise
      (fun a b => ∀ point, a.logical.Has point → ¬ b.logical.Has point) ∧
    ∀ geometry ∈ Ordered.values (ExtendedDesktopTopology.fromDrmOutputs registry).outputs,
      ∀ rect : Rect,
        (∀ point, geometry.logical.Has point → (rect.Has point ↔
          ∃ own ∈ geometry.projectRect rect, own.Has (geometry.inside point))) ∧
        ∀ pixel, (∃ shown ∈ geometry.projectRectPixels rect, shown.Has pixel) ↔
          ((0 ≤ pixel.1 ∧ pixel.1 < geometry.pixelSize.width.toInt) ∧
            0 ≤ pixel.2 ∧ pixel.2 < geometry.pixelSize.height.toInt) ∧
          ∃ point, geometry.logical.Has point ∧ rect.Has point ∧
            OutputLogicalGeometry.InBlock geometry.scale (geometry.inside point) pixel := by
  have hzero : (0 : Int32).toInt = 0 := rfl
  rw [values_fromDrmOutputs hbuilt]
  obtain ⟨hplaced, hside⟩ := @laidOut_placed 0 _ hmodes (Int.le_of_eq hzero.symm) (by omega)
  have hwide : ∀ rect ∈ (laidOut 0 (Ordered.values registry.outputs)).map
      OutputLogicalGeometry.logical, 0 ≤ rect.width.toInt := by
    intro rect hrect
    obtain ⟨geometry, hgeometry, rfl⟩ := List.mem_map.mp hrect
    exact Int.le_of_lt (hplaced geometry hgeometry).width_pos
  refine ⟨map_laidOut, hside, List.pairwise_map.mp (hside.disjoint hwide), ?_⟩
  intro geometry hgeometry rect
  have hg := hplaced geometry hgeometry
  exact ⟨fun _ hon => OutputLogicalGeometry.projectRect_exact hg rect hon,
    OutputLogicalGeometry.projectRectPixels_exact hg rect⟩

/-- Two outputs, the second scaled by two with a column of pixels to spare. -/
def twoOutputs : DrmKmsOutputRegistry :=
  ((DrmKmsOutputRegistry.new.upsert ⟨⟨1⟩, 11, 21, ⟨⟨1280, 720⟩, 60000⟩, 1⟩).2.upsert
    ⟨⟨2⟩, 12, 22, ⟨⟨1281, 720⟩, 60000⟩, 2⟩).2

theorem extended_desktop_projects_two :
    SideBySide 0 ((Ordered.values (ExtendedDesktopTopology.fromDrmOutputs twoOutputs).outputs).map
      OutputLogicalGeometry.logical) :=
  (extended_desktop_projects ((DrmKmsOutputRegistry.Built.new.upsert _).upsert _)
    (show ∀ output ∈ Ordered.values twoOutputs.outputs, _ by decide +kernel)
    (show logicalWidths (Ordered.values twoOutputs.outputs) ≤ 2 ^ 31 - 1 by decide +kernel)).2.1

end Sophia.Engine
