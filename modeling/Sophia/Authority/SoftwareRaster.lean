import Mathlib.Algebra.Order.Ring.Abs
import Mathlib.Algebra.Order.Ring.Int
import Mathlib.Tactic.Ring
import Sophia.Lib.Blit
import Sophia.Lib.Codec
import Sophia.Lib.Fallible
import Sophia.Authority.ClientObjects

/-! The software rasteriser: fills, lines, glyphs and images on one drawable's pixels. -/
namespace Sophia.Authority

open Std Sophia.Protocol

def cpuBufferFormatXrgb8888 : UInt32 := 0x34325258
def softwareBufferMaxBytes : ℕ := 64 * 1024 * 1024

/-- Where an `i32` computation ends up when it saturates. -/
def saturated (n : ℤ) : ℤ := max (-2 ^ 31) (min n (2 ^ 31 - 1))

/-- The pixels of one drawable: the rows are packed, and all of them are there. -/
structure XAuthorityCpuBufferSnapshot where
  handle : UInt64
  drawable : XResourceId
  size : Size
  stride : UInt32
  format : UInt32
  generation : UInt64
  bytes : List UInt8
  packed : stride.toNat = size.width.toInt.toNat * 4
  filled : bytes.length = stride.toNat * size.height.toInt.toNat
  deriving DecidableEq, Repr

structure XAuthorityCpuBufferPatch where
  handle : UInt64
  drawable : XResourceId
  size : Size
  stride : UInt32
  format : UInt32
  generation : UInt64
  rect : Rect
  bytes : List UInt8
  deriving DecidableEq, Repr

section Geometry

/-- The pixels of a buffer that a rectangle covers. -/
structure PixelBounds where
  left : ℕ
  top : ℕ
  right : ℕ
  bottom : ℕ
  deriving DecidableEq, Repr

def clippedBounds (size : Size) (rect : Rect) : Option PixelBounds :=
  if size.width.toInt ≤ 0 ∨ size.height.toInt ≤ 0 ∨ rect.width.toInt ≤ 0 ∨ rect.height.toInt ≤ 0 then
    none
  else
    let left := min (max rect.x.toInt 0) size.width.toInt
    let top := min (max rect.y.toInt 0) size.height.toInt
    let right := min (max (saturated (rect.x.toInt + rect.width.toInt)) 0) size.width.toInt
    let bottom := min (max (saturated (rect.y.toInt + rect.height.toInt)) 0) size.height.toInt
    if right ≤ left ∨ bottom ≤ top then none
    else some ⟨left.toNat, top.toNat, right.toNat, bottom.toNat⟩

/-- The rectangle covers a pixel of the buffer. -/
def Meets (size : Size) (rect : Rect) : Bool := (clippedBounds size rect).isSome

/-- Row by row, left to right. -/
def PixelBounds.cells (bounds : PixelBounds) : List (ℕ × ℕ) :=
  (List.range' bounds.top (bounds.bottom - bounds.top)).flatMap fun y =>
    (List.range' bounds.left (bounds.right - bounds.left)).map fun x => (x, y)

/-- The edges of a box that grows. -/
structure Edges where
  left : ℤ
  top : ℤ
  right : ℤ
  bottom : ℤ

def Rect.edges (rect : Rect) : Edges where
  left := rect.x.toInt
  top := rect.y.toInt
  right := saturated (rect.x.toInt + rect.width.toInt)
  bottom := saturated (rect.y.toInt + rect.height.toInt)

def Edges.join (a b : Edges) : Edges :=
  ⟨min a.left b.left, min a.top b.top, max a.right b.right, max a.bottom b.bottom⟩

def unionRects : List Rect → Option Rect
  | [] => none
  | first :: rest =>
    let edges := rest.foldl (fun edges rect => edges.join (Rect.edges rect)) (Rect.edges first)
    some
      { x := .ofInt edges.left
        y := .ofInt edges.top
        width := saturateInt32 (edges.right - edges.left)
        height := saturateInt32 (edges.bottom - edges.top) }

def XPoint.edges (point : XPoint) : Edges :=
  ⟨point.x.toInt, point.y.toInt, point.x.toInt, point.y.toInt⟩

/-- The box around the points, grown by half a line on each side. -/
def pointBounds (points : List XPoint) (lineWidth : UInt16) : Option Rect :=
  match points with
  | [] => none
  | first :: rest =>
    let edges := rest.foldl (fun edges point => edges.join point.edges) first.edges
    let width : ℤ := max lineWidth.toNat 1
    some
      { x := saturateInt32 (edges.left - width / 2)
        y := saturateInt32 (edges.top - width / 2)
        width := saturateInt32 (saturated (edges.right - edges.left) + width)
        height := saturateInt32 (saturated (edges.bottom - edges.top) + width) }

end Geometry

section Pixels

def pixelInClip (gc : XGraphicsContextValues) (x y : ℕ) : Bool :=
  gc.clipRectangles.isEmpty || gc.clipRectangles.any fun rect =>
    let left := saturated (rect.x.toInt + gc.clipXOrigin.toInt)
    let top := saturated (rect.y.toInt + gc.clipYOrigin.toInt)
    let x : ℤ := min x (2 ^ 31 - 1)
    let y : ℤ := min y (2 ^ 31 - 1)
    left ≤ x ∧ top ≤ y ∧ x < saturated (left + rect.width.toInt) ∧
      y < saturated (top + rect.height.toInt)

def applyRasterFunction (gc : XGraphicsContextValues) (source destination : UInt32) : UInt32 :=
  let source := source &&& 0x00ffffff
  let destination := destination &&& 0x00ffffff
  let result := (match gc.function.toNat with
    | 0 => 0
    | 1 => source &&& destination
    | 2 => source &&& ~~~destination
    | 3 => source
    | 4 => ~~~source &&& destination
    | 5 => destination
    | 6 => source ^^^ destination
    | 7 => source ||| destination
    | 8 => ~~~(source ||| destination)
    | 9 => ~~~(source ^^^ destination)
    | 10 => ~~~destination
    | 11 => source ||| ~~~destination
    | 12 => ~~~source
    | 13 => ~~~source ||| destination
    | 14 => ~~~(source &&& destination)
    | 15 => 0xffffffff
    | _ => source) &&& 0x00ffffff
  let mask := gc.planeMask &&& 0x00ffffff
  ((result &&& mask) ||| (destination &&& ~~~mask)) &&& 0x00ffffff

def pixelAt? (bytes : List UInt8) (offset : ℕ) : Option UInt32 :=
  (Blit.slice? bytes offset (offset + 4)).map fun pixel => UInt32.ofNat (Codec.fromLe pixel)

/-- Change the pixel at an offset, if the bytes hold it. -/
def mapPixelAt (bytes : List UInt8) (offset : ℕ) (change : UInt32 → UInt32) : List UInt8 :=
  match pixelAt? bytes offset with
  | none => bytes
  | some pixel => Blit.splice bytes offset (Codec.toLe 4 (change pixel).toNat)

theorem pixelAt?_isSome {bytes : List UInt8} {offset : ℕ} :
    (pixelAt? bytes offset).isSome ↔ offset + 4 ≤ bytes.length := by
  unfold pixelAt? Blit.slice?
  split <;> simp <;> omega

theorem length_mapPixelAt (bytes : List UInt8) (offset : ℕ) (change : UInt32 → UInt32) :
    (mapPixelAt bytes offset change).length = bytes.length := by
  unfold mapPixelAt
  split
  · rfl
  · rename_i pixel hpixel
    have hfit : offset + 4 ≤ bytes.length := pixelAt?_isSome.mp (by simp [hpixel])
    exact Blit.length_splice (by rw [Codec.length_toLe]; exact hfit)

end Pixels

namespace XAuthorityCpuBufferSnapshot

variable (buffer : XAuthorityCpuBufferSnapshot)

def withBytes (bytes : List UInt8) (h : bytes.length = buffer.bytes.length) :
    XAuthorityCpuBufferSnapshot :=
  { buffer with bytes, filled := h.trans buffer.filled }

-- Offsets are computed in saturating usize: coordinates inside an i32 size do not reach 2^64.
def offset (x y : ℕ) : ℕ := y * buffer.stride.toNat + x * 4

def mapPixel (x y : ℕ) (change : UInt32 → UInt32) : XAuthorityCpuBufferSnapshot :=
  buffer.withBytes (mapPixelAt buffer.bytes (buffer.offset x y) change)
    (length_mapPixelAt _ _ _)

/-- Combine a pixel with the one that is there, where the clip lets it through. -/
def blend (gc : XGraphicsContextValues) (pixel : UInt32) (x y : ℕ) : XAuthorityCpuBufferSnapshot :=
  if pixelInClip gc x y then buffer.mapPixel x y (applyRasterFunction gc pixel) else buffer

def fillRect (rect : Rect) (pixel : UInt32) (gc : XGraphicsContextValues) :
    XAuthorityCpuBufferSnapshot :=
  match clippedBounds buffer.size rect with
  | none => buffer
  | some bounds => bounds.cells.foldl (fun buffer cell => buffer.blend gc pixel cell.1 cell.2) buffer

def setPixel (x y : ℤ) (pixel : UInt32) (gc : XGraphicsContextValues) :
    XAuthorityCpuBufferSnapshot :=
  if x < 0 ∨ y < 0 ∨ buffer.size.width.toInt ≤ x ∨ buffer.size.height.toInt ≤ y then buffer
  else buffer.blend gc pixel x.toNat y.toNat

def copyXrgb8888 (rect : Rect) (data : List UInt8) : XAuthorityCpuBufferSnapshot :=
  match clippedBounds buffer.size rect with
  | none => buffer
  | some bounds =>
    let sourceStride := rect.width.toInt.toNat * 4
    if data.length < sourceStride * rect.height.toInt.toNat then buffer
    else
      let sourceX := bounds.left - rect.x.toInt.toNat
      buffer.withBytes
        (Blit.copyRows data buffer.bytes ((bounds.right - bounds.left) * 4)
          (fun row => (bounds.top + row - rect.y.toInt.toNat) * sourceStride + sourceX * 4)
          (fun row => buffer.offset bounds.left (bounds.top + row))
          (bounds.bottom - bounds.top)).1
        Blit.length_copyRows

/-- The pixels of a rectangle, row after row. -/
def packedPatch (rect : Rect) : Option XAuthorityCpuBufferPatch := do
  let bounds ← clippedBounds buffer.size rect
  let rowBytes := (bounds.right - bounds.left) * 4
  let rows ← (List.range' bounds.top (bounds.bottom - bounds.top)).mapM fun y =>
    Blit.slice? buffer.bytes (buffer.offset bounds.left y) (buffer.offset bounds.left y + rowBytes)
  return {
    handle := buffer.handle
    drawable := buffer.drawable
    size := buffer.size
    stride := buffer.stride
    format := buffer.format
    generation := buffer.generation
    rect :=
      { x := .ofNat bounds.left, y := .ofNat bounds.top
        width := .ofNat (bounds.right - bounds.left)
        height := .ofNat (bounds.bottom - bounds.top) }
    bytes := rows.flatten }

end XAuthorityCpuBufferSnapshot

section Glyphs

/-- Five by seven pixels for each printable character, a row a number. -/
def xFixedGlyphs : List (UInt8 × List UInt8) :=
  [(32, [0, 0, 0, 0, 0, 0, 0]), (65, [14, 17, 17, 31, 17, 17, 17]),
   (66, [30, 17, 17, 30, 17, 17, 30]), (67, [14, 17, 16, 16, 16, 17, 14]),
   (68, [30, 17, 17, 17, 17, 17, 30]), (69, [31, 16, 16, 30, 16, 16, 31]),
   (70, [31, 16, 16, 30, 16, 16, 16]), (71, [14, 17, 16, 23, 17, 17, 15]),
   (72, [17, 17, 17, 31, 17, 17, 17]), (73, [14, 4, 4, 4, 4, 4, 14]),
   (74, [7, 2, 2, 2, 18, 18, 12]), (75, [17, 18, 20, 24, 20, 18, 17]),
   (76, [16, 16, 16, 16, 16, 16, 31]), (77, [17, 27, 21, 21, 17, 17, 17]),
   (78, [17, 25, 21, 19, 17, 17, 17]), (79, [14, 17, 17, 17, 17, 17, 14]),
   (80, [30, 17, 17, 30, 16, 16, 16]), (81, [14, 17, 17, 17, 21, 18, 13]),
   (82, [30, 17, 17, 30, 20, 18, 17]), (83, [15, 16, 16, 14, 1, 1, 30]),
   (84, [31, 4, 4, 4, 4, 4, 4]), (85, [17, 17, 17, 17, 17, 17, 14]),
   (86, [17, 17, 17, 17, 17, 10, 4]), (87, [17, 17, 17, 21, 21, 21, 10]),
   (88, [17, 17, 10, 4, 10, 17, 17]), (89, [17, 17, 10, 4, 4, 4, 4]),
   (90, [31, 1, 2, 4, 8, 16, 31]), (48, [14, 17, 19, 21, 25, 17, 14]),
   (49, [4, 12, 4, 4, 4, 4, 14]), (50, [14, 17, 1, 2, 4, 8, 31]),
   (51, [30, 1, 1, 14, 1, 1, 30]), (52, [2, 6, 10, 18, 31, 2, 2]),
   (53, [31, 16, 16, 30, 1, 1, 30]), (54, [14, 16, 16, 30, 17, 17, 14]),
   (55, [31, 1, 2, 4, 8, 8, 8]), (56, [14, 17, 17, 14, 17, 17, 14]),
   (57, [14, 17, 17, 15, 1, 1, 14]), (45, [0, 0, 0, 31, 0, 0, 0]),
   (95, [0, 0, 0, 0, 0, 0, 31]), (46, [0, 0, 0, 0, 0, 12, 12]),
   (58, [0, 12, 12, 0, 12, 12, 0]), (47, [1, 2, 2, 4, 8, 8, 16]),
   (61, [0, 31, 0, 31, 0, 0, 0]), (33, [4, 4, 4, 4, 4, 0, 4]),
   (34, [10, 10, 10, 0, 0, 0, 0]), (35, [10, 31, 10, 10, 31, 10, 0]),
   (36, [4, 15, 20, 14, 5, 30, 4]), (37, [24, 25, 2, 4, 8, 19, 3]),
   (38, [12, 18, 20, 8, 21, 18, 13]), (39, [4, 4, 8, 0, 0, 0, 0]),
   (40, [2, 4, 8, 8, 8, 4, 2]), (41, [8, 4, 2, 2, 2, 4, 8]),
   (42, [0, 21, 14, 31, 14, 21, 0]), (43, [0, 4, 4, 31, 4, 4, 0]),
   (44, [0, 0, 0, 0, 4, 4, 8]), (59, [0, 4, 4, 0, 4, 4, 8]),
   (60, [2, 4, 8, 16, 8, 4, 2]), (62, [8, 4, 2, 1, 2, 4, 8]),
   (63, [14, 17, 1, 2, 4, 0, 4]), (64, [14, 17, 23, 21, 23, 16, 14]),
   (91, [14, 8, 8, 8, 8, 8, 14]), (92, [16, 8, 8, 4, 2, 2, 1]),
   (93, [14, 2, 2, 2, 2, 2, 14]), (94, [4, 10, 17, 0, 0, 0, 0]),
   (96, [8, 4, 2, 0, 0, 0, 0]), (123, [3, 4, 4, 8, 4, 4, 3]),
   (124, [4, 4, 4, 4, 4, 4, 4]), (125, [24, 4, 4, 2, 4, 4, 24]),
   (126, [0, 0, 9, 22, 0, 0, 0])]

def toAsciiUppercase (byte : UInt8) : UInt8 :=
  if 97 ≤ byte ∧ byte ≤ 122 then byte - 32 else byte

def xFixedGlyphRows (byte : UInt8) : List UInt8 :=
  (xFixedGlyphs.lookup (toAsciiUppercase byte)).getD [31, 17, 1, 2, 4, 0, 4]

/-- The pixels a glyph sets in its cell. -/
def glyphRects (cellX cellY : Int32) (byte : UInt8) : List Rect :=
  (xFixedGlyphRows byte).zipIdx.flatMap fun (bits, row) =>
    (List.range 5).filterMap fun column =>
      if bits.toNat.testBit (4 - column) then
        some
          { x := saturateInt32 (cellX.toInt + (column + 1))
            y := saturateInt32 (cellY.toInt + (row + 2))
            width := 1
            height := 1 }
      else none

def XAuthorityCpuBufferSnapshot.drawFixedGlyph (buffer : XAuthorityCpuBufferSnapshot)
    (cellX cellY : Int32) (byte : UInt8) (pixel : UInt32) (gc : XGraphicsContextValues) :
    XAuthorityCpuBufferSnapshot :=
  (glyphRects cellX cellY byte).foldl (fun buffer rect => buffer.fillRect rect pixel gc) buffer

end Glyphs

section Lines

/-- A line from one point to another: the distances with their directions, `dy` negated. -/
structure Line where
  targetX : ℤ
  targetY : ℤ
  dx : ℤ
  sx : ℤ
  dy : ℤ
  sy : ℤ

structure LineCursor where
  x : ℤ
  y : ℤ
  error : ℤ

namespace Line

def between (start target : XPoint) : Line where
  targetX := target.x.toInt
  targetY := target.y.toInt
  dx := |target.x.toInt - start.x.toInt|
  sx := if start.x.toInt < target.x.toInt then 1 else -1
  dy := -|target.y.toInt - start.y.toInt|
  sy := if start.y.toInt < target.y.toInt then 1 else -1

def start (line : Line) (point : XPoint) : LineCursor :=
  ⟨point.x.toInt, point.y.toInt, line.dx + line.dy⟩

def advance (line : Line) (cursor : LineCursor) : LineCursor :=
  let doubled := cursor.error * 2
  let cursor := if line.dy ≤ doubled then
    { cursor with error := cursor.error + line.dy, x := cursor.x + line.sx } else cursor
  if doubled ≤ line.dx then
    { cursor with error := cursor.error + line.dx, y := cursor.y + line.sy } else cursor

/-- The pixels a line visits up to its target, within so many steps. -/
def visits (line : Line) : ℕ → LineCursor → List (ℤ × ℤ)
  | 0, _ => []
  | fuel + 1, cursor =>
    (cursor.x, cursor.y) ::
      if cursor.x = line.targetX ∧ cursor.y = line.targetY then []
      else line.visits fuel (line.advance cursor)

/-- More steps than any line between its end points takes. -/
def fuel (line : Line) : ℕ := (line.dx - line.dy).toNat + 1

/-- The cursor has gone `i` pixels across and `j` along, not past the target, and the error says
so. -/
structure OnPath (line : Line) (cursor : LineCursor) (i j : ℤ) : Prop where
  across : 0 ≤ i ∧ i ≤ line.dx
  along : 0 ≤ j ∧ j ≤ -line.dy
  x : cursor.x = line.targetX - line.sx * (line.dx - i)
  y : cursor.y = line.targetY - line.sy * (-line.dy - j)
  error : cursor.error = line.dx * (1 + j) + line.dy * (1 + i)
  bounded : 2 * line.dy ≤ cursor.error ∧ cursor.error ≤ 2 * line.dx

variable {line : Line} {cursor : LineCursor} {i j : ℤ}

theorem onPath_start (start target : XPoint) :
    (between start target).OnPath ((between start target).start start) 0 0 := by
  have hx := abs_nonneg (target.x.toInt - start.x.toInt)
  have hy := abs_nonneg (target.y.toInt - start.y.toInt)
  refine ⟨⟨le_rfl, hx⟩, ⟨le_rfl, ?_⟩, ?_, ?_, ?_, ?_, ?_⟩
  · simp [between]
  · simp only [between, Line.start]
    rcases lt_or_ge start.x.toInt target.x.toInt with h | h
    · rw [if_pos h, abs_of_pos (by omega)]
      omega
    · rw [if_neg (by omega), abs_of_nonpos (by omega)]
      omega
  · simp only [between, Line.start]
    rcases lt_or_ge start.y.toInt target.y.toInt with h | h
    · rw [if_pos h, abs_of_pos (by omega)]
      omega
    · rw [if_neg (by omega), abs_of_nonpos (by omega)]
      omega
  · simp [Line.start]
  all_goals
    simp only [between, Line.start]
    omega

/-- The cursor goes on across, as the error has it. -/
abbrev goesAcross (line : Line) (cursor : LineCursor) : Prop := line.dy ≤ cursor.error * 2

/-- The cursor goes on along. -/
abbrev goesAlong (line : Line) (cursor : LineCursor) : Prop := cursor.error * 2 ≤ line.dx

/-- At the last column the error is too small to go across. -/
theorem OnPath.across_left (h : line.OnPath cursor i j) (hend : i < line.dx ∨ j < -line.dy)
    (hgo : line.goesAcross cursor) : i < line.dx := by
  obtain ⟨⟨hi, hdx⟩, ⟨hj, hdy⟩, -, -, herror, -⟩ := h
  by_contra hlast
  have hi : i = line.dx := by omega
  have hmul : line.dx * (1 + j) ≤ line.dx * (-line.dy) :=
    mul_le_mul_of_nonneg_left (by omega) (by omega)
  rw [hi] at herror
  have hexp : line.dx * (1 + j) + line.dy * (1 + line.dx) =
      line.dx * (1 + j) - line.dx * (-line.dy) + line.dy := by ring
  omega

/-- At the last row the error is too large to go along. -/
theorem OnPath.along_left (h : line.OnPath cursor i j) (hend : i < line.dx ∨ j < -line.dy)
    (hgo : line.goesAlong cursor) : j < -line.dy := by
  obtain ⟨⟨hi, hdx⟩, ⟨hj, hdy⟩, -, -, herror, -⟩ := h
  by_contra hlast
  have hj : j = -line.dy := by omega
  have hmul : -line.dy * (1 + i) ≤ -line.dy * line.dx :=
    mul_le_mul_of_nonneg_left (by omega) (by omega)
  rw [hj] at herror
  have hexp : line.dx * (1 + -line.dy) + line.dy * (1 + i) =
      line.dx + -line.dy * line.dx - -line.dy * (1 + i) := by ring
  omega

/-- One step goes one pixel on, across, along or both, and never past the target. -/
theorem OnPath.advance (h : line.OnPath cursor i j) (hend : i < line.dx ∨ j < -line.dy) :
    line.OnPath (line.advance cursor) (i + if line.goesAcross cursor then 1 else 0)
        (j + if line.goesAlong cursor then 1 else 0) ∧
      (line.goesAcross cursor ∨ line.goesAlong cursor) := by
  have hcross := h.across_left hend
  have hdown := h.along_left hend
  obtain ⟨⟨hi, hdx⟩, ⟨hj, hdy⟩, hx, hy, herror, hlow, hhigh⟩ := h
  by_cases hacross : line.goesAcross cursor <;> by_cases halong : line.goesAlong cursor
  · have hi' := hcross hacross
    have hj' := hdown halong
    simp only [Line.advance, if_pos hacross, if_pos halong]
    refine ⟨⟨⟨by omega, by omega⟩, ⟨by omega, by omega⟩, ?_, ?_, ?_, ?_, ?_⟩, Or.inl hacross⟩
    · rw [hx]
      ring
    · rw [hy]
      ring
    · rw [herror]
      ring
    all_goals
      dsimp only
      omega
  · have hi' := hcross hacross
    simp only [Line.advance, if_pos hacross, if_neg halong, add_zero]
    refine ⟨⟨⟨by omega, by omega⟩, ⟨hj, hdy⟩, ?_, hy, ?_, ?_, ?_⟩, Or.inl hacross⟩
    · rw [hx]
      ring
    · rw [herror]
      ring
    all_goals
      dsimp only
      omega
  · have hj' := hdown halong
    simp only [Line.advance, if_neg hacross, if_pos halong, add_zero]
    refine ⟨⟨⟨hi, hdx⟩, ⟨by omega, by omega⟩, hx, ?_, ?_, ?_, ?_⟩, Or.inr halong⟩
    · rw [hy]
      ring
    · rw [herror]
      ring
    all_goals
      dsimp only
      omega
  · omega

/-- One step goes on at least one of the two ways, and never past the target. -/
theorem onPath_advance (h : line.OnPath cursor i j) (hend : i < line.dx ∨ j < -line.dy) :
    ∃ i' j', line.OnPath (line.advance cursor) i' j' ∧ i + j < i' + j' := by
  obtain ⟨hnext, hgoes⟩ := h.advance hend
  refine ⟨_, _, hnext, ?_⟩
  rcases hgoes with hgo | hgo
  · rw [if_pos hgo]
    split <;> omega
  · rw [if_pos hgo]
    split <;> omega

theorem OnPath.unfinished (h : line.OnPath cursor i j)
    (hat : ¬ (cursor.x = line.targetX ∧ cursor.y = line.targetY)) :
    i < line.dx ∨ j < -line.dy := by
  by_contra hend
  have hi : line.dx - i = 0 := by
    have hacross := h.across
    omega
  have hj : -line.dy - j = 0 := by
    have halong := h.along
    omega
  exact hat ⟨by simp [h.x, hi], by simp [h.y, hj]⟩

theorem getLast?_visits (h : line.OnPath cursor i j) {fuel : ℕ}
    (hfuel : line.dx - i + (-line.dy - j) < fuel) :
    (line.visits fuel cursor).getLast? = some (line.targetX, line.targetY) := by
  induction fuel generalizing cursor i j with
  | zero =>
    have hacross := h.across
    have halong := h.along
    omega
  | succ fuel ih =>
    rw [visits]
    split
    · rename_i hat
      simp [hat]
    · rename_i hat
      obtain ⟨i', j', hnext, hless⟩ := onPath_advance h (h.unfinished hat)
      have hrest := ih hnext (by push_cast at hfuel; omega)
      rw [List.getLast?_cons, hrest]
      rfl

/-- The fuel is enough: the walk stops at the target. -/
theorem reaches_target (start target : XPoint) :
    ((between start target).visits (between start target).fuel
        ((between start target).start start)).getLast? =
      some (target.x.toInt, target.y.toInt) := by
  have hpath := onPath_start start target
  refine getLast?_visits hpath ?_
  have hacross := hpath.across
  have halong := hpath.along
  unfold fuel
  omega

end Line

-- The error stays between twice either distance, so the sums in i32 do not overflow.
def XAuthorityCpuBufferSnapshot.drawLine (buffer : XAuthorityCpuBufferSnapshot)
    (start target : XPoint) (width : ℤ) (gc : XGraphicsContextValues) :
    XAuthorityCpuBufferSnapshot :=
  let line := Line.between start target
  (line.visits line.fuel (line.start start)).foldl (fun buffer pixel =>
    buffer.fillRect
      { x := saturateInt32 (pixel.1 - width / 2)
        y := saturateInt32 (pixel.2 - width / 2)
        width := .ofInt width
        height := .ofInt width } gc.foreground gc) buffer

end Lines

section Cover

variable {size : Size} {rect : Rect} {bounds : PixelBounds}

/-- A stretch of pixels, cut off at the largest coordinate, reaches into `0 ... limit`. -/
def Covers (start extent limit : ℤ) : Prop :=
  0 < limit ∧ 0 < extent ∧ start < limit ∧ 0 < saturated (start + extent) ∧
    start < saturated (start + extent)

/-- What is left of a stretch of pixels cut down to `0 ... limit`. -/
def CutDown (start extent limit : ℤ) (low high : ℕ) : Prop :=
  low < high ∧ (low : ℤ) = max start 0 ∧ (high : ℤ) = min (saturated (start + extent)) limit

section Axis

variable {start extent limit : ℤ} {low high n : ℕ}

theorem covers_iff :
    Covers start extent limit ↔ (0 < limit ∧ 0 < extent) ∧
      min (max start 0) limit < min (max (saturated (start + extent)) 0) limit := by
  unfold Covers
  omega

theorem Covers.cutDown (h : Covers start extent limit) :
    CutDown start extent limit (min (max start 0) limit).toNat
      (min (max (saturated (start + extent)) 0) limit).toNat := by
  unfold Covers at h
  unfold CutDown
  omega

/-- What is left is no longer than the stretch, and ends within the limit. -/
theorem CutDown.length_le (h : CutDown start extent limit low high) :
    low < high ∧ high ≤ limit.toNat ∧ high - low ≤ extent.toNat := by
  unfold CutDown saturated at h
  omega

theorem CutDown.low_eq (h : CutDown start extent limit low high) : low = start.toNat := by
  unfold CutDown at h
  omega

/-- Where sums in `i32` saturate, the pixels are past every limit. -/
theorem CutDown.mem_iff (h : CutDown start extent limit low high) (hlimit : limit < 2 ^ 31) (n : ℕ) :
    (low ≤ n ∧ n < high) ↔ n < limit.toNat ∧ start ≤ n ∧ (n : ℤ) < start + extent := by
  obtain ⟨-, hlow, hhigh⟩ := h
  unfold saturated at hhigh
  omega

theorem covers_of_mem (hstart : -2 ^ 31 ≤ start) (hlimit : limit < 2 ^ 31) (hn : n < limit.toNat)
    (hlow : start ≤ n) (hhigh : (n : ℤ) < start + extent) : Covers start extent limit := by
  unfold Covers saturated
  omega

end Axis

theorem clippedBounds_of_covers (hx : Covers rect.x.toInt rect.width.toInt size.width.toInt)
    (hy : Covers rect.y.toInt rect.height.toInt size.height.toInt) :
    ∃ bounds, clippedBounds size rect = some bounds ∧
      CutDown rect.x.toInt rect.width.toInt size.width.toInt bounds.left bounds.right ∧
      CutDown rect.y.toInt rect.height.toInt size.height.toInt bounds.top bounds.bottom := by
  obtain ⟨⟨hwidth, hwide⟩, hacross⟩ := covers_iff.mp hx
  obtain ⟨⟨hheight, hhigh⟩, hdown⟩ := covers_iff.mp hy
  unfold clippedBounds
  rw [if_neg (by omega)]
  dsimp only
  rw [if_neg (by omega)]
  exact ⟨_, rfl, hx.cutDown, hy.cutDown⟩

theorem covers_of_clipped (h : clippedBounds size rect ≠ none) :
    Covers rect.x.toInt rect.width.toInt size.width.toInt ∧
      Covers rect.y.toInt rect.height.toInt size.height.toInt := by
  unfold clippedBounds at h
  split at h
  · exact absurd rfl h
  rename_i hsizes
  dsimp only at h
  split at h
  · exact absurd rfl h
  rename_i hends
  simp only [not_or, Int.not_le] at hsizes hends
  obtain ⟨hwidth, hheight, hwide, hhigh⟩ := hsizes
  exact ⟨covers_iff.mpr ⟨⟨hwidth, hwide⟩, hends.1⟩, covers_iff.mpr ⟨⟨hheight, hhigh⟩, hends.2⟩⟩

theorem meets_iff :
    Meets size rect ↔ Covers rect.x.toInt rect.width.toInt size.width.toInt ∧
      Covers rect.y.toInt rect.height.toInt size.height.toInt := by
  unfold Meets
  rw [Option.isSome_iff_ne_none]
  refine ⟨covers_of_clipped, ?_⟩
  rintro ⟨hx, hy⟩
  obtain ⟨bounds, hbounds, -⟩ := clippedBounds_of_covers hx hy
  rw [hbounds]
  exact Option.some_ne_none bounds

/-- Each axis of a rectangle is clipped apart. -/
theorem cutDown_of_clipped (h : clippedBounds size rect = some bounds) :
    CutDown rect.x.toInt rect.width.toInt size.width.toInt bounds.left bounds.right ∧
      CutDown rect.y.toInt rect.height.toInt size.height.toInt bounds.top bounds.bottom := by
  obtain ⟨hx, hy⟩ := covers_of_clipped (h ▸ Option.some_ne_none bounds)
  obtain ⟨clipped, hclipped, hcut⟩ := clippedBounds_of_covers hx hy
  cases hclipped.symm.trans h
  exact hcut

/-- What is left of a rectangle is no larger than it, and inside the buffer. -/
theorem clippedBounds_eq_some (h : clippedBounds size rect = some bounds) :
    (bounds.left < bounds.right ∧ bounds.right ≤ size.width.toInt.toNat ∧
        bounds.right - bounds.left ≤ rect.width.toInt.toNat) ∧
      bounds.top < bounds.bottom ∧ bounds.bottom ≤ size.height.toInt.toNat ∧
        bounds.bottom - bounds.top ≤ rect.height.toInt.toNat :=
  ⟨(cutDown_of_clipped h).1.length_le, (cutDown_of_clipped h).2.length_le⟩

theorem mem_cells {cell : ℕ × ℕ} :
    cell ∈ bounds.cells ↔ (bounds.left ≤ cell.1 ∧ cell.1 < bounds.right) ∧
      bounds.top ≤ cell.2 ∧ cell.2 < bounds.bottom := by
  obtain ⟨x, y⟩ := cell
  simp only [PixelBounds.cells, List.mem_flatMap, List.mem_map, List.mem_range'_1, Prod.mk.injEq]
  constructor
  · rintro ⟨row, hrow, column, hcolumn, rfl, rfl⟩
    omega
  · rintro ⟨hx, hy⟩
    exact ⟨y, by omega, x, by omega, rfl, rfl⟩

end Cover

namespace XAuthorityCpuBufferSnapshot

variable {buffer next last : XAuthorityCpuBufferSnapshot} {rect : Rect} {bounds : PixelBounds}

/-- Nothing but the pixels is different. -/
def Repainted (buffer next : XAuthorityCpuBufferSnapshot) : Prop :=
  ∃ bytes h, next = buffer.withBytes bytes h

theorem Repainted.refl (buffer : XAuthorityCpuBufferSnapshot) : buffer.Repainted buffer :=
  ⟨buffer.bytes, rfl, rfl⟩

theorem Repainted.trans (h : buffer.Repainted next) (h' : next.Repainted last) :
    buffer.Repainted last := by
  obtain ⟨bytes, hbytes, rfl⟩ := h
  obtain ⟨bytes', hbytes', rfl⟩ := h'
  exact ⟨bytes', hbytes'.trans hbytes, rfl⟩

theorem Repainted.size (h : buffer.Repainted next) : next.size = buffer.size := by
  obtain ⟨bytes, hbytes, rfl⟩ := h
  rfl

theorem Repainted.generation (h : buffer.Repainted next) : next.generation = buffer.generation := by
  obtain ⟨bytes, hbytes, rfl⟩ := h
  rfl

theorem Repainted.foldl {α : Type} {paint : XAuthorityCpuBufferSnapshot → α →
    XAuthorityCpuBufferSnapshot} (h : ∀ buffer a, Repainted buffer (paint buffer a)) (items : List α)
    (buffer : XAuthorityCpuBufferSnapshot) : buffer.Repainted (items.foldl paint buffer) := by
  induction items generalizing buffer with
  | nil => exact .refl buffer
  | cons a items ih => exact (h buffer a).trans (ih _)

theorem repainted_blend (gc : XGraphicsContextValues) (pixel : UInt32) (x y : ℕ) :
    buffer.Repainted (buffer.blend gc pixel x y) := by
  unfold blend
  split
  · exact ⟨_, _, rfl⟩
  · exact .refl buffer

theorem repainted_fillRect (rect : Rect) (pixel : UInt32) (gc : XGraphicsContextValues) :
    buffer.Repainted (buffer.fillRect rect pixel gc) := by
  unfold fillRect
  split
  · exact .refl buffer
  · exact .foldl (fun _ _ => repainted_blend _ _ _ _) _ buffer

theorem repainted_setPixel (x y : ℤ) (pixel : UInt32) (gc : XGraphicsContextValues) :
    buffer.Repainted (buffer.setPixel x y pixel gc) := by
  unfold setPixel
  split
  · exact .refl buffer
  · exact repainted_blend _ _ _ _

theorem repainted_copyXrgb8888 (rect : Rect) (data : List UInt8) :
    buffer.Repainted (buffer.copyXrgb8888 rect data) := by
  unfold copyXrgb8888
  split
  · exact .refl buffer
  · dsimp only
    split
    · exact .refl buffer
    · exact ⟨_, _, rfl⟩

theorem repainted_drawFixedGlyph (cellX cellY : Int32) (byte : UInt8) (pixel : UInt32)
    (gc : XGraphicsContextValues) :
    buffer.Repainted (buffer.drawFixedGlyph cellX cellY byte pixel gc) :=
  .foldl (fun _ _ => repainted_fillRect _ _ _) _ buffer

theorem repainted_drawLine (start target : XPoint) (width : ℤ) (gc : XGraphicsContextValues) :
    buffer.Repainted (buffer.drawLine start target width gc) :=
  .foldl (fun _ _ => repainted_fillRect _ _ _) _ buffer

theorem fillRect_of_not_meets (h : ¬ Meets buffer.size rect) (pixel : UInt32)
    (gc : XGraphicsContextValues) : buffer.fillRect rect pixel gc = buffer := by
  unfold fillRect
  rw [Option.not_isSome_iff_eq_none.mp h]

theorem copyXrgb8888_of_not_meets (h : ¬ Meets buffer.size rect) (data : List UInt8) :
    buffer.copyXrgb8888 rect data = buffer := by
  unfold copyXrgb8888
  rw [Option.not_isSome_iff_eq_none.mp h]

/-- Every pixel of the buffer's size is in its bytes. -/
theorem offset_le {x y n : ℕ} (hx : x + n ≤ buffer.size.width.toInt.toNat)
    (hy : y < buffer.size.height.toInt.toNat) :
    buffer.offset x y + n * 4 ≤ buffer.bytes.length := by
  have hrow : (y + 1) * buffer.stride.toNat ≤
      buffer.size.height.toInt.toNat * buffer.stride.toNat := Nat.mul_le_mul_right _ hy
  have hexp : (y + 1) * buffer.stride.toNat = y * buffer.stride.toNat + buffer.stride.toNat := by
    ring
  have hlength := buffer.filled
  have hstride := buffer.packed
  rw [Nat.mul_comm] at hlength
  unfold offset
  omega

theorem packedPatch_isSome : (buffer.packedPatch rect).isSome ↔ Meets buffer.size rect := by
  unfold packedPatch Meets
  cases hbounds : clippedBounds buffer.size rect with
  | none => simp
  | some bounds =>
    obtain ⟨⟨hlr, hright, -⟩, htb, hbottom, -⟩ := clippedBounds_eq_some hbounds
    have hrows : ((List.range' bounds.top (bounds.bottom - bounds.top)).mapM fun y =>
        Blit.slice? buffer.bytes (buffer.offset bounds.left y)
          (buffer.offset bounds.left y + (bounds.right - bounds.left) * 4)).isSome := by
      rw [Fallible.mapM_isSome]
      intro y hy
      rw [List.mem_range'_1] at hy
      have hfit := buffer.offset_le (x := bounds.left) (y := y) (n := bounds.right - bounds.left)
        (by omega) (by omega)
      unfold Blit.slice?
      rw [if_pos ⟨by omega, hfit⟩]
      rfl
    obtain ⟨rows, hrows⟩ := Option.isSome_iff_exists.mp hrows
    simp [hrows]

end XAuthorityCpuBufferSnapshot
end Sophia.Authority
