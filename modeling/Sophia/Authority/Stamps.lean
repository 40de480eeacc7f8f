import Sophia.Authority.PixelLaws

/-! Draws as rectangles filled one after another. -/
namespace Sophia.Authority

open Std Sophia.Protocol XAuthorityCpuBufferSnapshot

/-- A rectangle and the pixel it is filled with. -/
structure Stamp where
  rect : Rect
  source : UInt32
  deriving DecidableEq, Repr

/-- The stamps on a pixel, one after another. -/
def combined (gc : XGraphicsContextValues) (sources : List UInt32) (old : UInt32) : UInt32 :=
  sources.foldl (fun old source => applyRasterFunction gc source old) old

/-- The stamps whose rectangle has the pixel. -/
def sourcesOn (stamps : List Stamp) (p : ℕ × ℕ) : List UInt32 :=
  (stamps.filter fun stamp => Rect.Contains stamp.rect p).map Stamp.source

/-- What a list of stamps makes of a pixel. -/
def stamped (size : Size) (gc : XGraphicsContextValues) (stamps : List Stamp) (p : ℕ × ℕ)
    (old : UInt32) : UInt32 :=
  if Holds size p ∧ pixelInClip gc p.1 p.2 then combined gc (sourcesOn stamps p) old else old

/-- The rectangle that is one pixel, where `i32` has its place. -/
def dot (x y : ℤ) : Rect := ⟨saturateInt32 x, saturateInt32 y, 1, 1⟩

def fillStamps (damage : List Rect) (gc : XGraphicsContextValues) : List Stamp :=
  damage.map fun rect => ⟨rect, gc.foreground⟩

/-- The squares along the lines between consecutive points. -/
def lineStamps (points : List XPoint) (gc : XGraphicsContextValues) : List Stamp :=
  let width : ℤ := max gc.lineWidth.toNat 1
  (points.zip points.tail).flatMap fun ends =>
    let line := Line.between ends.1 ends.2
    (line.visits line.fuel (line.start ends.1)).map fun pixel =>
      ⟨⟨saturateInt32 (pixel.1 - width / 2), saturateInt32 (pixel.2 - width / 2), .ofInt width,
        .ofInt width⟩, gc.foreground⟩

/-- The pixels of the glyphs, each glyph on its cell where the text is opaque. -/
def textStamps (x baseline : Int16) (text : List UInt8) (isOpaque : Bool)
    (gc : XGraphicsContextValues) : List Stamp :=
  (textCells x text).flatMap fun cell =>
    (if isOpaque then [⟨⟨cell.1, textTop baseline, 8, 12⟩, gc.background⟩] else []) ++
      (glyphRects cell.1 (textTop baseline) cell.2).map fun rect => ⟨rect, gc.foreground⟩

/-- The copied pixels, from the upper left one of the source's bounds on. -/
def copyStamps (source : XAuthorityCpuBufferSnapshot) (bounds : PixelBounds) (dstX dstY : Int16) :
    List Stamp :=
  bounds.cells.map fun cell =>
    ⟨dot (dstX.toInt + min (cell.1 - bounds.left : ℕ) (2 ^ 31 - 1))
      (dstY.toInt + min (cell.2 - bounds.top : ℕ) (2 ^ 31 - 1)), source.pixel cell⟩

section Laws

variable {size : Size} {gc : XGraphicsContextValues} {stamps more : List Stamp} {p : ℕ × ℕ}
  {old : UInt32}

theorem combined_append (sources rest : List UInt32) (old : UInt32) :
    combined gc (sources ++ rest) old = combined gc rest (combined gc sources old) :=
  List.foldl_append

theorem sourcesOn_append :
    sourcesOn (stamps ++ more) p = sourcesOn stamps p ++ sourcesOn more p := by
  simp [sourcesOn]

theorem sourcesOn_eq_nil :
    sourcesOn stamps p = [] ↔ ∀ stamp ∈ stamps, ¬ Rect.Contains stamp.rect p := by
  simp [sourcesOn, List.filter_eq_nil_iff]

theorem stamped_of_uncovered (h : ∀ stamp ∈ stamps, ¬ Rect.Contains stamp.rect p) :
    stamped size gc stamps p old = old := by
  rw [stamped, sourcesOn_eq_nil.mpr h]
  exact ite_self old

theorem stamped_append :
    stamped size gc (stamps ++ more) p old =
      stamped size gc more p (stamped size gc stamps p old) := by
  unfold stamped
  split
  · rw [sourcesOn_append, combined_append]
  · rfl

theorem stamped_cons (stamp : Stamp) :
    stamped size gc (stamp :: more) p old =
      stamped size gc more p (stamped size gc [stamp] p old) := by
  rw [show stamp :: more = [stamp] ++ more from rfl, stamped_append]

theorem paints_stamps (size : Size) (gc : XGraphicsContextValues) (stamps : List Stamp) :
    Paints size (fun buffer => stamps.foldl
      (fun buffer stamp => buffer.fillRect stamp.rect stamp.source gc) buffer)
      (stamped size gc stamps) := by
  have hfold : Paints size _ _ := Pointwise.ActsBy.foldl_filter
    (fun p (stamp : Stamp) =>
      decide ((Holds size p ∧ pixelInClip gc p.1 p.2) ∧ Rect.Contains stamp.rect p))
    (fun _ old (stamp : Stamp) => applyRasterFunction gc stamp.source old)
    fun stamp (_ : stamp ∈ stamps) =>
      (paints_fillRect size stamp.rect stamp.source gc).congr fun p old => by simp
  refine hfold.congr fun p old => ?_
  unfold stamped combined sourcesOn
  by_cases hin : Holds size p ∧ pixelInClip gc p.1 p.2
  · simp [hin, List.foldl_map]
  · have hnone : stamps.filter (fun stamp => decide ((Holds size p ∧ pixelInClip gc p.1 p.2) ∧
        Rect.Contains stamp.rect p)) = [] := by
      simp [hin]
    rw [hnone, if_neg hin]
    rfl

theorem paints_fill (size : Size) (damage : List Rect) (gc : XGraphicsContextValues) :
    Paints size (fun buffer => damage.foldl
      (fun buffer rect => buffer.fillRect rect gc.foreground gc) buffer)
      (stamped size gc (fillStamps damage gc)) := by
  refine (paints_stamps size gc (fillStamps damage gc)).of_eq fun buffer _ => ?_
  rw [fillStamps, List.foldl_map]

theorem paints_lines (size : Size) (points : List XPoint) (gc : XGraphicsContextValues) :
    Paints size (fun buffer => (points.zip points.tail).foldl (fun buffer ends =>
      buffer.drawLine ends.1 ends.2 (max gc.lineWidth.toNat 1) gc) buffer)
      (stamped size gc (lineStamps points gc)) := by
  refine (paints_stamps size gc (lineStamps points gc)).of_eq fun buffer _ => ?_
  simp only [lineStamps, List.foldl_flatMap, List.foldl_map]
  rfl

theorem paints_text (size : Size) (x baseline : Int16) (text : List UInt8) (isOpaque : Bool)
    (gc : XGraphicsContextValues) :
    Paints size (fun buffer => (textCells x text).foldl
      (drawCell gc isOpaque (textTop baseline)) buffer)
      (stamped size gc (textStamps x baseline text isOpaque gc)) := by
  refine (paints_stamps size gc (textStamps x baseline text isOpaque gc)).of_eq fun buffer _ => ?_
  simp only [textStamps, List.foldl_flatMap, List.foldl_append, List.foldl_map]
  cases isOpaque <;> rfl

theorem dot_contains (x y : ℤ) :
    Rect.Contains (dot x y) p ↔ saturated x = p.1 ∧ saturated y = p.2 := by
  have hx := toInt_saturateInt32 x
  have hy := toInt_saturateInt32 y
  have hone : (1 : Int32).toInt = 1 := rfl
  simp only [Rect.Contains, dot, hx, hy, hone]
  omega

/-- A pixel set at a place that saturates is the dot there. -/
theorem paints_setPixel (size : Size) (x y : ℤ) (source : UInt32) (gc : XGraphicsContextValues) :
    Paints size (fun buffer => buffer.setPixel (saturated x) (saturated y) source gc)
      (stamped size gc [⟨dot x y, source⟩]) := by
  by_cases hin : saturated x < 0 ∨ saturated y < 0 ∨ size.width.toInt ≤ saturated x ∨
      size.height.toInt ≤ saturated y
  · refine (Pointwise.actsBy_id.of_eq fun buffer hsize => ?_).congr fun p old => ?_
    · rw [setPixel, hsize, if_pos hin]
      rfl
    · by_cases hp : Holds size p
      · rw [stamped_of_uncovered]
        simp only [List.mem_singleton, forall_eq, dot_contains x y]
        obtain ⟨hpx, hpy⟩ := hp
        omega
      · rw [stamped, if_neg fun h => hp h.1]
  · have hat : Holds size ((saturated x).toNat, (saturated y).toNat) := by
      unfold Holds
      omega
    refine ((paints_blend hat gc source).of_eq fun buffer hsize => ?_).congr fun p old => ?_
    · rw [setPixel, hsize, if_neg hin]
    · unfold stamped combined sourcesOn
      by_cases hp : Holds size p
      · have hcontains := dot_contains (p := p) x y
        have hiff : p = ((saturated x).toNat, (saturated y).toNat) ↔
            Rect.Contains (dot x y) p := by
          rw [hcontains, Prod.ext_iff]
          dsimp only
          omega
        by_cases he : Rect.Contains (dot x y) p
        · simp [hiff, he, hp]
        · simp [hiff, he]
      · have hne : p ≠ ((saturated x).toNat, (saturated y).toNat) := by
          rintro rfl
          exact hp hat
        rw [if_neg hne, if_neg fun h => hp h.1]

theorem paints_copyCells {source : XAuthorityCpuBufferSnapshot} {rect : Rect}
    {bounds : PixelBounds} (h : clippedBounds source.size rect = some bounds) (size : Size)
    (dstX dstY : Int16) (gc : XGraphicsContextValues) :
    Paints size (fun buffer => (source.copyCells bounds dstX dstY gc buffer).2)
      (stamped size gc (copyStamps source bounds dstX dstY)) := by
  have hfold : Paints size _ _ := Pointwise.ActsBy.foldl fun cell (_ : cell ∈ bounds.cells) =>
    paints_setPixel size (dstX.toInt + min (cell.1 - bounds.left : ℕ) (2 ^ 31 - 1))
      (dstY.toInt + min (cell.2 - bounds.top : ℕ) (2 ^ 31 - 1)) (source.pixel cell) gc
  refine (hfold.of_eq fun buffer _ => ?_).congr fun p old => ?_
  · rw [copyCells, Run.tryEach_foldl]
    intro painted cell hcell
    rw [pixelAt?_of_holds ((mem_cells_of_clipped h).mp hcell).1]
  · unfold copyStamps
    generalize bounds.cells = cells
    induction cells generalizing old with
    | nil => simp [stamped, combined, sourcesOn]
    | cons cell cells ih =>
      rw [List.foldl_cons, ih, List.map_cons]
      exact (stamped_cons _).symm

end Laws
end Sophia.Authority
