import Sophia.Authority.CopyPlacement
import Sophia.Authority.Drawing
import Sophia.Authority.ImagePlacement

/-! The rectangles outside which the store's draws change no pixel. -/
namespace Sophia.Authority

open Std Sophia.Protocol XAuthorityCpuBufferSnapshot XSoftwareBufferStore

/-- The sizes that have buffers have few columns and rows. -/
theorem Sized.small {size : Size} (h : Sized size) :
    size.width.toInt.toNat ≤ 2 ^ 24 ∧ size.height.toInt.toNat ≤ 2 ^ 24 := by
  obtain ⟨hwidth, hheight, hbytes⟩ := h
  have hrow := Nat.le_mul_of_pos_right (size.width.toInt.toNat * 4)
    (show 0 < size.height.toInt.toNat by omega)
  have hcolumn := Nat.mul_le_mul_right size.height.toInt.toNat
    (show 4 ≤ size.width.toInt.toNat * 4 by omega)
  simp only [softwareBufferMaxBytes] at hbytes
  omega

/-- The change acts on each pixel, and leaves those outside the rectangles as they are. -/
def Confined (size : Size) (change : XAuthorityCpuBufferSnapshot → XAuthorityCpuBufferSnapshot)
    (rects : List Rect) : Prop :=
  ∃ act, Paints size change act ∧
    ∀ p old, Holds size p → (∀ rect ∈ rects, ¬ Rect.Contains rect p) → act p old = old

section Changes

variable {size : Size} {gc : XGraphicsContextValues} {rect : Rect} {rects : List Rect}
  {x baseline dstX dstY srcX srcY : Int16} {width height : UInt16} {text : List UInt8}
  {isOpaque : Bool} {p : ℕ × ℕ}

theorem confined_stamps {change : XAuthorityCpuBufferSnapshot → XAuthorityCpuBufferSnapshot}
    {stamps : List Stamp} (hpaints : Paints size change (stamped size gc stamps))
    (h : ∀ p, Holds size p → ∀ stamp ∈ stamps, Rect.Contains stamp.rect p →
      ∃ rect ∈ rects, Rect.Contains rect p) :
    Confined size change rects := by
  refine ⟨_, hpaints, fun p old hp hout => stamped_of_uncovered fun stamp hstamp hat => ?_⟩
  obtain ⟨rect, hrect, hcontains⟩ := h p hp stamp hstamp hat
  exact hout rect hrect hcontains

theorem confined_fill (rects : List Rect) (gc : XGraphicsContextValues) :
    Confined size ((GcDraw.fill rects).paint gc) rects := by
  refine confined_stamps (paints_draw gc (.fill rects) size) fun p _ stamp hstamp hat => ?_
  obtain ⟨rect, hrect, rfl⟩ := List.mem_map.mp hstamp
  exact ⟨rect, hrect, hat⟩

theorem confined_fillRect (rect : Rect) (pixel : UInt32) :
    Confined size (fun buffer => buffer.fillRect rect pixel {}) [rect] := by
  refine ⟨_, paints_fillRect size rect pixel {}, fun p old _ hout => if_neg fun h => ?_⟩
  exact hout rect List.mem_cons_self h.2

theorem confined_copyXrgb8888 (rect : Rect) (data : List UInt8) :
    Confined size (fun buffer => buffer.copyXrgb8888 rect data) [rect] := by
  by_cases hdata : imageBytes rect ≤ data.length
  · refine ⟨_, paints_copyXrgb8888 hdata size, fun p old _ hout => if_neg fun h => ?_⟩
    exact hout rect List.mem_cons_self h.2
  · refine ⟨_, Pointwise.actsBy_id.of_eq fun buffer _ => ?_, fun _ _ _ _ => rfl⟩
    have hshort : data.length < rect.width.toInt.toNat * 4 * rect.height.toInt.toNat :=
      Nat.lt_of_not_le hdata
    unfold copyXrgb8888
    split
    · rfl
    · dsimp only
      rw [if_pos hshort]
      rfl

/-- A text line's cells are in the box it reports, as far as buffers have pixels. -/
theorem textDamage_contains_cell {cell : Int32 × UInt8} (hsized : Sized size)
    (hcell : cell ∈ textCells x text) (hp : Holds size p)
    (h : Rect.Contains ⟨cell.1, textTop baseline, 8, 12⟩ p) :
    Rect.Contains (textDamage x baseline text) p := by
  obtain ⟨index, hindex, hat⟩ := mem_textCells hcell
  obtain ⟨hsmall, -⟩ := hsized.small
  have hx := x.le_toInt
  have height : (8 : Int32).toInt = 8 := rfl
  have htwelve : (12 : Int32).toInt = 12 := rfl
  obtain ⟨hpx, -⟩ := hp
  obtain ⟨⟨hleft, hright⟩, hrows⟩ := h
  refine ⟨?_, hrows⟩
  simp only [hat, height] at hleft hright
  simp only [textDamage, toInt_saturateInt32, Int16.toInt_toInt32]
  unfold saturated at hleft hright ⊢
  omega

theorem textCell_contains_glyph {cell : Int32 × UInt8} (hsized : Sized size)
    (hrect : rect ∈ glyphRects cell.1 (textTop baseline) cell.2) (hp : Holds size p)
    (h : Rect.Contains rect p) : Rect.Contains ⟨cell.1, textTop baseline, 8, 12⟩ p := by
  obtain ⟨column, hcolumn, row, hrow, hleft, htop, hwidth, hheight⟩ := mem_glyphRects hrect
  obtain ⟨hsmall, hsmall'⟩ := hsized.small
  obtain ⟨hpx, hpy⟩ := hp
  have hone : (1 : Int32).toInt = 1 := rfl
  have height : (8 : Int32).toInt = 8 := rfl
  have htwelve : (12 : Int32).toInt = 12 := rfl
  have hcell := cell.1.le_toInt
  have htext := (textTop baseline).le_toInt
  unfold Rect.Contains at h ⊢
  simp only [hleft, htop, hwidth, hheight, hone] at h
  simp only [height, htwelve]
  unfold saturated at h
  omega

theorem confined_text (hsized : Sized size) (x baseline : Int16) (text : List UInt8)
    (isOpaque : Bool) (gc : XGraphicsContextValues) :
    Confined size ((GcDraw.text x baseline text isOpaque).paint gc) [textDamage x baseline text] := by
  refine confined_stamps (paints_draw gc (.text x baseline text isOpaque) size)
    fun p hp stamp hstamp hat => ⟨_, List.mem_cons_self, ?_⟩
  obtain ⟨cell, hcell, hstamp⟩ := List.mem_flatMap.mp hstamp
  refine textDamage_contains_cell hsized hcell hp ?_
  rcases List.mem_append.mp hstamp with hback | hglyph
  · cases isOpaque with
    | false => cases hback
    | true =>
      rw [List.mem_singleton.mp hback] at hat
      exact hat
  · obtain ⟨rect, hrect, rfl⟩ := List.mem_map.mp hglyph
    exact textCell_contains_glyph hsized hrect hp hat

/-- The copied pixels are in the rectangle the copy names. -/
theorem copyRect_contains_stamp {source : XAuthorityCpuBufferSnapshot} {stamp : Stamp}
    (hstamp : stamp ∈ (GcDraw.copy source (copyRect srcX srcY width height) dstX dstY).stamps gc)
    (hp : Holds size p) (hat : Rect.Contains stamp.rect p) :
    Rect.Contains (copyRect dstX dstY width height) p := by
  simp only [GcDraw.stamps] at hstamp
  cases hclip : clippedBounds source.size (copyRect srcX srcY width height) with
  | none =>
    rw [hclip] at hstamp
    cases hstamp
  | some bounds =>
    rw [hclip] at hstamp
    obtain ⟨s, hs, rfl⟩ := List.mem_map.mp hstamp
    obtain ⟨⟨-, hwidth⟩, -, hheight⟩ := copied_extent hclip
    obtain ⟨⟨hs1, hs2⟩, hs3, hs4⟩ := mem_cells.mp hs
    obtain ⟨hleft, htop, -⟩ := clipped_corner hclip
    have hlands := (copyStamp_contains hclip hs hp).mp hat
    unfold Lands at hlands
    unfold Rect.Contains
    simp only [copyRect, toInt_ofNat_toNat, Int16.toInt_toInt32] at hlands hleft htop ⊢
    omega

end Changes

namespace XSoftwareBufferStore

/-- No other drawable's buffer changes, and of this one's pixels only some in the rectangles. -/
def TouchesOnly (store store' : XSoftwareBufferStore) (drawable : XResourceId) (size : Size)
    (rects : List Rect) : Prop :=
  (∀ other, other ≠ drawable → store'.buffers[other]? = store.buffers[other]?) ∧
    ∀ p, store'.pixel drawable size p ≠ store.pixel drawable size p →
      Holds size p ∧ ∃ rect ∈ rects, Rect.Contains rect p

variable {store store' last : XSoftwareBufferStore} {drawable source destination : XResourceId}
  {size : Size} {rects more : List Rect}

theorem TouchesOnly.refl (store : XSoftwareBufferStore) (drawable : XResourceId) (size : Size)
    (rects : List Rect) : store.TouchesOnly store drawable size rects :=
  ⟨fun _ _ => rfl, fun _ hchanged => absurd rfl hchanged⟩

theorem TouchesOnly.of_sameBuffers (h : store.SameBuffers store') :
    store.TouchesOnly store' drawable size rects :=
  ⟨fun other _ => h other, fun _ hchanged => absurd (pixel_congr (h drawable)) hchanged⟩

theorem TouchesOnly.trans (h : store.TouchesOnly store' drawable size rects)
    (h' : store'.TouchesOnly last drawable size rects) :
    store.TouchesOnly last drawable size rects := by
  refine ⟨fun other hother => (h'.1 other hother).trans (h.1 other hother), fun p hchanged => ?_⟩
  by_cases hfirst : store'.pixel drawable size p = store.pixel drawable size p
  · exact h'.2 p fun hsecond => hchanged (hsecond.trans hfirst)
  · exact h.2 p hfirst

theorem TouchesOnly.mono (h : store.TouchesOnly store' drawable size rects)
    (hrects : ∀ rect ∈ rects, rect ∈ more) : store.TouchesOnly store' drawable size more := by
  refine ⟨h.1, fun p hchanged => ?_⟩
  obtain ⟨hp, rect, hrect, hcontains⟩ := h.2 p hchanged
  exact ⟨hp, rect, hrects rect hrect, hcontains⟩

/-- Where no rectangle meets the drawable its pixels are the same. -/
theorem TouchesOnly.pixel_eq (h : store.TouchesOnly store' drawable size rects)
    (hmiss : ∀ rect ∈ rects, ¬ Meets size rect) (p : ℕ × ℕ) :
    store'.pixel drawable size p = store.pixel drawable size p := by
  by_contra hchanged
  obtain ⟨hp, rect, hrect, hcontains⟩ := h.2 p hchanged
  exact hmiss rect hrect (meets_of_contained hp hcontains)

theorem paint_touchesOnly {damage : Option Rect}
    {change : XAuthorityCpuBufferSnapshot → XAuthorityCpuBufferSnapshot}
    (h : Sized size → Confined size change rects) :
    store.TouchesOnly (store.paint drawable size damage change).2 drawable size rects := by
  by_cases hsized : Sized size
  · obtain ⟨act, hpaints, hframe⟩ := h hsized
    refine ⟨fun other hother => paint_other hother, fun p hchanged => ?_⟩
    by_cases hp : Holds size p
    · refine ⟨hp, ?_⟩
      by_contra hout
      push Not at hout
      rw [paint_pixel hpaints hsized, hframe p _ hp hout] at hchanged
      exact hchanged rfl
    · rw [pixel_of_not_holds hp, pixel_of_not_holds hp] at hchanged
      exact absurd rfl hchanged
  · exact .of_sameBuffers (paint_of_not_sized hsized)

theorem paintDamage_touchesOnly (rects : List Rect) (gc : XGraphicsContextValues) :
    store.TouchesOnly (store.paintDamage drawable size rects gc).2 drawable size rects :=
  paint_touchesOnly fun _ => confined_fill rects gc

theorem clear_touchesOnly (rect : Rect) (pixel : UInt32) :
    store.TouchesOnly (store.clear drawable size rect pixel).2 drawable size [rect] :=
  paint_touchesOnly fun _ => confined_fillRect rect pixel

theorem putImage_touchesOnly (rect : Rect) (data : List UInt8) :
    store.TouchesOnly (store.putImage drawable size rect data).2 drawable size [rect] :=
  paint_touchesOnly fun _ => confined_copyXrgb8888 rect data

theorem drawText_touchesOnly (x baseline : Int16) (text : List UInt8) (isOpaque : Bool)
    (gc : XGraphicsContextValues) :
    store.TouchesOnly (store.drawText drawable size x baseline text isOpaque gc).2 drawable size
      [textDamage x baseline text] :=
  paint_touchesOnly fun hsized => confined_text hsized x baseline text isOpaque gc

theorem copyArea_touchesOnly (srcX srcY dstX dstY : Int16) (width height : UInt16)
    (gc : XGraphicsContextValues) :
    store.TouchesOnly (store.copyArea source destination size (copyRect srcX srcY width height)
      dstX dstY gc).2 destination size [copyRect dstX dstY width height] := by
  by_cases hsized : Sized size
  · refine ⟨fun other hother => copyArea_other hother, fun p hchanged => ?_⟩
    cases hsource : store.buffers[source]? with
    | none =>
      have hsame : store.copyArea source destination size (copyRect srcX srcY width height)
          dstX dstY gc = (none, store) := by
        rw [copyArea, hsource]
      rw [hsame] at hchanged
      exact absurd rfl hchanged
    | some buffer =>
      rw [copyArea_pixel hsource hsized] at hchanged
      by_contra hout
      by_cases hp : Holds size p
      · refine hchanged (stamped_of_uncovered fun stamp hstamp hat => hout ⟨hp, ?_⟩)
        exact ⟨_, List.mem_cons_self, copyRect_contains_stamp hstamp hp hat⟩
      · rw [stamped, if_neg fun h => hp h.1] at hchanged
        exact hchanged rfl
  · exact .of_sameBuffers (copyArea_of_not_sized hsized)

end XSoftwareBufferStore
end Sophia.Authority

/-! Where the squares of lines are, and how much of them their reported box has. -/
namespace Sophia.Authority

open Std Sophia.Protocol XAuthorityCpuBufferSnapshot

/-- The side of the squares a line is made of. -/
abbrev brush (lineWidth : UInt16) : ℤ := max lineWidth.toNat 1

theorem brush_bounds (lineWidth : UInt16) : 1 ≤ brush lineWidth ∧ brush lineWidth < 2 ^ 16 := by
  have hwidth := lineWidth.toNat_lt
  unfold brush
  omega

/-- Each way, some point is near enough before the pixel and some near enough after it. -/
structure InReach (points : List XPoint) (width : ℤ) (p : ℕ × ℕ) : Prop where
  left : ∃ a ∈ points, a.x.toInt - width / 2 ≤ p.1
  right : ∃ a ∈ points, (p.1 : ℤ) < a.x.toInt - width / 2 + width
  top : ∃ a ∈ points, a.y.toInt - width / 2 ≤ p.2
  bottom : ∃ a ∈ points, (p.2 : ℤ) < a.y.toInt - width / 2 + width

namespace Line

variable {start target : XPoint} {line : Line} {cursor : LineCursor} {i j : ℤ} {fuel : ℕ}
  {q : ℤ × ℤ}

/-- The walk stays between its ends. -/
theorem OnPath.between (h : (between start target).OnPath cursor i j) :
    (min start.x.toInt target.x.toInt ≤ cursor.x ∧
        cursor.x ≤ max start.x.toInt target.x.toInt) ∧
      min start.y.toInt target.y.toInt ≤ cursor.y ∧
        cursor.y ≤ max start.y.toInt target.y.toInt := by
  obtain ⟨⟨hi, hdx⟩, ⟨hj, hdy⟩, hx, hy, -, -⟩ := h
  simp only [Line.between, neg_neg] at hdx hdy hx hy
  constructor
  · rcases lt_or_ge start.x.toInt target.x.toInt with hlt | hge
    · rw [if_pos hlt] at hx
      rw [abs_of_pos (by omega)] at hx hdx
      omega
    · rw [if_neg (by omega)] at hx
      rw [abs_of_nonpos (by omega)] at hx hdx
      omega
  · rcases lt_or_ge start.y.toInt target.y.toInt with hlt | hge
    · rw [if_pos hlt] at hy
      rw [abs_of_pos (by omega)] at hy hdy
      omega
    · rw [if_neg (by omega)] at hy
      rw [abs_of_nonpos (by omega)] at hy hdy
      omega

theorem mem_visits (h : line.OnPath cursor i j) (hq : q ∈ line.visits fuel cursor) :
    ∃ cursor i j, line.OnPath cursor i j ∧ q = (cursor.x, cursor.y) := by
  induction fuel generalizing cursor i j with
  | zero => cases hq
  | succ fuel ih =>
    rw [visits] at hq
    rcases List.mem_cons.mp hq with rfl | hq
    · exact ⟨cursor, i, j, h, rfl⟩
    · split at hq
      · cases hq
      · rename_i hat
        obtain ⟨i', j', hnext, -⟩ := onPath_advance h (h.unfinished hat)
        exact ih hnext hq

end Line

section Reach

variable {points : List XPoint} {gc : XGraphicsContextValues} {stamp : Stamp} {p : ℕ × ℕ}
  {a b : XPoint} {f : XPoint → ℤ} {c : ℤ}

theorem exists_le_of_min (ha : a ∈ points) (hb : b ∈ points) (h : min (f a) (f b) ≤ c) :
    ∃ point ∈ points, f point ≤ c := by
  rcases min_le_iff.mp h with h | h
  · exact ⟨a, ha, h⟩
  · exact ⟨b, hb, h⟩

theorem exists_ge_of_max (ha : a ∈ points) (hb : b ∈ points) (h : c ≤ max (f a) (f b)) :
    ∃ point ∈ points, c ≤ f point := by
  rcases le_max_iff.mp h with h | h
  · exact ⟨a, ha, h⟩
  · exact ⟨b, hb, h⟩

/-- A pixel that a square covers is in reach of the points. -/
theorem inReach_of_stamp (hstamp : stamp ∈ lineStamps points gc)
    (hat : Rect.Contains stamp.rect p) : InReach points (brush gc.lineWidth) p := by
  simp only [lineStamps, List.mem_flatMap, List.mem_map] at hstamp
  obtain ⟨ends, hends, q, hq, rfl⟩ := hstamp
  obtain ⟨hstart, htarget⟩ := List.of_mem_zip hends
  have htarget := List.mem_of_mem_tail htarget
  obtain ⟨cursor, i, j, hpath, rfl⟩ := Line.mem_visits (Line.onPath_start ends.1 ends.2) hq
  obtain ⟨⟨hx, hx'⟩, hy, hy'⟩ := hpath.between
  obtain ⟨left, hleft, hlow⟩ := exists_le_of_min (f := fun a => a.x.toInt) hstart htarget hx
  obtain ⟨right, hright, hhigh⟩ := exists_ge_of_max (f := fun a => a.x.toInt) hstart htarget hx'
  obtain ⟨top, htop, hlow'⟩ := exists_le_of_min (f := fun a => a.y.toInt) hstart htarget hy
  obtain ⟨bottom, hbottom, hhigh'⟩ :=
    exists_ge_of_max (f := fun a => a.y.toInt) hstart htarget hy'
  have hbrush := brush_bounds gc.lineWidth
  have hat : Rect.Contains ⟨saturateInt32 (cursor.x - brush gc.lineWidth / 2),
    saturateInt32 (cursor.y - brush gc.lineWidth / 2), .ofInt (brush gc.lineWidth),
    .ofInt (brush gc.lineWidth)⟩ p := hat
  generalize brush gc.lineWidth = width at hbrush hat ⊢
  -- The coordinates are sixteen bits wide, so the corners do not saturate.
  have hxl := left.x.le_toInt
  have hxr := right.x.toInt_lt
  have hyt := top.y.le_toInt
  have hyb := bottom.y.toInt_lt
  have hside : (Int32.ofInt width).toInt = width := Int32.toInt_ofInt_of_le (by omega) (by omega)
  unfold Rect.Contains at hat
  simp only [hside, toInt_saturateInt32] at hat
  unfold saturated at hat
  exact ⟨⟨left, hleft, by omega⟩, ⟨right, hright, by omega⟩, ⟨top, htop, by omega⟩,
    bottom, hbottom, by omega⟩

/-- The box is small enough not to saturate, and has the point. -/
def Edges.Has (edges : Edges) (a : XPoint) : Prop :=
  (-2 ^ 15 ≤ edges.left ∧ edges.left ≤ a.x.toInt ∧ a.x.toInt ≤ edges.right ∧
      edges.right < 2 ^ 15) ∧
    -2 ^ 15 ≤ edges.top ∧ edges.top ≤ a.y.toInt ∧ a.y.toInt ≤ edges.bottom ∧
      edges.bottom < 2 ^ 15

theorem Edges.has_edges (a : XPoint) : a.edges.Has a :=
  ⟨⟨a.x.le_toInt, le_rfl, le_rfl, a.x.toInt_lt⟩, a.y.le_toInt, le_rfl, le_rfl, a.y.toInt_lt⟩

theorem Edges.Has.join {edges : Edges} (h : edges.Has a) (b : XPoint) :
    (edges.join b.edges).Has a ∧ (edges.join b.edges).Has b := by
  have hb := Edges.has_edges b
  unfold Edges.Has Edges.join at *
  dsimp only
  omega

theorem Edges.has_foldl {edges : Edges} (h : edges.Has a) (rest : List XPoint) :
    ∀ b ∈ a :: rest, (rest.foldl (fun edges point => edges.join point.edges) edges).Has b := by
  induction rest generalizing edges a with
  | nil =>
    intro b hb
    rw [List.mem_singleton.mp hb]
    exact h
  | cons point rest ih =>
    intro b hb
    rw [List.foldl_cons]
    rcases List.mem_cons.mp hb with rfl | hb
    · exact ih (h.join point).1 b List.mem_cons_self
    · exact ih (h.join point).2 b hb

/-- Along one axis, the box that is painted reaches as far as the brush does. -/
theorem box_axis_contains {low high width : ℤ} {n : ℕ} (hlow : -2 ^ 15 ≤ low)
    (hhigh : high < 2 ^ 15) (horder : low ≤ high) (hwidth : 1 ≤ width ∧ width < 2 ^ 16)
    (hfirst : low - width / 2 ≤ n) (hlast : (n : ℤ) < high - width / 2 + width) :
    saturated (low - width / 2) ≤ n ∧
      (n : ℤ) < saturated (low - width / 2) + saturated (saturated (high - low) + width) := by
  have hcorner : saturated (low - width / 2) = low - width / 2 := by
    unfold saturated
    omega
  have hextent : saturated (high - low) = high - low := by
    unfold saturated
    omega
  have hgrown : saturated (high - low + width) = high - low + width := by
    unfold saturated
    omega
  rw [hcorner, hextent, hgrown]
  omega

/-- A pixel in reach is in the box that is painted. -/
theorem pointBounds_contains {box : Rect} {lineWidth : UInt16}
    (hbox : pointBounds points lineWidth = some box)
    (h : InReach points (brush lineWidth) p) : Rect.Contains box p := by
  obtain ⟨⟨left, hleft, hl⟩, ⟨right, hright, hr⟩, ⟨top, htop, ht⟩, bottom, hbottom, hb⟩ := h
  cases points with
  | nil => cases hleft
  | cons first rest =>
    have hall := Edges.has_foldl (Edges.has_edges first) rest
    obtain ⟨⟨hlow, hleft, horder, -⟩, -⟩ := hall left hleft
    obtain ⟨⟨-, -, hright, hhigh⟩, -⟩ := hall right hright
    obtain ⟨-, hlow', htop, horder', -⟩ := hall top htop
    obtain ⟨-, -, -, hbottom, hhigh'⟩ := hall bottom hbottom
    simp only [pointBounds, Option.some.injEq] at hbox
    subst hbox
    have hbrush := brush_bounds lineWidth
    unfold Rect.Contains
    simp only [toInt_saturateInt32]
    unfold brush at *
    exact ⟨box_axis_contains (by omega) (by omega) (by omega) hbrush (by omega) (by omega),
      box_axis_contains (by omega) (by omega) (by omega) hbrush (by omega) (by omega)⟩

theorem exists_min (hpoints : points ≠ []) (f : XPoint → ℤ) :
    ∃ a ∈ points, (points.map f).min?.getD 0 = f a ∧ ∀ b ∈ points, f a ≤ f b := by
  cases hmin : (points.map f).min? with
  | none =>
    rw [List.min?_eq_none_iff, List.map_eq_nil_iff] at hmin
    exact absurd hmin hpoints
  | some low =>
    obtain ⟨hmem, hall⟩ := List.min?_eq_some_iff.mp hmin
    obtain ⟨a, ha, rfl⟩ := List.mem_map.mp hmem
    exact ⟨a, ha, rfl, fun b hb => hall _ (List.mem_map_of_mem hb)⟩

theorem exists_max (hpoints : points ≠ []) (f : XPoint → ℤ) :
    ∃ a ∈ points, (points.map f).max?.getD 0 = f a ∧ ∀ b ∈ points, f b ≤ f a := by
  cases hmax : (points.map f).max? with
  | none =>
    rw [List.max?_eq_none_iff, List.map_eq_nil_iff] at hmax
    exact absurd hmax hpoints
  | some high =>
    obtain ⟨hmem, hall⟩ := List.max?_eq_some_iff.mp hmax
    obtain ⟨a, ha, rfl⟩ := List.mem_map.mp hmem
    exact ⟨a, ha, rfl, fun b hb => hall _ (List.mem_map_of_mem hb)⟩

/-- The box that is reported has the pixels in reach that are neither left of all points nor above
them all. -/
theorem lineDamage_contains {lineWidth : UInt16} (h : InReach points (brush lineWidth) p) :
    Rect.Contains (lineDamage points lineWidth) p ↔
      (∃ a ∈ points, a.x.toInt ≤ p.1) ∧ ∃ a ∈ points, a.y.toInt ≤ p.2 := by
  obtain ⟨-, ⟨right, hright, hr⟩, -, bottom, hbottom, hb⟩ := h
  have hpoints : points ≠ [] := List.ne_nil_of_mem hright
  obtain ⟨left, hleft, hminx, hx⟩ := exists_min hpoints fun a => a.x.toInt
  obtain ⟨last, -, hmaxx, hx'⟩ := exists_max hpoints fun a => a.x.toInt
  obtain ⟨top, htop, hminy, hy⟩ := exists_min hpoints fun a => a.y.toInt
  obtain ⟨lowest, -, hmaxy, hy'⟩ := exists_max hpoints fun a => a.y.toInt
  have hbrush := brush_bounds lineWidth
  have hlx := left.x.le_toInt
  have hlx' := left.x.toInt_lt
  have hrx := last.x.le_toInt
  have hrx' := last.x.toInt_lt
  have hty := top.y.le_toInt
  have hty' := top.y.toInt_lt
  have hby := lowest.y.le_toInt
  have hby' := lowest.y.toInt_lt
  have hright := hx' right hright
  have hbottom := hy' bottom hbottom
  have hleft' := hx' left hleft
  have htop' := hy' top htop
  have hcorner : (lineDamage points lineWidth).x.toInt = left.x.toInt ∧
      (lineDamage points lineWidth).y.toInt = top.y.toInt := by
    simp only [lineDamage, hminx, hminy]
    exact ⟨Int32.toInt_ofInt_of_le (by omega) (by omega),
      Int32.toInt_ofInt_of_le (by omega) (by omega)⟩
  have hextent : (lineDamage points lineWidth).width.toInt =
        last.x.toInt - left.x.toInt + brush lineWidth ∧
      (lineDamage points lineWidth).height.toInt =
        lowest.y.toInt - top.y.toInt + brush lineWidth := by
    simp only [lineDamage, hminx, hminy, hmaxx, hmaxy, toInt_saturateInt32]
    unfold saturated brush
    unfold brush at hbrush
    omega
  unfold Rect.Contains
  rw [hcorner.1, hcorner.2, hextent.1, hextent.2]
  constructor
  · rintro ⟨⟨hp, -⟩, hp', -⟩
    exact ⟨⟨left, hleft, hp⟩, top, htop, hp'⟩
  · rintro ⟨⟨a, ha, hp⟩, b, hb', hp'⟩
    have hax := hx a ha
    have hby := hy b hb'
    omega

theorem inReach_of_changed {old : UInt32}
    (h : combined gc (sourcesOn (lineStamps points gc) p) old ≠ old) :
    InReach points (brush gc.lineWidth) p := by
  by_contra hfar
  refine h ?_
  rw [sourcesOn_eq_nil.mpr fun stamp hstamp hat => hfar (inReach_of_stamp hstamp hat)]
  rfl

end Reach

namespace XSoftwareBufferStore

variable {store : XSoftwareBufferStore} {drawable other : XResourceId} {size : Size}
  {points : List XPoint} {gc : XGraphicsContextValues} {p : ℕ × ℕ}

theorem drawLines_pixel (hsized : Sized size) :
    (store.drawLines drawable size points gc).2.pixel drawable size p =
      stamped size gc (lineStamps points gc) p (store.pixel drawable size p) := by
  unfold drawLines
  cases points with
  | nil =>
    rw [stamped_of_uncovered (by simp [lineStamps])]
    rfl
  | cons first rest => exact paint_pixel (paints_lines size (first :: rest) gc) hsized

theorem drawLines_other (h : other ≠ drawable) :
    (store.drawLines drawable size points gc).2.buffers[other]? = store.buffers[other]? := by
  unfold drawLines
  split
  · rfl
  · exact paint_other h

theorem drawLines_of_not_sized (h : ¬ Sized size) :
    store.SameBuffers (store.drawLines drawable size points gc).2 := by
  unfold drawLines
  split
  · exact .refl store
  · exact paint_of_not_sized h

/-- Lines that reach a pixel of a buffer that can go on end in an update. -/
theorem drawLines_isSome_of_inReach (hsized : Sized size) (hrenew : store.Renewable drawable)
    (hp : Holds size p) (h : InReach points (brush gc.lineWidth) p) :
    (store.drawLines drawable size points gc).1.isSome := by
  obtain ⟨a, ha, -⟩ := h.left
  cases hbox : pointBounds points gc.lineWidth with
  | none =>
    cases points with
    | nil => cases ha
    | cons first rest => cases hbox
  | some box =>
    refine drawLines_isSome.mpr ⟨box, hbox, hsized, hrenew, fun _ => ?_⟩
    exact ⟨box, List.mem_cons_self, meets_of_contained hp (pointBounds_contains hbox h)⟩

end XSoftwareBufferStore
end Sophia.Authority
