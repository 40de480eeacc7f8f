import Sophia.Authority.DrawPixels

/-! Where the pixels of a copied area go. -/
namespace Sophia.Authority

open Std Sophia.Protocol XAuthorityCpuBufferSnapshot XSoftwareBufferStore

/-- The context's clip has the pixel. -/
def InClip (gc : XGraphicsContextValues) (p : ℕ × ℕ) : Prop :=
  gc.clipRectangles = [] ∨ Translated gc.clipRectangles gc.clipXOrigin gc.clipYOrigin p

instance (gc : XGraphicsContextValues) (p : ℕ × ℕ) : Decidable (InClip gc p) :=
  inferInstanceAs (Decidable (_ ∨ _))

/-- A pixel of the source belongs at a place when the corner goes to the destination's point. -/
def Lands (cornerX cornerY : ℤ) (dstX dstY : Int16) (s p : ℕ × ℕ) : Prop :=
  p.1 = dstX.toInt + (s.1 - cornerX) ∧ p.2 = dstY.toInt + (s.2 - cornerY)

instance (cornerX cornerY : ℤ) (dstX dstY : Int16) (s p : ℕ × ℕ) :
    Decidable (Lands cornerX cornerY dstX dstY s p) := inferInstanceAs (Decidable (_ ∧ _))

/-- Each pixel that both the source and its rectangle have lands at its place, if the destination
and the clip have it, and every other pixel of the destination is what it was. -/
def CopyLaw (source : XAuthorityCpuBufferSnapshot) (rect : Rect) (cornerX cornerY : ℤ)
    (dstX dstY : Int16) (size : Size) (gc : XGraphicsContextValues) (old new : ℕ × ℕ → UInt32) :
    Prop :=
  ∀ p, Holds size p →
    (∀ s, Holds source.size s → Rect.Contains rect s → Lands cornerX cornerY dstX dstY s p →
      InClip gc p → new p &&& 0x00ffffff = source.pixel s &&& 0x00ffffff) ∧
    ((InClip gc p → ∀ s, Holds source.size s → Rect.Contains rect s →
      ¬ Lands cornerX cornerY dstX dstY s p) → new p = old p)

section Cells

variable {source : XAuthorityCpuBufferSnapshot} {rect : Rect} {bounds : PixelBounds}
  {dstX dstY : Int16} {size : Size} {gc : XGraphicsContextValues} {s p : ℕ × ℕ} {old : UInt32}

/-- With the function that copies and every colour plane, a pixel becomes its source. -/
theorem applyRasterFunction_copy (hcopy : gc.function = 3)
    (hplanes : gc.planeMask &&& 0x00ffffff = 0x00ffffff) (pixel old : UInt32) :
    applyRasterFunction gc pixel old = pixel &&& 0x00ffffff := by
  refine (combines_iff.mp fun i hi => ?_).symm
  rw [getLsbD_and_colour _ hi]
  by_cases hcolour : i < 24
  · have hplane : gc.planeMask.toBitVec.getLsbD i = true := by
      have hbit := getLsbD_and_colour gc.planeMask hi
      rw [hplanes, colour_bit hi, decide_eq_true hcolour, Bool.true_and] at hbit
      exact hbit.symm
    have hfunction : gc.function.toNat = 3 := by rw [hcopy]; rfl
    rw [hplane, if_pos rfl, gxBit, hfunction]
    cases pixel.toBitVec.getLsbD i <;> cases old.toBitVec.getLsbD i <;> rfl
  · rw [decide_eq_false hcolour, Bool.false_and, Bool.false_and]

theorem filter_eq_singleton {α : Type} [DecidableEq α] {items : List α} {a : α} {f : α → Bool}
    (hnodup : items.Nodup) (ha : a ∈ items) (hf : ∀ b ∈ items, f b ↔ b = a) :
    items.filter f = [a] := by
  have hcongr : items.filter f = items.filter (· = a) :=
    List.filter_congr fun b hb => Bool.eq_iff_iff.mpr (by simpa using hf b hb)
  rw [hcongr, List.filter_eq, List.count_eq_one_of_mem hnodup ha]
  rfl

theorem dot_axis_iff {start destination : ℤ} {low n place : ℕ} (hlow : low = start.toNat)
    (hle : low ≤ n) (hn : (n : ℤ) < 2 ^ 31) (hplace : (place : ℤ) < 2 ^ 31 - 1) :
    saturated (destination + min (n - low : ℕ) (2 ^ 31 - 1)) = place ↔
      (place : ℤ) = destination + (n - max start 0) := by
  have hoffset : ((min (n - low) (2 ^ 31 - 1) : ℕ) : ℤ) = n - max start 0 := by omega
  rw [hoffset]
  unfold saturated
  omega

/-- The dot of a copied pixel is where the clipped corner puts it. -/
theorem copyStamp_contains (hclip : clippedBounds source.size rect = some bounds)
    (hs : s ∈ bounds.cells) (hp : Holds size p) :
    Rect.Contains (dot (dstX.toInt + min (s.1 - bounds.left : ℕ) (2 ^ 31 - 1))
      (dstY.toInt + min (s.2 - bounds.top : ℕ) (2 ^ 31 - 1))) p ↔
      Lands (max rect.x.toInt 0) (max rect.y.toInt 0) dstX dstY s p := by
  obtain ⟨hleft, htop, -⟩ := clipped_corner hclip
  obtain ⟨⟨hs1, -⟩, hs2, -⟩ := mem_cells.mp hs
  obtain ⟨⟨hsx, hsy⟩, -⟩ := (mem_cells_of_clipped hclip).mp hs
  obtain ⟨hpx, hpy⟩ := hp
  have hwidth := size.width.toInt_lt
  have hheight := size.height.toInt_lt
  have hwidth' := source.size.width.toInt_lt
  have hheight' := source.size.height.toInt_lt
  rw [dot_contains, dot_axis_iff hleft hs1 (by omega) (by omega),
    dot_axis_iff htop hs2 (by omega) (by omega)]
  rfl

theorem sourcesOn_copy (hclip : clippedBounds source.size rect = some bounds)
    (hp : Holds size p) (hs : s ∈ bounds.cells)
    (hlands : Lands (max rect.x.toInt 0) (max rect.y.toInt 0) dstX dstY s p) :
    sourcesOn (copyStamps source bounds dstX dstY) p = [source.pixel s] := by
  unfold sourcesOn copyStamps
  rw [List.filter_map, filter_eq_singleton (nodup_cells bounds) hs]
  · rfl
  · intro b hb
    simp only [Function.comp_apply, decide_eq_true_eq]
    rw [copyStamp_contains hclip hb hp]
    constructor
    · intro hlands'
      unfold Lands at hlands hlands'
      exact Prod.ext (by omega) (by omega)
    · rintro rfl
      exact hlands

theorem pixelInClip_iff_inClip (hp : Holds size p) : pixelInClip gc p.1 p.2 ↔ InClip gc p :=
  pixelInClip_iff hp

variable {store : XSoftwareBufferStore} {origin destination : XResourceId}

/-- A copy obeys the law for the corner of what is left of its rectangle, also when the source is
the destination: the source is read as it was. -/
theorem copyArea_law (rect : Rect) (dstX dstY : Int16) (destination : XResourceId)
    (hcopy : gc.function = 3) (hplanes : gc.planeMask &&& 0x00ffffff = 0x00ffffff)
    (hsource : store.buffers[origin]? = some source) (hsize : Sized size) :
    CopyLaw source rect (max rect.x.toInt 0) (max rect.y.toInt 0) dstX dstY size gc
      (store.pixel destination size)
      ((store.copyArea origin destination size rect dstX dstY gc).2.pixel destination size) := by
  intro p hp
  rw [copyArea_pixel hsource hsize]
  simp only [GcDraw.stamps]
  cases hclip : clippedBounds source.size rect with
  | none =>
    have hnone := fun s => not_contained_of_not_clipped (p := s) hclip
    refine ⟨fun s hs hcontains _ _ => absurd ⟨hs, hcontains⟩ (hnone s), fun _ => ?_⟩
    exact stamped_of_uncovered (by simp)
  | some bounds =>
    dsimp only
    constructor
    · intro s hs hcontains hlands hin
      have hmem : s ∈ bounds.cells := (mem_cells_of_clipped hclip).mpr ⟨hs, hcontains⟩
      rw [stamped, if_pos ⟨hp, (pixelInClip_iff_inClip hp).mpr hin⟩,
        sourcesOn_copy hclip hp hmem hlands, combined, List.foldl_cons, List.foldl_nil,
        applyRasterFunction_copy hcopy hplanes, UInt32.and_assoc, UInt32.and_self]
    · intro hout
      by_cases hin : InClip gc p
      · refine stamped_of_uncovered fun stamp hstamp hat => ?_
        obtain ⟨s, hs, rfl⟩ := List.mem_map.mp hstamp
        obtain ⟨hholds, hcontains⟩ := (mem_cells_of_clipped hclip).mp hs
        exact hout hin s hholds hcontains ((copyStamp_contains hclip hs hp).mp hat)
      · rw [stamped, if_neg fun h => hin ((pixelInClip_iff_inClip hp).mp h.2)]

/-- A copy ends in an update when there is something to copy and the place it is painted at can
be finished. -/
theorem copyArea_isSome (hsource : store.buffers[origin]? = some source) :
    (store.copyArea origin destination size rect dstX dstY gc).1.isSome ↔
      ∃ bounds, clippedBounds source.size rect = some bounds ∧
        store.Completes destination size
          [⟨dstX.toInt32, dstY.toInt32, .ofNat (bounds.right - bounds.left),
            .ofNat (bounds.bottom - bounds.top)⟩] := by
  unfold copyArea
  rw [hsource]
  dsimp only
  cases hensure : store.allocateHandle.2.ensure destination size store.allocateHandle.1 with
  | none =>
    refine iff_of_false (by simp) ?_
    rintro ⟨bounds, -, hsized, -⟩
    exact ensure_eq_none.mp hensure hsized
  | some result =>
    obtain ⟨buffer, replaced⟩ := result
    dsimp only
    cases hclip : clippedBounds source.size rect with
    | none => simp
    | some bounds =>
      have hok : (source.copyCells bounds dstX dstY gc buffer).1 = .ok () := copyCells_ok hclip
      have hpainted : buffer.Repainted (source.copyCells bounds dstX dstY gc buffer).2 :=
        repainted_copyCells
      generalize hcopied : source.copyCells bounds dstX dstY gc buffer = copied at hok hpainted
      obtain ⟨outcome, painted⟩ := copied
      cases hok
      dsimp only at hpainted ⊢
      rw [hcopied]
      dsimp only
      rw [finish_isSome_of_ensure hensure hpainted, sameBuffers_allocateHandle.completes]
      simp

end Cells

section Law

variable {sourceSize size : Size} {rect : Rect} {dstX dstY : Int16} {gc : XGraphicsContextValues}

/-- The copy law holds of every source of the size, on every destination. -/
def CopiesWell (sourceSize size : Size) (rect : Rect) (dstX dstY : Int16)
    (gc : XGraphicsContextValues) : Prop :=
  ∀ (store : XSoftwareBufferStore) (origin destination : XResourceId),
    ∀ source ∈ store.buffers[origin]?, source.size = sourceSize →
      (store.copyArea origin destination size rect dstX dstY gc).1.isSome →
        CopyLaw source rect rect.x.toInt rect.y.toInt dstX dstY size gc
          (store.pixel destination size)
          ((store.copyArea origin destination size rect dstX dstY gc).2.pixel destination size)

/-- A store can have any source, and any destination or none. -/
theorem exists_store (source : XAuthorityCpuBufferSnapshot)
    (target : Option XAuthorityCpuBufferSnapshot) :
    ∃ (store : XSoftwareBufferStore) (origin destination : XResourceId),
      store.buffers[origin]? = some source ∧ store.buffers[destination]? = target := by
  have hne : ¬ compare (XResourceId.new 2 1) (XResourceId.new 1 1) = .eq := by decide
  have hne' : ¬ compare (XResourceId.new 1 1) (XResourceId.new 2 1) = .eq := by decide
  cases target with
  | none =>
    refine ⟨⟨0, XSoftwareBufferStore.new.buffers.insert (.new 1 1) source⟩, .new 1 1, .new 2 1,
      by simp, ?_⟩
    rw [ExtTreeMap.getElem?_insert, if_neg hne']
    simp [XSoftwareBufferStore.new]
  | some target =>
    refine ⟨⟨0, (XSoftwareBufferStore.new.buffers.insert (.new 1 1) source).insert (.new 2 1)
      target⟩, .new 1 1, .new 2 1, ?_, by simp⟩
    rw [ExtTreeMap.getElem?_insert, if_neg hne]
    simp

/-- What the clipped corner puts at a pixel of the destination is in the box that is painted. -/
theorem completes_of_lands {source : XAuthorityCpuBufferSnapshot} {bounds : PixelBounds}
    {store : XSoftwareBufferStore} {destination : XResourceId} {s p : ℕ × ℕ}
    (hsize : Sized size) (hrenew : store.Renewable destination)
    (hclip : clippedBounds source.size rect = some bounds) (hs : s ∈ bounds.cells)
    (hp : Holds size p)
    (hlands : Lands (max rect.x.toInt 0) (max rect.y.toInt 0) dstX dstY s p) :
    store.Completes destination size
      [⟨dstX.toInt32, dstY.toInt32, .ofNat (bounds.right - bounds.left),
        .ofNat (bounds.bottom - bounds.top)⟩] := by
  refine ⟨hsize, hrenew, fun _ => ⟨_, List.mem_cons_self, meets_of_contained hp ?_⟩⟩
  obtain ⟨hleft, htop, -⟩ := clipped_corner hclip
  obtain ⟨⟨-, hright, -⟩, -, hbottom, -⟩ := clippedBounds_eq_some hclip
  obtain ⟨⟨hs1, hs2⟩, hs3, hs4⟩ := mem_cells.mp hs
  have hwidth := source.size.width.toInt_lt
  have hheight := source.size.height.toInt_lt
  unfold Rect.Contains
  rw [Int32.toInt_ofNat_of_lt (by omega), Int32.toInt_ofNat_of_lt (by omega)]
  simp only [Int16.toInt_toInt32]
  unfold Lands at hlands
  omega

/-- Where the clipped corner puts a visible pixel, the law for the rectangle's own corner fails. -/
theorem not_lands_clipped (hsource : Sized sourceSize) (hsize : Sized size)
    (hcopy : gc.function = 3) (hplanes : gc.planeMask &&& 0x00ffffff = 0x00ffffff)
    (hlaw : CopiesWell sourceSize size rect dstX dstY gc)
    (hcorner : ¬ (0 ≤ rect.x.toInt ∧ 0 ≤ rect.y.toInt)) {s p : ℕ × ℕ} (hs : Holds sourceSize s)
    (hcontains : Rect.Contains rect s) (hp : Holds size p) (hin : InClip gc p) :
    ¬ Lands (max rect.x.toInt 0) (max rect.y.toInt 0) dstX dstY s p := by
  intro hlands
  -- One source pixel is one, and the destination's pixel has its unused byte set.
  obtain ⟨source, rfl, -, hpixels⟩ := exists_single hsource hs 1
  obtain ⟨target, htarget, hgeneration, hold⟩ := exists_single hsize hp 0xff000000
  obtain ⟨store, origin, destination, hget, hget'⟩ := exists_store source (some target)
  obtain ⟨bounds, hclip⟩ := Option.isSome_iff_exists.mp (meets_of_contained hs hcontains)
  have hmem : s ∈ bounds.cells := (mem_cells_of_clipped hclip).mpr ⟨hs, hcontains⟩
  have hrenew : store.Renewable destination := by
    intro found hfound
    obtain rfl : target = found := Option.some.inj (hget'.symm.trans hfound)
    rw [hgeneration]
    decide
  have haccepted : (store.copyArea origin destination size rect dstX dstY gc).1.isSome :=
    (copyArea_isSome hget).mpr ⟨bounds, hclip, completes_of_lands hsize hrenew hclip hmem hp hlands⟩
  have hpainted := (copyArea_law rect dstX dstY destination hcopy hplanes hget hsize p hp).1 s hs
    hcontains hlands hin
  obtain ⟨hput, hkept⟩ := hlaw store origin destination source hget rfl haccepted p hp
  rw [hpixels, if_pos rfl] at hpainted
  by_cases hother : ∃ other, Holds source.size other ∧ Rect.Contains rect other ∧
      Lands rect.x.toInt rect.y.toInt dstX dstY other p
  · obtain ⟨other, hholds, hcontains', hlands'⟩ := hother
    have hne : other ≠ s := by
      rintro rfl
      unfold Lands at hlands hlands'
      omega
    have hzero := hput other hholds hcontains' hlands' hin
    rw [hpixels, if_neg hne, hpainted] at hzero
    exact absurd hzero (by decide)
  · have hsame := hkept fun _ other hholds hcontains' hlands' =>
      hother ⟨other, hholds, hcontains', hlands'⟩
    rw [hsame, pixel_of_get hget' htarget, hold, if_pos rfl] at hpainted
    exact absurd hpainted (by decide)

/-- Where the rectangle's own corner puts a visible pixel and the clipped corner none, the law
fails. -/
theorem not_lands_own (hsource : Sized sourceSize) (hsize : Sized size)
    (hcopy : gc.function = 3) (hplanes : gc.planeMask &&& 0x00ffffff = 0x00ffffff)
    (hlaw : CopiesWell sourceSize size rect dstX dstY gc) {s p : ℕ × ℕ}
    (hs : Holds sourceSize s) (hcontains : Rect.Contains rect s) (hp : Holds size p)
    (hin : InClip gc p)
    (hnone : ∀ other, Holds sourceSize other → Rect.Contains rect other →
      ¬ Lands (max rect.x.toInt 0) (max rect.y.toInt 0) dstX dstY other p) :
    ¬ Lands rect.x.toInt rect.y.toInt dstX dstY s p := by
  intro hlands
  obtain ⟨source, rfl, -, hpixels⟩ := exists_single hsource hs 1
  obtain ⟨store, origin, destination, hget, hget'⟩ := exists_store source none
  obtain ⟨bounds, hclip⟩ := Option.isSome_iff_exists.mp (meets_of_contained hs hcontains)
  -- The destination has no buffer, so the copy is accepted even where it paints nothing.
  have hnew : ¬ store.Kept destination size := by
    rintro ⟨found, hfound, -⟩
    rw [hget'] at hfound
    cases hfound
  have hcompletes : ∀ rects, store.Completes destination size rects := by
    refine fun rects => ⟨hsize, fun found hfound => ?_, fun hkept => absurd hkept hnew⟩
    rw [hget'] at hfound
    cases hfound
  have haccepted : (store.copyArea origin destination size rect dstX dstY gc).1.isSome :=
    (copyArea_isSome hget).mpr ⟨bounds, hclip, hcompletes _⟩
  have hsame := (copyArea_law rect dstX dstY destination hcopy hplanes hget hsize p hp).2
    fun _ => hnone
  have hput := (hlaw store origin destination source hget rfl haccepted p hp).1 s hs hcontains
    hlands hin
  rw [hsame, pixel_of_not_kept hnew, hpixels, if_pos rfl] at hput
  exact absurd hput (by decide)

/-- An accepted copy puts every pixel at its place, whatever the pixels are and whether or not the
source is the destination, exactly when the rectangle does not stick out of the source to the left
or above, or neither the right places nor the ones it takes instead are visible. -/
theorem copy_area_pixels_iff (hsource : Sized sourceSize) (hsize : Sized size)
    (hcopy : gc.function = 3) (hplanes : gc.planeMask &&& 0x00ffffff = 0x00ffffff) :
    CopiesWell sourceSize size rect dstX dstY gc ↔
      (0 ≤ rect.x.toInt ∧ 0 ≤ rect.y.toInt) ∨
        ∀ p, Holds size p → InClip gc p → ∀ s, Holds sourceSize s → Rect.Contains rect s →
          ¬ Lands (max rect.x.toInt 0) (max rect.y.toInt 0) dstX dstY s p ∧
            ¬ Lands rect.x.toInt rect.y.toInt dstX dstY s p := by
  constructor
  · intro hlaw
    by_cases hcorner : 0 ≤ rect.x.toInt ∧ 0 ≤ rect.y.toInt
    · exact .inl hcorner
    · right
      intro p hp hin s hs hcontains
      have hclipped : ∀ other, Holds sourceSize other → Rect.Contains rect other →
          ¬ Lands (max rect.x.toInt 0) (max rect.y.toInt 0) dstX dstY other p :=
        fun other hother hcontains' =>
          not_lands_clipped hsource hsize hcopy hplanes hlaw hcorner hother hcontains' hp hin
      refine ⟨hclipped s hs hcontains, ?_⟩
      exact not_lands_own hsource hsize hcopy hplanes hlaw hs hcontains hp hin hclipped
  · rintro hcondition store origin destination source hget rfl - p hp
    have hlaw := copyArea_law rect dstX dstY destination hcopy hplanes hget hsize p hp
    rcases hcondition with ⟨hx, hy⟩ | hhidden
    · rwa [max_eq_left hx, max_eq_left hy] at hlaw
    · refine ⟨fun s hs hcontains hlands hin => ?_, fun _ => ?_⟩
      · exact absurd hlands (hhidden p hp hin s hs hcontains).2
      · exact hlaw.2 fun hin s hs hcontains => (hhidden p hp hin s hs hcontains).1

/-- A rectangle inside its source is copied well. -/
theorem copy_area_inside : CopiesWell ⟨2, 1⟩ ⟨2, 1⟩ ⟨0, 0, 2, 1⟩ 1 0 {} :=
  (copy_area_pixels_iff (by decide) (by decide) rfl (by decide)).mpr (.inl (by decide))

/-- A drawable of one pixel, which is one. -/
def onePixel : XSoftwareBufferStore :=
  (XSoftwareBufferStore.new.putImage (.new 1 1) ⟨1, 1⟩ ⟨0, 0, 1, 1⟩ [1, 0, 0, 0]).2

/-- Copied from one column left of it to a window of two pixels, the pixel belongs in the second
one, and is put in the first. -/
theorem copy_area_left_of_source :
    ∃ source ∈ onePixel.buffers[XResourceId.new 1 1]?,
      (onePixel.copyArea (.new 1 1) (.new 2 1) ⟨2, 1⟩ ⟨-1, 0, 2, 1⟩ 0 0 {}).1.isSome ∧
        ¬ CopyLaw source ⟨-1, 0, 2, 1⟩ (-1) 0 0 0 ⟨2, 1⟩ {} (onePixel.pixel (.new 2 1) ⟨2, 1⟩)
          ((onePixel.copyArea (.new 1 1) (.new 2 1) ⟨2, 1⟩ ⟨-1, 0, 2, 1⟩ 0 0 {}).2.pixel
            (.new 2 1) ⟨2, 1⟩) := by
  obtain ⟨source, hsource⟩ : ∃ source, onePixel.buffers[XResourceId.new 1 1]? = some source :=
    Option.isSome_iff_exists.mp (by decide +kernel)
  have hpixel : ∀ source ∈ onePixel.buffers[XResourceId.new 1 1]?,
      source.size = ⟨1, 1⟩ ∧ source.pixel (0, 0) = 1 := by decide +kernel
  obtain ⟨hsize, hone⟩ := hpixel source hsource
  refine ⟨source, hsource, by decide +kernel, fun hlaw => ?_⟩
  have hput := (hlaw (1, 0) (by decide)).1 (0, 0) (by rw [hsize]; decide) (by decide) (by decide)
    (by decide)
  rw [hone] at hput
  revert hput
  decide +kernel

end Law
end Sophia.Authority
