import Sophia.Authority.DrawPixels

/-! Where the pixels of an image go. -/
namespace Sophia.Authority

open Std Sophia.Protocol XAuthorityCpuBufferSnapshot XSoftwareBufferStore

/-- The bytes of an image that fills the rectangle. -/
def imageBytes (rect : Rect) : ℕ := rect.width.toInt.toNat * 4 * rect.height.toInt.toNat

/-- The image's pixel in a column and a row. -/
def imagePixel? (rect : Rect) (data : List UInt8) (column row : ℕ) : Option UInt32 :=
  pixelAt? data (row * (rect.width.toInt.toNat * 4) + column * 4)

/-- Each pixel in the rectangle is the image's one at the same distance from the corner, and all
others are what they were. -/
def ImageLaw (size : Size) (rect : Rect) (data : List UInt8) (old new : ℕ × ℕ → UInt32) : Prop :=
  ∀ p, Holds size p →
    (Rect.Contains rect p → imagePixel? rect data (p.1 - rect.x.toInt).toNat
      (p.2 - rect.y.toInt).toNat = some (new p)) ∧
    (¬ Rect.Contains rect p → new p = old p)

section Image

variable {size : Size} {rect : Rect} {data : List UInt8} {bounds : PixelBounds} {p : ℕ × ℕ}
  {column row : ℕ} {buffer : XAuthorityCpuBufferSnapshot}

theorem imagePixel_fits (hcolumn : column < rect.width.toInt.toNat)
    (hrow : row < rect.height.toInt.toNat) :
    row * (rect.width.toInt.toNat * 4) + column * 4 + 4 ≤ imageBytes rect := by
  have hrows := Nat.mul_le_mul_right (rect.width.toInt.toNat * 4) (show row + 1 ≤ _ from hrow)
  rw [Nat.add_mul, Nat.one_mul, Nat.mul_comm rect.height.toInt.toNat] at hrows
  unfold imageBytes
  omega

section Rows

variable (hdata : imageBytes rect ≤ data.length)
  (hclip : clippedBounds buffer.size rect = some bounds)

include hdata hclip

theorem copyXrgb8888_bytes :
    (buffer.copyXrgb8888 rect data).bytes =
      (Blit.copyRows data buffer.bytes ((bounds.right - bounds.left) * 4)
        (fun row => row * (rect.width.toInt.toNat * 4))
        (fun row => buffer.offset bounds.left (bounds.top + row))
        (bounds.bottom - bounds.top)).1 := by
  obtain ⟨hleft, htop, -⟩ := clipped_corner hclip
  have hcorner : bounds.left - rect.x.toInt.toNat = 0 := by omega
  have hrow : ∀ row, bounds.top + row - rect.y.toInt.toNat = row := fun row => by omega
  have hlong : ¬ data.length < rect.width.toInt.toNat * 4 * rect.height.toInt.toNat :=
    Nat.not_lt.mpr hdata
  unfold copyXrgb8888
  rw [hclip]
  dsimp only
  rw [if_neg hlong]
  simp only [withBytes, hcorner, hrow, Nat.zero_mul, Nat.add_zero]

/-- A byte of a pixel that is left of the rectangle comes from the image. -/
theorem copyXrgb8888_hit (hp : p ∈ bounds.cells) {j : ℕ} (hj : j < 4) :
    (buffer.copyXrgb8888 rect data).bytes[buffer.offset p.1 p.2 + j]? =
      data[(p.2 - bounds.top) * (rect.width.toInt.toNat * 4) + (p.1 - bounds.left) * 4 + j]? := by
  obtain ⟨⟨hleft, hright⟩, htop, hbottom⟩ := mem_cells.mp hp
  obtain ⟨⟨-, hwidth, -⟩, -, hheight, -⟩ := clippedBounds_eq_some hclip
  obtain ⟨-, -, hcolumns, hrows⟩ := clipped_corner hclip
  have hstride := buffer.packed
  have hsource : ∀ row < bounds.bottom - bounds.top,
      row * (rect.width.toInt.toNat * 4) + (bounds.right - bounds.left) * 4 ≤ data.length := by
    intro row hrow
    have hfit : row * (rect.width.toInt.toNat * 4) + (bounds.right - bounds.left - 1) * 4 + 4 ≤
        imageBytes rect := imagePixel_fits (by omega) (by omega)
    omega
  have htarget : ∀ row < bounds.bottom - bounds.top,
      buffer.offset bounds.left (bounds.top + row) + (bounds.right - bounds.left) * 4 ≤
        buffer.bytes.length := fun row hrow => buffer.offset_le (by omega) (by omega)
  have hhit : (Blit.copyRows data buffer.bytes ((bounds.right - bounds.left) * 4)
      (fun row => row * (rect.width.toInt.toNat * 4))
      (fun row => buffer.offset bounds.left (bounds.top + row)) (bounds.bottom - bounds.top)).1[
        buffer.offset bounds.left (bounds.top + (p.2 - bounds.top)) +
          ((p.1 - bounds.left) * 4 + j)]? =
      data[(p.2 - bounds.top) * (rect.width.toInt.toNat * 4) + ((p.1 - bounds.left) * 4 + j)]? := by
    refine Blit.copyRows_hit data buffer.bytes _ _ _ _ hsource htarget ?_ (by omega) (by omega)
    intro row row' hlt hrow'
    have hrow := Nat.mul_le_mul_right buffer.stride.toNat
      (show bounds.top + row + 1 ≤ bounds.top + row' by omega)
    rw [Nat.add_mul, Nat.one_mul] at hrow
    simp only [offset]
    omega
  have hat : buffer.offset bounds.left (bounds.top + (p.2 - bounds.top)) +
      ((p.1 - bounds.left) * 4 + j) = buffer.offset p.1 p.2 + j := by
    rw [show bounds.top + (p.2 - bounds.top) = p.2 by omega]
    unfold offset
    omega
  rw [hat, ← Nat.add_assoc] at hhit
  rw [copyXrgb8888_bytes hdata hclip]
  exact hhit

/-- A byte of any other pixel stays. -/
theorem copyXrgb8888_miss (hin : Holds buffer.size p) (hp : p ∉ bounds.cells) {j : ℕ}
    (hj : j < 4) :
    (buffer.copyXrgb8888 rect data).bytes[buffer.offset p.1 p.2 + j]? =
      buffer.bytes[buffer.offset p.1 p.2 + j]? := by
  obtain ⟨⟨hlr, hwidth, -⟩, -, hheight, -⟩ := clippedBounds_eq_some hclip
  rw [copyXrgb8888_bytes hdata hclip]
  refine Blit.copyRows_miss fun row hrow => ?_
  have hapart := offset_apart (x := bounds.left) (y := bounds.top + row)
    (n := bounds.right - bounds.left) hin (by omega) (fun hat => ?_)
  · omega
  · by_contra hcolumn
    exact hp (mem_cells.mpr ⟨by omega, by omega⟩)

end Rows

/-- An image copies its pixels from the first one on to what is left of the rectangle. -/
theorem paints_copyXrgb8888 (hdata : imageBytes rect ≤ data.length) (size : Size) :
    Paints size (fun buffer => buffer.copyXrgb8888 rect data) fun p old =>
      if Holds size p ∧ Rect.Contains rect p then
        (imagePixel? rect data (p.1 - rect.x.toInt.toNat) (p.2 - rect.y.toInt.toNat)).getD 0
      else old where
  keeps buffer hsize := (repainted_copyXrgb8888 rect data).size.trans hsize
  view_eq buffer hsize p := by
    subst hsize
    cases hclip : clippedBounds buffer.size rect with
    | none =>
      rw [if_neg (not_contained_of_not_clipped hclip), copyXrgb8888_of_not_meets]
      simp [Meets, hclip]
    | some bounds =>
      have hsame : (buffer.copyXrgb8888 rect data).size = buffer.size :=
        (repainted_copyXrgb8888 rect data).size
      have hoffset : (buffer.copyXrgb8888 rect data).offset p.1 p.2 = buffer.offset p.1 p.2 := by
        simp only [offset, packed, hsame]
      have hmem : p ∈ bounds.cells ↔ Holds buffer.size p ∧ Rect.Contains rect p :=
        mem_cells_of_clipped hclip
      obtain ⟨hleft, htop, -⟩ := clipped_corner hclip
      by_cases hin : Holds buffer.size p
      · have hvalue := pixelAt?_of_holds
          (hsame ▸ hin : Holds (buffer.copyXrgb8888 rect data).size p)
        rw [hoffset] at hvalue
        by_cases hp : p ∈ bounds.cells
        · rw [pixelAt?_congr fun j hj => copyXrgb8888_hit hdata hclip hp hj] at hvalue
          rw [if_pos (hmem.mp hp), ← hleft, ← htop, imagePixel?, hvalue]
          rfl
        · rw [pixelAt?_congr fun j hj => copyXrgb8888_miss hdata hclip hin hp hj,
            pixelAt?_of_holds hin] at hvalue
          rw [if_neg (hmem.not.mp hp)]
          exact (Option.some.inj hvalue).symm
      · rw [if_neg fun h => hin h.1, XAuthorityCpuBufferSnapshot.pixel_of_not_holds hin]
        exact XAuthorityCpuBufferSnapshot.pixel_of_not_holds (hsame ▸ hin)

/-- The image is all zeros but for one pixel. -/
theorem exists_image {column row : ℕ} (hcolumn : column < rect.width.toInt.toNat)
    (hrow : row < rect.height.toInt.toNat) (hcorner : 0 < column ∨ 0 < row) :
    ∃ data : List UInt8, data.length = imageBytes rect ∧
      imagePixel? rect data column row = some 1 ∧ imagePixel? rect data 0 0 = some 0 := by
  have hfit := imagePixel_fits hcolumn hrow
  have hpast : 4 ≤ row * (rect.width.toInt.toNat * 4) + column * 4 := by
    rcases hcorner with h | h
    · omega
    · have hrows := Nat.mul_le_mul_right (rect.width.toInt.toNat * 4) (show 1 ≤ row from h)
      omega
  have hone : (Codec.toLe 4 (1 : UInt32).toNat).length = 4 := Codec.length_toLe _ _
  refine ⟨Blit.splice (List.replicate (imageBytes rect) 0)
    (row * (rect.width.toInt.toNat * 4) + column * 4) (Codec.toLe 4 (1 : UInt32).toNat), ?_, ?_, ?_⟩
  · rw [Blit.length_splice (by rw [hone, List.length_replicate]; exact hfit),
      List.length_replicate]
  · exact pixelAt?_splice_self (by rw [List.length_replicate]; exact hfit) 1
  · unfold imagePixel?
    rw [pixelAt?_splice_of_disjoint (by rw [hone, List.length_replicate]; exact hfit) (by omega)]
    exact pixelAt?_zeros (by omega)

end Image

/-- An accepted image has its pixels at their places, whatever they are, exactly when the rectangle
does not stick out of the buffer to the left or above. -/
theorem put_image_pixels_iff (store : XSoftwareBufferStore) (drawable : XResourceId) (size : Size)
    (rect : Rect) :
    (∀ data, data.length = imageBytes rect → (store.putImage drawable size rect data).1.isSome →
      ImageLaw size rect data (store.pixel drawable size)
        ((store.putImage drawable size rect data).2.pixel drawable size)) ↔
      ¬ store.Completes drawable size [rect] ∨ ¬ Meets size rect ∨
        0 ≤ rect.x.toInt ∧ 0 ≤ rect.y.toInt := by
  have hview : ∀ data, data.length = imageBytes rect → Sized size → ∀ p,
      (store.putImage drawable size rect data).2.pixel drawable size p =
        if Holds size p ∧ Rect.Contains rect p then
          (imagePixel? rect data (p.1 - rect.x.toInt.toNat) (p.2 - rect.y.toInt.toNat)).getD 0
        else store.pixel drawable size p :=
    fun data hdata hsized p => paint_pixel (paints_copyXrgb8888 hdata.ge size) hsized
  constructor
  · intro hlaw
    by_contra hno
    push Not at hno
    obtain ⟨hcompletes, hmeets, hcorner⟩ := hno
    obtain ⟨bounds, hclip⟩ := Option.isSome_iff_exists.mp hmeets
    obtain ⟨⟨hlr, -⟩, htb, -⟩ := clippedBounds_eq_some hclip
    obtain ⟨hleft, htop, -⟩ := clipped_corner hclip
    have hcell : (bounds.left, bounds.top) ∈ bounds.cells :=
      mem_cells.mpr ⟨⟨le_rfl, hlr⟩, le_rfl, htb⟩
    obtain ⟨hin, hcontains⟩ := (mem_cells_of_clipped hclip).mp hcell
    -- The pixel that belongs in the first visible place is one, the image's first pixel zero.
    obtain ⟨hx, hy⟩ := hcontains
    obtain ⟨data, hdata, hone, hzero⟩ : ∃ data : List UInt8, data.length = imageBytes rect ∧
        imagePixel? rect data (bounds.left - rect.x.toInt).toNat
          (bounds.top - rect.y.toInt).toNat = some 1 ∧ imagePixel? rect data 0 0 = some 0 := by
      dsimp only at hx hy
      exact exists_image (by omega) (by omega) (by omega)
    have hat := (hlaw data hdata (putImage_isSome.mpr hcompletes) _ hin).1 ⟨hx, hy⟩
    rw [hview data hdata hcompletes.1, if_pos ⟨hin, hx, hy⟩] at hat
    dsimp only at hat
    rw [hone, hleft, htop, Nat.sub_self, Nat.sub_self, hzero] at hat
    cases hat
  · intro hcondition data hdata haccepted p hin
    have hcompletes := putImage_isSome.mp haccepted
    rw [hview data hdata hcompletes.1]
    refine ⟨fun hcontains => ?_, fun hout => if_neg fun h => hout h.2⟩
    have hcorner : 0 ≤ rect.x.toInt ∧ 0 ≤ rect.y.toInt := by
      rcases hcondition with hrejected | hmiss | hcorner
      · exact absurd hcompletes hrejected
      · exact absurd (meets_of_contained hin hcontains) hmiss
      · exact hcorner
    rw [if_pos ⟨hin, hcontains⟩]
    obtain ⟨hx, hy⟩ := hcontains
    have hcolumn : (p.1 - rect.x.toInt).toNat = p.1 - rect.x.toInt.toNat := by omega
    have hrow : (p.2 - rect.y.toInt).toNat = p.2 - rect.y.toInt.toNat := by omega
    have hfit : (p.2 - rect.y.toInt.toNat) * (rect.width.toInt.toNat * 4) +
        (p.1 - rect.x.toInt.toNat) * 4 + 4 ≤ imageBytes rect :=
      imagePixel_fits (by omega) (by omega)
    have hsome := pixelAt?_isSome.mpr (hdata ▸ hfit)
    obtain ⟨value, hvalue⟩ := Option.isSome_iff_exists.mp hsome
    rw [hcolumn, hrow, imagePixel?, hvalue]
    rfl
/-- An image of two pixels, one and two, put with its first pixel left of a window: the window's
first pixel is the image's first one and not its second. -/
theorem put_image_left_of_window :
    ((XSoftwareBufferStore.new.putImage ⟨⟨1⟩, 1⟩ ⟨2, 1⟩ ⟨-1, 0, 2, 1⟩
        [1, 0, 0, 0, 2, 0, 0, 0]).1.isSome ∧
      imageBytes ⟨-1, 0, 2, 1⟩ = 8) ∧
      ¬ ImageLaw ⟨2, 1⟩ ⟨-1, 0, 2, 1⟩ [1, 0, 0, 0, 2, 0, 0, 0]
        (XSoftwareBufferStore.new.pixel ⟨⟨1⟩, 1⟩ ⟨2, 1⟩)
        ((XSoftwareBufferStore.new.putImage ⟨⟨1⟩, 1⟩ ⟨2, 1⟩ ⟨-1, 0, 2, 1⟩
          [1, 0, 0, 0, 2, 0, 0, 0]).2.pixel ⟨⟨1⟩, 1⟩ ⟨2, 1⟩) := by
  refine ⟨by decide +kernel, fun hlaw => ?_⟩
  have hpixel := (hlaw (0, 0) (by decide)).1 (by decide)
  revert hpixel
  decide +kernel

end Sophia.Authority
