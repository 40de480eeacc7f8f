import Sophia.Authority.ClipLaws

/-! What the draws leave in the store, pixel by pixel. -/
namespace Sophia.Authority

open Std Sophia.Protocol XAuthorityCpuBufferSnapshot

theorem pixelAt?_zeros {offset n : ℕ} (h : offset + 4 ≤ n) :
    pixelAt? (List.replicate n 0) offset = some 0 := by
  have hzero : pixelAt? (List.replicate 4 (0 : UInt8)) 0 = some 0 := by decide
  rw [← hzero]
  refine pixelAt?_congr fun j hj => ?_
  rw [List.getElem?_replicate, List.getElem?_replicate, if_pos (by omega), if_pos (by omega)]

namespace XAuthorityCpuBufferSnapshot

theorem pixel_blank {handle generation : UInt64} {drawable : XResourceId} {size : Size}
    (h : Sized size) (p : ℕ × ℕ) : (blank handle drawable size generation h).pixel p = 0 := by
  by_cases hp : Holds size p
  · have hholds : Holds (blank handle drawable size generation h).size p := hp
    have hfit := offset_fits hholds
    have hvalue := pixelAt?_of_holds hholds
    simp only [blank, List.length_replicate] at hfit hvalue ⊢
    rw [pixelAt?_zeros hfit] at hvalue
    exact (Option.some.inj hvalue).symm
  · exact pixel_of_not_holds hp

/-- A new handle and generation are all that finishing changes. -/
theorem finishImmutableUpdate_bytes {buffer snapshot : XAuthorityCpuBufferSnapshot}
    {handle : UInt64} {replaced : Bool} {damage : Option Rect}
    (h : buffer.finishImmutableUpdate handle replaced damage = some snapshot) :
    snapshot.size = buffer.size ∧ snapshot.bytes = buffer.bytes := by
  unfold finishImmutableUpdate at h
  split at h
  · cases h
  · split at h
    · cases h
      exact ⟨rfl, rfl⟩
    · cases h

/-- One pixel of a buffer of the size can be any value while the others are zero. -/
theorem exists_single {size : Size} {p : ℕ × ℕ} (hsize : Sized size) (hp : Holds size p)
    (value : UInt32) :
    ∃ buffer : XAuthorityCpuBufferSnapshot, buffer.size = size ∧ buffer.generation = 0 ∧
      ∀ q, buffer.pixel q = if q = p then value else 0 := by
  have hblank : (blank 0 ⟨⟨0⟩, 0⟩ size 0 hsize).size = size := rfl
  have hpaints := paints_mapPixel hp (fun _ => value)
  refine ⟨_, hpaints.keeps _ hblank, rfl, fun q => ?_⟩
  rw [hpaints.view_eq _ hblank, pixel_blank]

end XAuthorityCpuBufferSnapshot

namespace XSoftwareBufferStore

/-- A pixel of the drawable's buffer, and zero while it has none of the size. -/
def pixel (store : XSoftwareBufferStore) (drawable : XResourceId) (size : Size) (p : ℕ × ℕ) :
    UInt32 :=
  match store.buffers[drawable]? with
  | none => 0
  | some buffer => if buffer.size = size then buffer.pixel p else 0

variable {store store' : XSoftwareBufferStore} {drawable other source destination : XResourceId}
  {size : Size} {damage : Option Rect} {handle : UInt64} {replaced : Bool}
  {buffer painted : XAuthorityCpuBufferSnapshot} {p : ℕ × ℕ}
  {change : XAuthorityCpuBufferSnapshot → XAuthorityCpuBufferSnapshot}
  {act : ℕ × ℕ → UInt32 → UInt32} {gc : XGraphicsContextValues}

theorem pixel_of_get (h : store.buffers[drawable]? = some buffer) (hsize : buffer.size = size) :
    store.pixel drawable size p = buffer.pixel p := by
  simp only [pixel, h, if_pos hsize]

theorem pixel_of_not_kept (h : ¬ store.Kept drawable size) :
    store.pixel drawable size p = 0 := by
  unfold pixel
  cases hget : store.buffers[drawable]? with
  | none => rfl
  | some buffer =>
    dsimp only
    rw [if_neg fun hsize => h ⟨buffer, hget, hsize⟩]

theorem pixel_congr (h : store'.buffers[drawable]? = store.buffers[drawable]?) :
    store'.pixel drawable size p = store.pixel drawable size p := by
  simp only [pixel, h]

theorem pixel_of_not_holds (h : ¬ Holds size p) : store.pixel drawable size p = 0 := by
  unfold pixel
  cases store.buffers[drawable]? with
  | none => rfl
  | some buffer =>
    dsimp only
    split
    · rename_i hsize
      exact XAuthorityCpuBufferSnapshot.pixel_of_not_holds (hsize ▸ h)
    · rfl

/-- What is painted on has the pixels the drawable shows. -/
theorem ensure_pixel (h : store.ensure drawable size handle = some (buffer, replaced)) :
    buffer.pixel p = store.pixel drawable size p := by
  unfold ensure at h
  split at h
  · unfold pixel
    cases hget : store.buffers[drawable]? with
    | none =>
      simp only [hget, Option.some.injEq, Prod.mk.injEq] at h
      obtain ⟨rfl, -⟩ := h
      exact pixel_blank _ p
    | some found =>
      simp only [hget] at h
      dsimp only
      split at h
      · rename_i hsize
        cases h
        rw [if_pos hsize]
      · rename_i hsize
        cases h
        rw [if_neg hsize, pixel_blank]
  · cases h

theorem pixel_insert {buffers : ExtTreeMap XResourceId XAuthorityCpuBufferSnapshot}
    {nextHandle : UInt64} (hsize : buffer.size = size) :
    pixel ⟨nextHandle, buffers.insert drawable buffer⟩ drawable size p = buffer.pixel p :=
  pixel_of_get (by simp) hsize

/-- Finishing changes no pixel, whether an update comes of it or not. -/
theorem finish_pixel (hsize : painted.size = size) :
    (store.finish drawable handle replaced damage painted).2.pixel drawable size p =
      painted.pixel p := by
  unfold finish
  split
  · exact pixel_insert hsize
  · rename_i snapshot hsnapshot
    obtain ⟨hsame, hbytes⟩ := finishImmutableUpdate_bytes hsnapshot
    exact (pixel_insert (hsame.trans hsize)).trans
      (XAuthorityCpuBufferSnapshot.pixel_congr hsame hbytes)

theorem insert_other {buffers : ExtTreeMap XResourceId XAuthorityCpuBufferSnapshot}
    (h : other ≠ drawable) : (buffers.insert drawable buffer)[other]? = buffers[other]? := by
  have hne : ¬ compare drawable other = .eq := fun he => h (LawfulEqOrd.eq_of_compare he).symm
  rw [ExtTreeMap.getElem?_insert, if_neg hne]

theorem finish_other (h : other ≠ drawable) :
    (store.finish drawable handle replaced damage painted).2.buffers[other]? =
      store.buffers[other]? := by
  unfold finish
  split <;> exact insert_other h

/-- Painting acts on the drawable's pixels, if it can have a buffer at all. -/
theorem paint_pixel (hpaints : Paints size change act) (hsized : Sized size) :
    (store.paint drawable size damage change).2.pixel drawable size p =
      act p (store.pixel drawable size p) := by
  obtain ⟨buffer, replaced, hensure⟩ : ∃ buffer replaced, store.allocateHandle.2.ensure
      drawable size store.allocateHandle.1 = some (buffer, replaced) := ensure_of_sized hsized
  have hold : buffer.pixel p = store.pixel drawable size p := ensure_pixel hensure
  obtain ⟨-, hsize, -⟩ := ensure_eq_some hensure
  unfold paint
  dsimp only
  rw [hensure]
  dsimp only
  rw [finish_pixel (hpaints.keeps _ hsize), hpaints.view_eq _ hsize, hold]

theorem paint_of_not_sized (h : ¬ Sized size) :
    store.SameBuffers (store.paint drawable size damage change).2 := by
  have hensure : store.allocateHandle.2.ensure drawable size store.allocateHandle.1 = none :=
    ensure_eq_none.mpr h
  intro other
  unfold paint
  dsimp only
  rw [hensure]
  rfl

theorem paint_other (h : other ≠ drawable) :
    (store.paint drawable size damage change).2.buffers[other]? = store.buffers[other]? := by
  unfold paint
  dsimp only
  split
  · rfl
  · exact (finish_other h).trans rfl

theorem copyArea_other {sourceRect : Rect} {dstX dstY : Int16} (h : other ≠ destination) :
    (store.copyArea source destination size sourceRect dstX dstY gc).2.buffers[other]? =
      store.buffers[other]? := by
  unfold copyArea
  cases store.buffers[source]? with
  | none => rfl
  | some buffer =>
    dsimp only
    cases store.allocateHandle.2.ensure destination size store.allocateHandle.1 with
    | none => rfl
    | some result =>
      dsimp only
      cases clippedBounds buffer.size sourceRect with
      | none => exact insert_other h
      | some bounds =>
        dsimp only
        generalize buffer.copyCells bounds dstX dstY gc result.1 = copied
        obtain ⟨outcome, painted⟩ := copied
        cases outcome with
        | error _ => exact insert_other h
        | ok _ => exact finish_other h

theorem copyArea_of_not_sized {sourceRect : Rect} {dstX dstY : Int16} (h : ¬ Sized size) :
    store.SameBuffers
      (store.copyArea source destination size sourceRect dstX dstY gc).2 := by
  have hensure : store.allocateHandle.2.ensure destination size store.allocateHandle.1 = none :=
    ensure_eq_none.mpr h
  intro other
  unfold copyArea
  cases store.buffers[source]? with
  | none => rfl
  | some buffer =>
    dsimp only
    rw [hensure]
    rfl

/-- A copy acts as its stamps do, and reads the source as it was before. -/
theorem copyArea_pixel {sourceRect : Rect} {dstX dstY : Int16}
    (hsource : store.buffers[source]? = some buffer) (hsized : Sized size) :
    (store.copyArea source destination size sourceRect dstX dstY gc).2.pixel destination size p =
      stamped size gc ((GcDraw.copy buffer sourceRect dstX dstY).stamps gc) p
        (store.pixel destination size p) := by
  obtain ⟨target, replaced, hensure⟩ : ∃ target replaced, store.allocateHandle.2.ensure
      destination size store.allocateHandle.1 = some (target, replaced) := ensure_of_sized hsized
  have hold : target.pixel p = store.pixel destination size p := ensure_pixel hensure
  obtain ⟨-, hsize, -⟩ := ensure_eq_some hensure
  have hpaints := paints_draw gc (GcDraw.copy buffer sourceRect dstX dstY) size
  have hview := hpaints.view_eq target hsize p
  have hkeeps := hpaints.keeps target hsize
  rw [hold] at hview
  rw [← hview]
  unfold copyArea
  rw [hsource]
  dsimp only
  rw [hensure]
  dsimp only
  simp only [GcDraw.paint] at hkeeps ⊢
  cases hbounds : clippedBounds buffer.size sourceRect with
  | none => exact pixel_insert hsize
  | some bounds =>
    rw [hbounds] at hkeeps
    dsimp only at hkeeps ⊢
    generalize buffer.copyCells bounds dstX dstY gc target = copied at hkeeps ⊢
    obtain ⟨outcome, painted⟩ := copied
    cases outcome with
    | error _ => exact pixel_insert hkeeps
    | ok _ => exact finish_pixel hkeeps

end XSoftwareBufferStore
end Sophia.Authority
