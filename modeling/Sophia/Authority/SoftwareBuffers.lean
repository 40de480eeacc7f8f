import Sophia.Lib.Run
import Sophia.Authority.SoftwareRaster

/-! The software buffer store: a window's pixels are painted first and handed on afterwards. -/
namespace Sophia.Authority

open Std Sophia.Protocol

inductive XAuthorityCpuBufferUpdate where
  | replace (snapshot : XAuthorityCpuBufferSnapshot)
  | patch (patch : XAuthorityCpuBufferPatch)
  deriving DecidableEq, Repr

def XAuthorityCpuBufferUpdate.handle : XAuthorityCpuBufferUpdate → UInt64
  | .replace snapshot => snapshot.handle
  | .patch rows => rows.handle

/-- The size has pixels, and few enough for a buffer. -/
def Sized (size : Size) : Prop :=
  0 < size.width.toInt ∧ 0 < size.height.toInt ∧
    size.width.toInt.toNat * 4 * size.height.toInt.toNat ≤ softwareBufferMaxBytes

instance (size : Size) : Decidable (Sized size) := inferInstanceAs (Decidable (_ ∧ _ ∧ _))

theorem Sized.toNat_stride {size : Size} (h : Sized size) :
    (UInt32.ofNat (size.width.toInt.toNat * 4)).toNat = size.width.toInt.toNat * 4 := by
  obtain ⟨hwidth, hheight, hbytes⟩ := h
  have hrow : size.width.toInt.toNat * 4 ≤
      size.width.toInt.toNat * 4 * size.height.toInt.toNat := Nat.le_mul_of_pos_right _ (by omega)
  rw [UInt32.toNat_ofNat']
  simp only [softwareBufferMaxBytes] at hbytes
  omega

namespace XAuthorityCpuBufferSnapshot

/-- A buffer of zeros. -/
def blank (handle : UInt64) (drawable : XResourceId) (size : Size) (generation : UInt64)
    (h : Sized size) : XAuthorityCpuBufferSnapshot where
  handle := handle
  drawable := drawable
  size := size
  stride := .ofNat (size.width.toInt.toNat * 4)
  format := cpuBufferFormatXrgb8888
  generation := generation
  bytes := List.replicate (size.width.toInt.toNat * 4 * size.height.toInt.toNat) 0
  packed := h.toNat_stride
  filled := by rw [List.length_replicate, h.toNat_stride]

/-- The buffer under its new handle, unless the damage misses it or the generation is used up. -/
def finishImmutableUpdate (buffer : XAuthorityCpuBufferSnapshot) (handle : UInt64)
    (replaced : Bool) (damage : Option Rect) : Option XAuthorityCpuBufferSnapshot :=
  if !replaced ∧ (damage.bind buffer.packedPatch).isNone then none
  else if buffer.generation.toNat + 1 < UInt64.size then
    some { buffer with generation := buffer.generation + 1, handle }
  else none

/-- The cells of a text line, each with its byte. -/
def textCells (x : Int16) (text : List UInt8) : List (Int32 × UInt8) :=
  text.zipIdx.map fun (byte, index) =>
    (saturateInt32 (x.toInt + min (index * 8 : ℕ) (2 ^ 31 - 1)), byte)

def drawCell (gc : XGraphicsContextValues) (isOpaque : Bool) (top : Int32)
    (buffer : XAuthorityCpuBufferSnapshot) (cell : Int32 × UInt8) : XAuthorityCpuBufferSnapshot :=
  let buffer := if isOpaque then
    buffer.fillRect { x := cell.1, y := top, width := 8, height := 12 } gc.background gc else buffer
  buffer.drawFixedGlyph cell.1 top cell.2 gc.foreground gc

/-- Copy the source's cells, and stop at one its bytes do not hold. -/
def copyCells (source : XAuthorityCpuBufferSnapshot) (bounds : PixelBounds) (dstX dstY : Int16)
    (gc : XGraphicsContextValues) (buffer : XAuthorityCpuBufferSnapshot) :
    Except Unit Unit × XAuthorityCpuBufferSnapshot :=
  Run.tryEach (fun buffer cell => match pixelAt? source.bytes (source.offset cell.1 cell.2) with
    | none => .error ()
    | some pixel => .ok (buffer.setPixel
        (saturated (dstX.toInt + min (cell.1 - bounds.left : ℕ) (2 ^ 31 - 1)))
        (saturated (dstY.toInt + min (cell.2 - bounds.top : ℕ) (2 ^ 31 - 1))) pixel gc))
    bounds.cells buffer

end XAuthorityCpuBufferSnapshot

def textTop (baseline : Int16) : Int32 := saturateInt32 (baseline.toInt - 10)

def textDamage (x baseline : Int16) (text : List UInt8) : Rect where
  x := x.toInt32
  y := textTop baseline
  width := saturateInt32 (text.length * 8)
  height := 12

structure XSoftwareBufferStore where
  nextHandle : UInt64
  buffers : ExtTreeMap XResourceId XAuthorityCpuBufferSnapshot

namespace XSoftwareBufferStore

def new : XSoftwareBufferStore := ⟨0, ∅⟩

def remove (store : XSoftwareBufferStore) (drawable : XResourceId) : XSoftwareBufferStore :=
  { store with buffers := store.buffers.erase drawable }

def allocateHandle (store : XSoftwareBufferStore) : UInt64 × XSoftwareBufferStore :=
  let handle := max store.nextHandle 1
  (handle, { store with nextHandle := max (saturatingAdd handle 1) 1 })

/-- The buffer that is painted on, and whether it is a new one. -/
def ensure (store : XSoftwareBufferStore) (drawable : XResourceId) (size : Size)
    (handle : UInt64) : Option (XAuthorityCpuBufferSnapshot × Bool) :=
  if h : Sized size then
    match store.buffers[drawable]? with
    | none => some (.blank handle drawable size 0 h, true)
    | some buffer =>
      if buffer.size = size then some (buffer, false)
      else some (.blank handle drawable size buffer.generation h, true)
  else none

/-- What painting leaves in the store, with the update that comes of it if any does. -/
def finish (store : XSoftwareBufferStore) (drawable : XResourceId) (handle : UInt64)
    (replaced : Bool) (damage : Option Rect) (painted : XAuthorityCpuBufferSnapshot) :
    Option XAuthorityCpuBufferUpdate × XSoftwareBufferStore :=
  match painted.finishImmutableUpdate handle replaced damage with
  -- The painted pixels stay.
  | none => (none, { store with buffers := store.buffers.insert drawable painted })
  | some snapshot =>
    (some (.replace snapshot), { store with buffers := store.buffers.insert drawable snapshot })

def paint (store : XSoftwareBufferStore) (drawable : XResourceId) (size : Size)
    (damage : Option Rect)
    (change : XAuthorityCpuBufferSnapshot → XAuthorityCpuBufferSnapshot) :
    Option XAuthorityCpuBufferUpdate × XSoftwareBufferStore :=
  let (handle, store) := store.allocateHandle
  match store.ensure drawable size handle with
  | none => (none, store)
  | some (buffer, replaced) => store.finish drawable handle replaced damage (change buffer)

def paintDamage (store : XSoftwareBufferStore) (drawable : XResourceId) (size : Size)
    (damage : List Rect) (gc : XGraphicsContextValues) :
    Option XAuthorityCpuBufferUpdate × XSoftwareBufferStore :=
  store.paint drawable size (unionRects damage) fun buffer =>
    damage.foldl (fun buffer rect => buffer.fillRect rect gc.foreground gc) buffer

def clear (store : XSoftwareBufferStore) (drawable : XResourceId) (size : Size) (rect : Rect)
    (pixel : UInt32) : Option XAuthorityCpuBufferUpdate × XSoftwareBufferStore :=
  store.paint drawable size (some rect) fun buffer => buffer.fillRect rect pixel {}

def drawText (store : XSoftwareBufferStore) (drawable : XResourceId) (size : Size)
    (x baseline : Int16) (text : List UInt8) (isOpaque : Bool) (gc : XGraphicsContextValues) :
    Option XAuthorityCpuBufferUpdate × XSoftwareBufferStore :=
  store.paint drawable size (some (textDamage x baseline text)) fun buffer =>
    (XAuthorityCpuBufferSnapshot.textCells x text).foldl
      (XAuthorityCpuBufferSnapshot.drawCell gc isOpaque (textTop baseline)) buffer

def putImage (store : XSoftwareBufferStore) (drawable : XResourceId) (size : Size)
    (destination : Rect) (data : List UInt8) :
    Option XAuthorityCpuBufferUpdate × XSoftwareBufferStore :=
  store.paint drawable size (some destination) fun buffer => buffer.copyXrgb8888 destination data

def drawLines (store : XSoftwareBufferStore) (drawable : XResourceId) (size : Size)
    (points : List XPoint) (gc : XGraphicsContextValues) :
    Option XAuthorityCpuBufferUpdate × XSoftwareBufferStore :=
  match pointBounds points gc.lineWidth with
  | none => (none, store)
  | some damage =>
    store.paint drawable size (some damage) fun buffer =>
      (points.zip points.tail).foldl (fun buffer ends =>
        buffer.drawLine ends.1 ends.2 (max gc.lineWidth.toNat 1) gc) buffer

def copyArea (store : XSoftwareBufferStore) (source destination : XResourceId)
    (destinationSize : Size) (sourceRect : Rect) (dstX dstY : Int16)
    (gc : XGraphicsContextValues) : Option XAuthorityCpuBufferUpdate × XSoftwareBufferStore :=
  match store.buffers[source]? with
  | none => (none, store)
  | some source =>
    let (handle, store) := store.allocateHandle
    match store.ensure destination destinationSize handle with
    | none => (none, store)
    | some (buffer, replaced) =>
      match clippedBounds source.size sourceRect with
      -- A new buffer is in the store by now.
      | none => (none, { store with buffers := store.buffers.insert destination buffer })
      | some bounds =>
        match source.copyCells bounds dstX dstY gc buffer with
        | (.error _, buffer) =>
          (none, { store with buffers := store.buffers.insert destination buffer })
        | (.ok _, buffer) =>
          store.finish destination handle replaced
            (some
              { x := dstX.toInt32
                y := dstY.toInt32
                width := .ofNat (bounds.right - bounds.left)
                height := .ofNat (bounds.bottom - bounds.top) }) buffer

end XSoftwareBufferStore

namespace XAuthorityCpuBufferSnapshot

variable {buffer painted : XAuthorityCpuBufferSnapshot} {size : Size} {handle : UInt64}
  {replaced : Bool} {damage : Option Rect}

theorem finishImmutableUpdate_isSome (handle : UInt64) :
    (buffer.finishImmutableUpdate handle replaced damage).isSome ↔
      (replaced ∨ ∃ rect ∈ damage, Meets buffer.size rect) ∧
        buffer.generation.toNat + 1 < UInt64.size := by
  have hdamage : (damage.bind buffer.packedPatch).isSome ↔
      ∃ rect ∈ damage, Meets buffer.size rect := by
    cases damage with
    | none => simp
    | some rect => simpa using packedPatch_isSome
  unfold finishImmutableUpdate
  rw [← hdamage]
  cases replaced <;> cases damage.bind buffer.packedPatch <;> simp

theorem repainted_drawCell (gc : XGraphicsContextValues) (isOpaque : Bool) (top : Int32)
    (cell : Int32 × UInt8) : buffer.Repainted (buffer.drawCell gc isOpaque top cell) := by
  unfold drawCell
  cases isOpaque with
  | false => exact repainted_drawFixedGlyph _ _ _ _ _
  | true => exact (repainted_fillRect _ _ _).trans (repainted_drawFixedGlyph _ _ _ _ _)

end XAuthorityCpuBufferSnapshot

namespace XSoftwareBufferStore

open XAuthorityCpuBufferSnapshot

variable {store store' : XSoftwareBufferStore} {drawable : XResourceId} {size : Size}
  {damage : Option Rect} {rects : List Rect} {handle : UInt64}
  {change : XAuthorityCpuBufferSnapshot → XAuthorityCpuBufferSnapshot}

/-- The drawable has a buffer of this size, so that painting goes on in it. -/
def Kept (store : XSoftwareBufferStore) (drawable : XResourceId) (size : Size) : Prop :=
  ∃ buffer ∈ store.buffers[drawable]?, buffer.size = size

/-- The buffer can be given one more generation. -/
def Renewable (store : XSoftwareBufferStore) (drawable : XResourceId) : Prop :=
  ∀ buffer ∈ store.buffers[drawable]?, buffer.generation.toNat + 1 < UInt64.size

/-- Painting with one of these rectangles as damage ends in an update. -/
def Completes (store : XSoftwareBufferStore) (drawable : XResourceId) (size : Size)
    (damage : List Rect) : Prop :=
  Sized size ∧ store.Renewable drawable ∧
    (store.Kept drawable size → ∃ rect ∈ damage, Meets size rect)

/-- Painting these rectangles reaches no pixel. -/
def Spares (store : XSoftwareBufferStore) (drawable : XResourceId) (size : Size)
    (rects : List Rect) : Prop :=
  ¬ Sized size ∨ store.Kept drawable size ∧ ∀ rect ∈ rects, ¬ Meets size rect

/-- The same buffers, whatever the next handle is. -/
def SameBuffers (store store' : XSoftwareBufferStore) : Prop :=
  ∀ drawable : XResourceId, store'.buffers[drawable]? = store.buffers[drawable]?

instance : Decidable (store.Kept drawable size) :=
  inferInstanceAs (Decidable (∃ buffer ∈ store.buffers[drawable]?, buffer.size = size))

instance : Decidable (store.Renewable drawable) :=
  inferInstanceAs (Decidable (∀ buffer ∈ store.buffers[drawable]?, _))

instance : Decidable (store.Completes drawable size rects) :=
  inferInstanceAs (Decidable (_ ∧ _ ∧ (_ → _)))

instance : Decidable (store.Spares drawable size rects) :=
  inferInstanceAs (Decidable (_ ∨ _))

theorem SameBuffers.refl (store : XSoftwareBufferStore) : store.SameBuffers store := fun _ => rfl

theorem SameBuffers.trans {last : XSoftwareBufferStore} (h : store.SameBuffers store')
    (h' : store'.SameBuffers last) : store.SameBuffers last :=
  fun drawable => (h' drawable).trans (h drawable)

theorem SameBuffers.completes (h : store.SameBuffers store') :
    store'.Completes drawable size rects ↔ store.Completes drawable size rects := by
  unfold Completes Renewable Kept
  rw [h drawable]

theorem SameBuffers.spares (h : store.SameBuffers store') :
    store'.Spares drawable size rects ↔ store.Spares drawable size rects := by
  unfold Spares Kept
  rw [h drawable]

theorem sameBuffers_allocateHandle : store.SameBuffers store.allocateHandle.2 := fun _ => rfl

theorem sameBuffers_insert {buffer : XAuthorityCpuBufferSnapshot}
    (h : store.buffers[drawable]? = some buffer) :
    store.SameBuffers { store with buffers := store.buffers.insert drawable buffer } := by
  intro other
  rw [ExtTreeMap.getElem?_insert]
  split
  · rename_i he
    rw [← LawfulEqOrd.eq_of_compare he, h]
  · rfl

theorem ensure_eq_none : store.ensure drawable size handle = none ↔ ¬ Sized size := by
  unfold ensure
  split
  · rename_i hsized
    cases store.buffers[drawable]? with
    | none => simp [hsized]
    | some buffer =>
      dsimp only
      split <;> simp [hsized]
  · simp [*]

/-- Painting goes on in a buffer of the right size, and starts a new one otherwise. -/
theorem ensure_eq_some {buffer : XAuthorityCpuBufferSnapshot} {replaced : Bool}
    (h : store.ensure drawable size handle = some (buffer, replaced)) :
    Sized size ∧ buffer.size = size ∧ (replaced = false ↔ store.Kept drawable size) ∧
      (replaced = false → store.buffers[drawable]? = some buffer) ∧
      (store.Renewable drawable ↔ buffer.generation.toNat + 1 < UInt64.size) := by
  unfold ensure at h
  split at h
  · rename_i hsized
    refine ⟨hsized, ?_⟩
    unfold Kept Renewable
    cases hget : store.buffers[drawable]? with
    | none =>
      simp only [hget, Option.some.injEq, Prod.mk.injEq] at h
      obtain ⟨rfl, rfl⟩ := h
      simp [blank]
    | some found =>
      simp only [hget] at h
      split at h
      · rename_i hsize
        cases h
        simp [hsize]
      · rename_i hsize
        cases h
        simp [blank, hsize]
  · cases h

theorem ensure_of_sized (h : Sized size) :
    ∃ buffer replaced, store.ensure drawable size handle = some (buffer, replaced) := by
  cases hensure : store.ensure drawable size handle with
  | none => exact absurd h (ensure_eq_none.mp hensure)
  | some result => exact ⟨result.1, result.2, rfl⟩

/-- The update comes exactly when the painted buffer can be finished. -/
theorem finish_isSome {replaced : Bool} {painted : XAuthorityCpuBufferSnapshot} :
    (store.finish drawable handle replaced damage painted).1.isSome ↔
      (replaced ∨ ∃ rect ∈ damage, Meets painted.size rect) ∧
        painted.generation.toNat + 1 < UInt64.size := by
  rw [← finishImmutableUpdate_isSome handle]
  unfold finish
  split <;> simp [*]

theorem finish_of_none {replaced : Bool} {painted : XAuthorityCpuBufferSnapshot}
    (h : ¬ (store.finish drawable handle replaced damage painted).1.isSome) :
    (store.finish drawable handle replaced damage painted).2 =
      { store with buffers := store.buffers.insert drawable painted } := by
  unfold finish at h ⊢
  split
  · rfl
  · simp_all

/-- After painting, the size, the generation and the damage decide whether an update comes of
it. -/
theorem finish_isSome_of_ensure {buffer painted : XAuthorityCpuBufferSnapshot} {replaced : Bool}
    (hensure : store.ensure drawable size handle = some (buffer, replaced))
    (hpainted : buffer.Repainted painted) :
    (store.finish drawable handle replaced damage painted).1.isSome ↔
      store.Completes drawable size damage.toList := by
  obtain ⟨hsized, hsize, hkept, -, hgeneration⟩ := ensure_eq_some hensure
  rw [finish_isSome, hpainted.size, hpainted.generation, hsize, ← hgeneration]
  constructor
  · rintro ⟨hreach, hrenew⟩
    refine ⟨hsized, hrenew, fun hk => ?_⟩
    rcases hreach with hnew | ⟨rect, hrect, hmeet⟩
    · rw [hkept.mpr hk] at hnew
      cases hnew
    · exact ⟨rect, by simpa using hrect, hmeet⟩
  · rintro ⟨-, hrenew, hmeets⟩
    refine ⟨?_, hrenew⟩
    cases replaced with
    | true => exact .inl rfl
    | false =>
      obtain ⟨rect, hrect, hmeet⟩ := hmeets (hkept.mp rfl)
      exact .inr ⟨rect, by simpa using hrect, hmeet⟩

theorem paint_isSome
    (hchange : ∀ buffer : XAuthorityCpuBufferSnapshot, buffer.Repainted (change buffer)) :
    (store.paint drawable size damage change).1.isSome ↔
      store.Completes drawable size damage.toList := by
  unfold paint
  dsimp only
  cases hensure : store.allocateHandle.2.ensure drawable size store.allocateHandle.1 with
  | none =>
    have hsmall := ensure_eq_none.mp hensure
    refine iff_of_false (by simp) ?_
    exact fun h => hsmall h.1
  | some result =>
    dsimp only
    rw [finish_isSome_of_ensure hensure (hchange result.1)]
    exact sameBuffers_allocateHandle.completes

/-- What misses a buffer finds it there, at its size. -/
theorem Spares.ensure_eq_some {handle : UInt64} {buffer : XAuthorityCpuBufferSnapshot}
    {replaced : Bool} (h : store.Spares drawable size rects)
    (hensure : store.allocateHandle.2.ensure drawable size handle = some (buffer, replaced)) :
    replaced = false ∧ buffer.size = size ∧ store.buffers[drawable]? = some buffer ∧
      ∀ rect ∈ rects, ¬ Meets size rect := by
  obtain ⟨hsized, hsize, hkept, hget, -⟩ := XSoftwareBufferStore.ensure_eq_some hensure
  rcases h with hsmall | ⟨hk, hmiss⟩
  · exact absurd hsized hsmall
  · have hreplaced : replaced = false := hkept.mpr hk
    exact ⟨hreplaced, hsize, hget hreplaced, hmiss⟩

/-- Painting that misses the buffer leaves all buffers alone and makes no update. -/
theorem paint_spares
    (hchange : ∀ buffer, buffer.size = size → (∀ rect ∈ rects, ¬ Meets size rect) →
      change buffer = buffer)
    (hdamage : ∀ rect ∈ damage, rect ∈ rects) (h : store.Spares drawable size rects) :
    (store.paint drawable size damage change).1 = none ∧
      store.SameBuffers (store.paint drawable size damage change).2 := by
  unfold paint
  dsimp only
  cases hensure : store.allocateHandle.2.ensure drawable size store.allocateHandle.1 with
  | none => exact ⟨rfl, sameBuffers_allocateHandle⟩
  | some result =>
    obtain ⟨buffer, replaced⟩ := result
    obtain ⟨rfl, hsize, hget, hmiss⟩ := h.ensure_eq_some hensure
    dsimp only
    rw [hchange buffer hsize hmiss]
    have hnone : ¬ (store.allocateHandle.2.finish drawable store.allocateHandle.1 false damage
        buffer).1.isSome := by
      rw [finish_isSome, hsize]
      rintro ⟨hf | ⟨rect, hrect, hmeet⟩, -⟩
      · cases hf
      · exact hmiss rect (hdamage rect hrect) hmeet
    refine ⟨Option.not_isSome_iff_eq_none.mp hnone, ?_⟩
    rw [finish_of_none hnone]
    exact sameBuffers_insert hget

theorem paintDamage_isSome {gc : XGraphicsContextValues} :
    (store.paintDamage drawable size rects gc).1.isSome ↔
      store.Completes drawable size (unionRects rects).toList :=
  paint_isSome fun buffer => .foldl (fun _ _ => repainted_fillRect _ _ _) _ buffer

theorem paintDamage_spares {gc : XGraphicsContextValues}
    (h : store.Spares drawable size ((unionRects rects).toList ++ rects)) :
    (store.paintDamage drawable size rects gc).1 = none ∧
      store.SameBuffers (store.paintDamage drawable size rects gc).2 := by
  refine paint_spares ?_ (fun rect hrect => ?_) h
  · intro buffer hsize hmiss
    have hall : ∀ rect ∈ rects, ¬ Meets buffer.size rect := by
      intro rect hrect
      rw [hsize]
      exact hmiss rect (List.mem_append_right _ hrect)
    clear h hmiss
    induction rects with
    | nil => rfl
    | cons rect rects ih =>
      rw [List.foldl_cons, fillRect_of_not_meets (hall rect List.mem_cons_self)]
      exact ih fun other hother => hall other (List.mem_cons_of_mem _ hother)
  · exact List.mem_append_left _ (by simpa using hrect)

end XSoftwareBufferStore
end Sophia.Authority
