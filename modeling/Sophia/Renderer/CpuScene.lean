import Mathlib.Data.List.Find
import Mathlib.Data.Rat.Floor
import Sophia.Engine.VisualState
import Sophia.Lib.Ordered
import Sophia.Renderer.CpuComposition

/-! The persistent CPU scene: registered buffers, the raised surface and the software cursor. -/
namespace Sophia.Renderer

open Protocol Engine Std

variable {β : Type}

/-- `valid_buffer`: a positive size, rows that fit the stride, and exactly the bytes of the rows. -/
def validBuffer (buffer : LiveCpuBufferSource β) : Prop :=
  0 < buffer.size.width.toInt ∧ 0 < buffer.size.height.toInt ∧
    toUsize buffer.size.width * 4 ≤ buffer.stride.toNat ∧
    buffer.stride.toNat * toUsize buffer.size.height ≤ 64 * 1024 * 1024 ∧
    buffer.bytes.length = buffer.stride.toNat * toUsize buffer.size.height

instance (buffer : LiveCpuBufferSource β) : Decidable (validBuffer buffer) :=
  inferInstanceAs (Decidable (_ ∧ _ ∧ _ ∧ _ ∧ _))

structure LiveCpuBufferPatch (β : Type) where
  handle : UInt64
  size : Size
  stride : UInt32
  format : UInt32
  generation : UInt64
  rect : Rect
  bytes : List β

inductive LiveCpuBufferUpdate (β : Type) where
  | replace (buffer : LiveCpuBufferSource β)
  | patch (patch : LiveCpuBufferPatch β)

namespace LiveCpuBufferUpdate

def handle : LiveCpuBufferUpdate β → UInt64
  | .replace buffer => buffer.handle
  | .patch p => p.handle

def generation : LiveCpuBufferUpdate β → UInt64
  | .replace buffer => buffer.generation
  | .patch p => p.generation

end LiveCpuBufferUpdate

inductive LiveCpuBufferRegistryError where
  | invalidBufferMetadata
  | missingPatchBase
  | patchMetadataMismatch
  | invalidPatchBounds
  | invalidPatchBytes
  deriving DecidableEq

/-- The registered buffers; only valid ones get in. -/
structure LiveCpuBufferRegistry (β : Type) where
  buffers : ExtTreeMap UInt64 (LiveCpuBufferSource β)
  valid : ∀ (handle : UInt64) buffer, buffers[handle]? = some buffer → validBuffer buffer

/-- The buffer after the patch is copied in. -/
def patchedBuffer (buffer : LiveCpuBufferSource β) (patch : LiveCpuBufferPatch β) :
    LiveCpuBufferSource β :=
  let rowBytes := toUsize patch.rect.width * 4
  let copied := Blit.copyRows patch.bytes buffer.bytes rowBytes (fun row => row * rowBytes)
    (fun row => (toUsize patch.rect.y + row) * buffer.stride.toNat + toUsize patch.rect.x * 4)
    (toUsize patch.rect.height)
  { buffer with bytes := copied.1, generation := patch.generation }

-- Behind these checks every row lies in a valid buffer, so the loop's own bounds errors cannot
-- arise.
def applyPatch (buffer : LiveCpuBufferSource β) (patch : LiveCpuBufferPatch β) :
    Except LiveCpuBufferRegistryError (LiveCpuBufferSource β) :=
  if buffer.size ≠ patch.size ∨ buffer.stride ≠ patch.stride ∨ buffer.format ≠ patch.format ∨
      patch.generation < buffer.generation then .error .patchMetadataMismatch
  else if patch.rect.x < 0 ∨ patch.rect.y < 0 ∨ patch.rect.width < 0 ∨ patch.rect.height < 0 then
    .error .invalidPatchBounds
  else
    let expected := toUsize patch.rect.width * 4 * toUsize patch.rect.height
    if toUsize patch.rect.width = 0 ∨ toUsize patch.rect.height = 0 ∨
        toUsize buffer.size.width < toUsize patch.rect.x + toUsize patch.rect.width ∨
        toUsize buffer.size.height < toUsize patch.rect.y + toUsize patch.rect.height ∨
        patch.bytes.length ≠ expected then
      .error (if patch.bytes.length ≠ expected then .invalidPatchBytes else .invalidPatchBounds)
    else .ok (patchedBuffer buffer patch)

theorem validBuffer_applyPatch {buffer patched : LiveCpuBufferSource β}
    {patch : LiveCpuBufferPatch β} (hv : validBuffer buffer)
    (he : applyPatch buffer patch = .ok patched) : validBuffer patched := by
  unfold applyPatch at he
  split at he
  · cases he
  split at he
  · cases he
  dsimp only at he
  split at he
  · cases he
  cases he
  obtain ⟨hw, hh, hs, hb, hl⟩ := hv
  exact ⟨hw, hh, hs, hb, Blit.length_copyRows.trans hl⟩

namespace LiveCpuBufferRegistry

variable (registry : LiveCpuBufferRegistry β)

def new : LiveCpuBufferRegistry β := ⟨∅, by simp⟩

def get (handle : UInt64) : Option (LiveCpuBufferSource β) := registry.buffers[handle]?

def insert (handle : UInt64) (buffer : LiveCpuBufferSource β) (hv : validBuffer buffer) :
    LiveCpuBufferRegistry β where
  buffers := registry.buffers.insert handle buffer
  valid := by
    intro handle' buffer' he
    rw [ExtTreeMap.getElem?_insert] at he
    split at he
    · cases he
      exact hv
    · exact registry.valid handle' buffer' he

def apply (update : LiveCpuBufferUpdate β) :
    Except LiveCpuBufferRegistryError Bool × LiveCpuBufferRegistry β :=
  if (registry.get update.handle).any fun current => update.generation < current.generation then
    (.ok false, registry)
  else match update with
    | .replace buffer =>
      if hv : validBuffer buffer then (.ok true, registry.insert buffer.handle buffer hv)
      else (.error .invalidBufferMetadata, registry)
    | .patch p => match hb : registry.get p.handle with
      | none => (.error .missingPatchBase, registry)
      | some buffer => match hp : applyPatch buffer p with
        | .error error => (.error error, registry)
        | .ok patched => (.ok true, registry.insert p.handle patched
            (validBuffer_applyPatch (registry.valid p.handle buffer hb) hp))

def retainHandles (retain : UInt64 → Bool) : LiveCpuBufferRegistry β where
  buffers := registry.buffers.filter fun handle _ => retain handle
  valid := by
    intro handle buffer he
    rw [ExtTreeMap.getElem?_filter', Option.filter_eq_some_iff] at he
    exact registry.valid handle buffer he.1

end LiveCpuBufferRegistry

structure LiveCpuCompositionReport where
  frame : LiveCpuComposedFrame UInt8
  layersInput : ℕ
  layersComposed : ℕ
  nonzeroPixelBytes : ℕ
  checksum : UInt64

structure LiveProductionCpuScene where
  outputSize : Size
  buffers : LiveCpuBufferRegistry UInt8
  lastReport : Option LiveCpuCompositionReport
  maxNonzeroPixelBytes : ℕ
  nonzeroFrames : ℕ

def classicX11CursorShape : List String :=
  ["##..............",
   "#W#.............",
   "#WW#............",
   "#WWW#...........",
   "#WWWW#..........",
   "#WWWWW#.........",
   "#WWWWWW#........",
   "#WWWWWWW#.......",
   "#WWWWWWWW#......",
   "#WWWWW#####.....",
   "#WWW#W#.........",
   "#WW#.#W#........",
   "#W#..#W#........",
   "##...#WW#.......",
   "#....#WW#.......",
   ".....#WW#......."]

def putPixel (frame : LiveCpuComposedFrame UInt8) (x y : ℤ) (pixel : List UInt8) :
    LiveCpuComposedFrame UInt8 :=
  if x < 0 ∨ y < 0 ∨ frame.size.width.toInt ≤ x ∨ frame.size.height.toInt ≤ y then frame
  else
    let offset := y.toNat * frame.stride.toNat + x.toNat * 4
    if offset + 4 ≤ frame.bytes.length then
      { frame with bytes := Blit.splice frame.bytes offset pixel }
    else frame

def cursorColor? : Char → Option (List UInt8)
  | 'W' => some [0xff, 0xff, 0xff, 0xff]
  | '#' => some [0, 0, 0, 0xff]
  | _ => none

-- The pixel position saturates at the largest i32, which no frame reaches.
def composeSoftwareCursor (frame : LiveCpuComposedFrame UInt8) (position : Point) :
    LiveCpuComposedFrame UInt8 :=
  if position.x < -2 ^ 31 ∨ 2 ^ 31 - 1 < position.x ∨ position.y < -2 ^ 31 ∨
      2 ^ 31 - 1 < position.y then frame
  else classicX11CursorShape.zipIdx.foldl (fun frame (pixels, row) =>
    pixels.toList.zipIdx.foldl (fun frame (pixel, column) => match cursorColor? pixel with
      | some color => putPixel frame (min (⌊position.x⌋ + column) (2 ^ 31 - 1))
          (min (⌊position.y⌋ + row) (2 ^ 31 - 1)) color
      | none => frame) frame) frame

def wordOfLeBytes (bytes : List UInt8) : UInt64 :=
  bytes.foldr (fun byte word => word * 256 + byte.toUInt64) 0

def cpuFrameMetrics (bytes : List UInt8) : ℕ × UInt64 :=
  let mix (checksum word : UInt64) : UInt64 := (checksum ^^^ word) * 0x100000001b3
  let words := (List.range (bytes.length / 8)).map fun index =>
    wordOfLeBytes ((bytes.drop (8 * index)).take 8)
  let checksum := words.foldl mix 0xcbf29ce484222325
  let checksum := (bytes.drop (8 * (bytes.length / 8))).foldl
    (fun checksum byte => mix checksum byte.toUInt64) checksum
  (bytes.countP (· ≠ 0), checksum)

def composeLiveCpuFrameWithCursor (outputSize : Size)
    (layers : List (LiveCpuCompositionLayer UInt8)) (cursorPosition : Option Point) :
    Except LiveCpuCompositionError LiveCpuCompositionReport :=
  (composeLiveCpuFrame 0 outputSize layers).map fun (frame, layersComposed) =>
    let frame := (cursorPosition.map (composeSoftwareCursor frame)).getD frame
    let metrics := cpuFrameMetrics frame.bytes
    ⟨frame, layers.length, layersComposed, metrics.1, metrics.2⟩

section Order

variable (buffers : LiveCpuBufferRegistry β) (committed : List CommittedSurfaceState)
  (raised : Option SurfaceId)

/-- Back to front: the committed vector, with the raised surface last. -/
def surfaceOrder : List CommittedSurfaceState :=
  committed.filter (fun state => some state.surface ≠ raised) ++
    (raised.bind (find committed)).toList

def compositionLayer? (state : CommittedSurfaceState) : Option (LiveCpuCompositionLayer β) :=
  match state.buffer with
  | .cpuBuffer handle => (buffers.get handle).map fun buffer => ⟨state.geometry, buffer⟩
  | _ => none

def compositionLayers : List (LiveCpuCompositionLayer β) :=
  (surfaceOrder committed raised).filterMap (compositionLayer? buffers)

/-- The layers with every byte marked by the surface it belongs to. -/
def markedLayers : List (LiveCpuCompositionLayer (β × Option SurfaceId)) :=
  (surfaceOrder committed raised).filterMap fun state =>
    (compositionLayer? buffers state).map (·.mapBytes fun byte => (byte, some state.surface))

end Order

def LiveProductionCpuScene.compose (scene : LiveProductionCpuScene)
    (committed : List CommittedSurfaceState) (raised : Option SurfaceId)
    (cursorPosition : Option Point) : Except LiveCpuCompositionError LiveProductionCpuScene :=
  (composeLiveCpuFrameWithCursor scene.outputSize
    (compositionLayers scene.buffers committed raised) cursorPosition).map fun report =>
      { scene with
        lastReport := some report
        maxNonzeroPixelBytes := max scene.maxNonzeroPixelBytes report.nonzeroPixelBytes
        nonzeroFrames := scene.nonzeroFrames + if 0 < report.nonzeroPixelBytes then 1 else 0 }

/-- Which surface's buffer supplies a byte of the composed frame, found by composing marked
bytes. -/
def suppliers (blank : β) (outputSize : Size) (buffers : LiveCpuBufferRegistry β)
    (committed : List CommittedSurfaceState) (raised : Option SurfaceId) :
    Except LiveCpuCompositionError (List (Option SurfaceId)) :=
  (composeLiveCpuFrame (blank, none) outputSize (markedLayers buffers committed raised)).map
    fun (frame, _) => frame.bytes.map Prod.snd

/-- Without the marks, the marked composition is the composition. -/
theorem composeLiveCpuFrame_marked (blank : β) (outputSize : Size)
    (buffers : LiveCpuBufferRegistry β) (committed : List CommittedSurfaceState)
    (raised : Option SurfaceId) :
    (composeLiveCpuFrame (blank, none) outputSize (markedLayers buffers committed raised)).map
        (fun (frame, composed) => (frame.mapBytes Prod.fst, composed)) =
      composeLiveCpuFrame blank outputSize (compositionLayers buffers committed raised) := by
  rw [← composeLiveCpuFrame_map Prod.fst (blank, (none : Option SurfaceId))]
  congr 1
  simp only [markedLayers, compositionLayers, List.map_filterMap]
  refine List.filterMap_congr fun state _ => ?_
  cases compositionLayer? buffers state with
  | none => rfl
  | some layer => simp [LiveCpuCompositionLayer.mapBytes, Function.comp_def]

/-- The composed frame and the suppliers are the two halves of one marked frame. -/
theorem compose_of_suppliers {scene : LiveProductionCpuScene}
    {committed : List CommittedSurfaceState} {raised : Option SurfaceId}
    {marks : List (Option SurfaceId)}
    (hm : suppliers 0 scene.outputSize scene.buffers committed raised = .ok marks) :
    ∃ composed report, scene.compose committed raised none = .ok composed ∧
      composed.lastReport = some report ∧ ∃ marked : List (UInt8 × Option SurfaceId),
        report.frame.bytes = marked.map Prod.fst ∧ marks = marked.map Prod.snd := by
  have hmap := composeLiveCpuFrame_marked 0 scene.outputSize scene.buffers committed raised
  unfold suppliers at hm
  cases he : composeLiveCpuFrame ((0, none) : UInt8 × Option SurfaceId) scene.outputSize
      (markedLayers scene.buffers committed raised) with
  | error error =>
    rw [he] at hm
    cases hm
  | ok result =>
    rw [he] at hm hmap
    cases hm
    simp only [LiveProductionCpuScene.compose, composeLiveCpuFrameWithCursor, ← hmap]
    exact ⟨_, _, rfl, rfl, result.1.bytes, rfl, rfl⟩

/-- The committed entry has a registered buffer, in the format of the frame and at least as large
as its geometry. -/
def Backed (buffers : LiveCpuBufferRegistry β) (state : CommittedSurfaceState) : Prop :=
  ∃ handle buffer, state.buffer = .cpuBuffer handle ∧ buffers.get handle = some buffer ∧
    buffer.format = liveRendererScanoutFormatXrgb8888 ∧
    state.geometry.width.toInt ≤ buffer.size.width.toInt ∧
    state.geometry.height.toInt ≤ buffer.size.height.toInt

section Suppliers

variable {buffers : LiveCpuBufferRegistry β} {committed : List CommittedSurfaceState}
  {raised : Option SurfaceId} {state : CommittedSurfaceState}

theorem mem_of_mem_surfaceOrder (h : state ∈ surfaceOrder committed raised) : state ∈ committed := by
  rcases List.mem_append.mp h with h | h
  · exact List.mem_of_mem_filter h
  · obtain ⟨r, -, he⟩ := Option.bind_eq_some_iff.mp (Option.mem_toList.mp h)
    exact Keyed.mem_of_lookup he

/-- The marked layer of a backed entry. -/
def markedLayer? (buffers : LiveCpuBufferRegistry β) (state : CommittedSurfaceState) :
    Option (LiveCpuCompositionLayer (β × Option SurfaceId)) :=
  (compositionLayer? buffers state).map (·.mapBytes fun byte => (byte, some state.surface))

theorem markedLayer?_of_backed (hb : Backed buffers state) (hg : state.geometry.isEmpty = false) :
    ∃ layer, markedLayer? buffers state = some layer ∧ layer.geometry = state.geometry ∧
      Composable layer ∧ ∀ (i : ℕ) (byte : β × Option SurfaceId), layer.buffer.bytes[i]? = some byte →
        byte.2 = some state.surface := by
  obtain ⟨handle, buffer, hcpu, hget, hformat, hw, hh⟩ := hb
  obtain ⟨hbw, hbh, hstride, -, hlen⟩ := buffers.valid handle buffer hget
  have hlayer : markedLayer? buffers state = some (LiveCpuCompositionLayer.mapBytes
      (fun byte => (byte, some state.surface)) ⟨state.geometry, buffer⟩) := by
    simp [markedLayer?, compositionLayer?, hcpu, hget]
  simp only [Rect.isEmpty, Bool.or_eq_false_iff, decide_eq_false_iff_not, Int32.not_le,
    Int32.lt_iff_toInt_lt, Int32.toInt_zero] at hg
  refine ⟨_, hlayer, rfl, ⟨hformat, hg.1, hg.2, hw, hh, hstride, ?_⟩, ?_⟩
  · simp [LiveCpuCompositionLayer.mapBytes, hlen]
  · intro i byte he
    simp only [LiveCpuCompositionLayer.mapBytes, List.getElem?_map, Option.map_eq_some_iff] at he
    obtain ⟨b, -, rfl⟩ := he
    rfl

/-- Each pixel is supplied by the last surface in drawing order whose geometry covers it. -/
theorem suppliers_pixel (blank : β) (raised : Option SurfaceId) {outputSize : Size}
    (hs : OutputSize outputSize)
    (hb : ∀ state ∈ committed, Backed buffers state ∧ state.geometry.isEmpty = false) :
    ∃ marks, suppliers blank outputSize buffers committed raised = .ok marks ∧
      ∀ x < toUsize outputSize.width, ∀ y < toUsize outputSize.height, ∀ k < 4,
        marks[y * (toUsize outputSize.width * 4) + (x * 4 + k)]? =
          some (((surfaceOrder committed raised).reverse.find? fun state =>
            Covers state.geometry x y).map (·.surface)) := by
  have hlayer (state : CommittedSurfaceState) (hm : state ∈ surfaceOrder committed raised) :=
    markedLayer?_of_backed (hb state (mem_of_mem_surfaceOrder hm)).1
      (hb state (mem_of_mem_surfaceOrder hm)).2
  have hcomposable : ∀ layer ∈ markedLayers buffers committed raised, Composable layer := by
    intro layer hm
    obtain ⟨state, hstate, he⟩ := List.mem_filterMap.mp hm
    obtain ⟨layer', he', -, hc, -⟩ := hlayer state hstate
    cases he.symm.trans he'
    exact hc
  obtain ⟨frame, composed, hok, hframe, hpixel⟩ := composeLiveCpuFrame_pixel
    ((blank, none) : β × Option SurfaceId) hs hcomposable
  refine ⟨frame.bytes.map Prod.snd, by rw [suppliers, hok]; rfl, ?_⟩
  intro x hx y hy k hk
  have hlt : y * (toUsize outputSize.width * 4) + (x * 4 + k) < frame.bytes.length := by
    rw [hframe.bytes]
    exact row_add_lt _ _ hy (by omega)
  have hbyte := hpixel x hx y hy k hk
  -- The last covering layer is the layer of the last covering surface.
  have htop : topLayer? (markedLayers buffers committed raised) x y =
      ((surfaceOrder committed raised).reverse.find? fun state =>
        Covers state.geometry x y).bind (markedLayer? buffers) := by
    rw [topLayer?, markedLayers, ← List.filterMap_reverse, List.find?_filterMap]
    congr 1
    refine List.find?_congr fun state hm => ?_
    obtain ⟨layer, he, hgeometry, -, -⟩ := hlayer state (List.mem_reverse.mp hm)
    simp only [markedLayer?] at he
    simp [he, hgeometry]
  rw [htop] at hbyte
  rw [List.getElem?_map]
  cases hfind : (surfaceOrder committed raised).reverse.find? fun state =>
      Covers state.geometry x y with
  | none =>
    rw [hfind] at hbyte
    rw [hbyte]
    rfl
  | some state =>
    have hm := List.mem_reverse.mp (List.mem_of_find?_eq_some hfind)
    obtain ⟨layer, he, -, -, hmark⟩ := hlayer state hm
    rw [hfind, Option.bind_some, he] at hbyte
    rw [List.getElem?_eq_getElem hlt] at hbyte ⊢
    simp only [Option.map_some]
    rw [hmark _ _ hbyte.symm]

end Suppliers
end Sophia.Renderer
