import Sophia.Lib.Numbers
import Sophia.Lib.Usize
import Sophia.Renderer.CpuScene

/-! What the composed frame shows at each pixel, for layers of any geometry, size, stride and byte
length, with the offsets computed as the machine computes them. -/
namespace Sophia.Renderer

open Protocol

variable {β : Type}

/-- The four bytes of a pixel. -/
def pixel? (bytes : List β) (stride x y : ℕ) : Option (List β) :=
  Blit.slice? bytes (y * stride + x * 4) (y * stride + x * 4 + 4)

namespace LiveCpuCompositionLayer

/-- What `compose_layer` asks of a layer before it looks at the frame. -/
structure WellFormed (layer : LiveCpuCompositionLayer β) : Prop where
  format : layer.buffer.format = liveRendererScanoutFormatXrgb8888
  geometry_width : 0 < layer.geometry.width.toInt
  geometry_height : 0 < layer.geometry.height.toInt
  buffer_width : 0 < layer.buffer.size.width.toInt
  buffer_height : 0 < layer.buffer.size.height.toInt
  stride : toUsize layer.buffer.size.width * 4 ≤ layer.buffer.stride.toNat
  bytes : layer.buffer.stride.toNat * toUsize layer.buffer.size.height ≤ layer.buffer.bytes.length

theorem wellFormed_iff {layer : LiveCpuCompositionLayer β} :
    layer.WellFormed ↔ layer.buffer.format = liveRendererScanoutFormatXrgb8888 ∧
      0 < layer.geometry.width.toInt ∧ 0 < layer.geometry.height.toInt ∧
      0 < layer.buffer.size.width.toInt ∧ 0 < layer.buffer.size.height.toInt ∧
      toUsize layer.buffer.size.width * 4 ≤ layer.buffer.stride.toNat ∧
      layer.buffer.stride.toNat * toUsize layer.buffer.size.height ≤
        layer.buffer.bytes.length :=
  ⟨fun ⟨h₁, h₂, h₃, h₄, h₅, h₆, h₇⟩ => ⟨h₁, h₂, h₃, h₄, h₅, h₆, h₇⟩,
    fun ⟨h₁, h₂, h₃, h₄, h₅, h₆, h₇⟩ => ⟨h₁, h₂, h₃, h₄, h₅, h₆, h₇⟩⟩

instance (layer : LiveCpuCompositionLayer β) : Decidable layer.WellFormed :=
  decidable_of_iff _ wellFormed_iff.symm

/-- Where the buffer lies when it is put at the origin of the geometry. -/
def bufferExtent (layer : LiveCpuCompositionLayer β) : Rect :=
  ⟨layer.geometry.x, layer.geometry.y, layer.buffer.size.width, layer.buffer.size.height⟩

/-- A well-formed layer whose geometry and buffer extent both contain the pixel. -/
def Shows (layer : LiveCpuCompositionLayer β) (x y : ℕ) : Prop :=
  layer.WellFormed ∧ Covers layer.geometry x y ∧ Covers layer.bufferExtent x y

instance (layer : LiveCpuCompositionLayer β) (x y : ℕ) : Decidable (layer.Shows x y) :=
  inferInstanceAs (Decidable (_ ∧ _ ∧ _))

/-- The layer without the part of its geometry that lies beyond its buffer. -/
def trim (layer : LiveCpuCompositionLayer β) : LiveCpuCompositionLayer β :=
  { layer with
    geometry := { layer.geometry with
      width := min layer.geometry.width layer.buffer.size.width
      height := min layer.geometry.height layer.buffer.size.height } }

end LiveCpuCompositionLayer

open LiveCpuCompositionLayer

/-- The last layer that shows at the pixel. -/
def shownLayer? (layers : List (LiveCpuCompositionLayer β)) (x y : ℕ) :
    Option (LiveCpuCompositionLayer β) :=
  layers.reverse.find? fun layer => layer.Shows x y

section Trim

variable {layer : LiveCpuCompositionLayer β} {layers : List (LiveCpuCompositionLayer β)} {x y : ℕ}

theorem copyExtent_trim (position extent buffer : Int32) (frame : ℕ) :
    copyExtent position (min extent buffer) buffer frame =
      copyExtent position extent buffer frame := by
  have hmin : toUsize (min extent buffer) = min (toUsize extent) (toUsize buffer) := by
    simp only [toUsize, I32.toInt_min]
    omega
  rw [copyExtent, copyExtent, hmin, Nat.sub_min_sub_right, Nat.sub_min_sub_right, min_assoc,
    min_self]

theorem copyWindow?_of_wellFormed (hl : layer.WellFormed) (size : Size) :
    copyWindow? size layer =
      if toUsize layer.buffer.size.width ≤ (saturatingNeg layer.geometry.x).toNat ∨
          toUsize layer.buffer.size.height ≤ (saturatingNeg layer.geometry.y).toNat ∨
          toUsize size.width ≤ toUsize layer.geometry.x ∨
          toUsize size.height ≤ toUsize layer.geometry.y then none
      else
        let width := copyExtent layer.geometry.x layer.geometry.width layer.buffer.size.width
          (toUsize size.width)
        let height := copyExtent layer.geometry.y layer.geometry.height layer.buffer.size.height
          (toUsize size.height)
        if width = 0 ∨ height = 0 then none
        else some ⟨(saturatingNeg layer.geometry.x).toNat, (saturatingNeg layer.geometry.y).toNat,
          toUsize layer.geometry.x, toUsize layer.geometry.y, width, height⟩ := by
  obtain ⟨hf, hw, hh, hbw, hbh, hs, hb⟩ := hl
  have hpos : ¬ (layer.buffer.format ≠ liveRendererScanoutFormatXrgb8888 ∨
      layer.geometry.width ≤ 0 ∨ layer.geometry.height ≤ 0 ∨ layer.buffer.size.width ≤ 0 ∨
      layer.buffer.size.height ≤ 0) := by
    simp only [hf, ne_eq, not_true_eq_false, false_or, Int32.le_iff_toInt_le, Int32.toInt_zero]
    omega
  unfold copyWindow?
  dsimp only
  rw [if_neg hpos, if_neg (by omega)]

theorem copyWindow?_of_not_wellFormed (hl : ¬ layer.WellFormed) (size : Size) :
    copyWindow? size layer = none := by
  unfold copyWindow?
  dsimp only
  split
  · rfl
  split
  · rfl
  rename_i hpos hlen
  simp only [not_or, ne_eq, Decidable.not_not, Int32.not_le, Int32.lt_iff_toInt_lt,
    Int32.toInt_zero, Nat.not_lt] at hpos hlen
  obtain ⟨hf, hw, hh, hbw, hbh⟩ := hpos
  exact absurd ⟨hf, hw, hh, hbw, hbh, hlen.1, hlen.2⟩ hl

/-- A trimmed layer keeps its buffer within its geometry. -/
theorem composable_trim (hl : layer.WellFormed) : Composable layer.trim := by
  obtain ⟨hf, hw, hh, hbw, hbh, hs, hb⟩ := hl
  refine ⟨hf, ?_, ?_, ?_, ?_, hs, hb⟩ <;> simp only [trim, I32.toInt_min] <;> omega

theorem wellFormed_trim (hl : layer.WellFormed) : layer.trim.WellFormed := by
  have hc := composable_trim hl
  exact ⟨hc.format, hc.width_pos, hc.height_pos, hl.buffer_width, hl.buffer_height, hl.stride,
    hl.bytes⟩

/-- Nothing beyond the buffer is copied, so trimming takes nothing away. -/
theorem composeLayer_trim (frame : LiveCpuComposedFrame β) (hl : layer.WellFormed) :
    composeLayer frame layer.trim = composeLayer frame layer := by
  have hw : copyWindow? frame.size layer.trim = copyWindow? frame.size layer := by
    rw [copyWindow?_of_wellFormed hl, copyWindow?_of_wellFormed (wellFormed_trim hl)]
    simp only [trim, copyExtent_trim]
  unfold composeLayer
  rw [hw]
  rfl

theorem covers_trim : Covers layer.trim.geometry x y ↔
    Covers layer.geometry x y ∧ Covers layer.bufferExtent x y := by
  simp only [Covers, trim, bufferExtent, I32.toInt_min]
  omega

/-- Only the well-formed layers count, and of these only what the buffer holds. -/
theorem composeLayers_trim (frame : LiveCpuComposedFrame β)
    (layers : List (LiveCpuCompositionLayer β)) :
    composeLayers frame layers =
      composeLayers frame ((layers.filter fun layer => layer.WellFormed).map trim) := by
  unfold composeLayers
  rw [List.foldl_map, List.foldl_filter]
  congr 1
  funext ⟨frame, composed⟩ layer
  by_cases hl : layer.WellFormed
  · simp only [hl, decide_true, if_true, composeLayer_trim frame hl]
  · simp only [hl, decide_false, composeLayer, copyWindow?_of_not_wellFormed hl]
    rfl

theorem topLayer?_trim (layers : List (LiveCpuCompositionLayer β)) (x y : ℕ) :
    topLayer? ((layers.filter fun layer => layer.WellFormed).map trim) x y =
      (shownLayer? layers x y).map trim := by
  unfold topLayer? shownLayer?
  rw [← List.map_reverse, List.find?_map, ← List.filter_reverse, List.find?_filter]
  congr 2
  funext layer
  rw [Bool.eq_iff_iff]
  simp only [Function.comp_apply, decide_eq_true_eq, covers_trim]
  rfl

/-- A byte of a shown pixel is the byte of the trimmed layer. -/
theorem composeLayers_shown {frame : LiveCpuComposedFrame β} {w h k : ℕ} (hf : FrameOf w h frame)
    (layers : List (LiveCpuCompositionLayer β)) (hx : x < w) (hy : y < h) (hk : k < 4) :
    (composeLayers frame layers).1.bytes[y * (w * 4) + (x * 4 + k)]? =
      match shownLayer? layers x y with
      | some layer => layer.buffer.bytes[sourceOffset layer x y + k]?
      | none => frame.bytes[y * (w * 4) + (x * 4 + k)]? := by
  have hl : ∀ layer ∈ (layers.filter fun layer => layer.WellFormed).map trim,
      Composable layer := by
    intro trimmed hm
    obtain ⟨layer, hlayer, rfl⟩ := List.mem_map.mp hm
    exact composable_trim (of_decide_eq_true (List.mem_filter.mp hlayer).2)
  rw [composeLayers_trim, composeLayers_pixel hf hl hx hy hk, topLayer?_trim]
  cases shownLayer? layers x y <;> rfl

theorem composeLayers_pixel? {frame : LiveCpuComposedFrame β} {w h : ℕ} (hf : FrameOf w h frame)
    (layers : List (LiveCpuCompositionLayer β)) (hx : x < w) (hy : y < h) :
    pixel? (composeLayers frame layers).1.bytes (w * 4) x y =
      match shownLayer? layers x y with
      | some layer => pixel? layer.buffer.bytes layer.buffer.stride.toNat
          ((x : ℤ) - layer.geometry.x.toInt).toNat ((y : ℤ) - layer.geometry.y.toInt).toNat
      | none => pixel? frame.bytes (w * 4) x y := by
  have hbyte {k : ℕ} (hk : k < 4) := composeLayers_shown hf layers hx hy hk
  split
  · rename_i layer hshown
    refine Blit.slice?_congr (by omega) fun k hk => ?_
    rw [Nat.add_assoc, hbyte hk, hshown]
    rfl
  · rename_i hshown
    refine Blit.slice?_congr (by omega) fun k hk => ?_
    rw [Nat.add_assoc, hbyte hk, hshown]

end Trim

section Machine

/-- The rows of a layer, at offsets that saturate. -/
def copyRowsUsize (layer : LiveCpuCompositionLayer β) (frame : LiveCpuComposedFrame β)
    (window : CopyWindow) : Except Usize.Panic (List β × Bool) :=
  let rowBytes := Usize.saturatingMul window.width 4
  (List.range window.height).foldlM (fun (bytes, copied) row => do
    let sourceOffset := Usize.saturatingAdd
      (Usize.saturatingMul (Usize.saturatingAdd window.sourceY row) layer.buffer.stride.toNat)
      (Usize.saturatingMul window.sourceX 4)
    let targetOffset := Usize.saturatingAdd
      (Usize.saturatingMul (Usize.saturatingAdd window.targetY row) frame.stride.toNat)
      (Usize.saturatingMul window.targetX 4)
    match ← Usize.copyRow layer.buffer.bytes bytes sourceOffset targetOffset rowBytes with
    | none => pure (bytes, copied)
    | some bytes => pure (bytes, true)) (frame.bytes, false)

/-- `compose_layer` in the arithmetic of the machine. -/
def composeLayerUsize (frame : LiveCpuComposedFrame β) (layer : LiveCpuCompositionLayer β) :
    Except Usize.Panic (LiveCpuComposedFrame β × Bool) := do
  if layer.buffer.format ≠ liveRendererScanoutFormatXrgb8888 ∨ layer.geometry.width ≤ 0 ∨
      layer.geometry.height ≤ 0 ∨ layer.buffer.size.width ≤ 0 ∨ layer.buffer.size.height ≤ 0 then
    return (frame, false)
  let sourceWidth := toUsize layer.buffer.size.width
  let sourceHeight := toUsize layer.buffer.size.height
  let sourceStride := layer.buffer.stride.toNat
  if sourceStride < Usize.saturatingMul sourceWidth 4 ∨
      layer.buffer.bytes.length < Usize.saturatingMul sourceStride sourceHeight then
    return (frame, false)
  let frameWidth := toUsize frame.size.width
  let frameHeight := toUsize frame.size.height
  let sourceX := (saturatingNeg layer.geometry.x).toNat
  let sourceY := (saturatingNeg layer.geometry.y).toNat
  let targetX := toUsize layer.geometry.x
  let targetY := toUsize layer.geometry.y
  if sourceWidth ≤ sourceX ∨ sourceHeight ≤ sourceY ∨ frameWidth ≤ targetX ∨
      frameHeight ≤ targetY then
    return (frame, false)
  let copyWidth := min (min (toUsize layer.geometry.width - sourceX) (sourceWidth - sourceX))
    (frameWidth - targetX)
  let copyHeight := min (min (toUsize layer.geometry.height - sourceY) (sourceHeight - sourceY))
    (frameHeight - targetY)
  if copyWidth = 0 ∨ copyHeight = 0 then
    return (frame, false)
  let (bytes, copied) ← copyRowsUsize layer frame
    ⟨sourceX, sourceY, targetX, targetY, copyWidth, copyHeight⟩
  return ({ frame with bytes := bytes }, copied)

variable {frame : LiveCpuComposedFrame β} {layer : LiveCpuCompositionLayer β}

theorem toUsize_lt (x : Int32) : toUsize x < 2 ^ 31 := by
  have hx := Int32.toInt_lt x
  simp only [toUsize]
  omega

/-- A row number below 2^31 times a stride, and some bytes of a row: far below the largest size. -/
theorem offset_lt {row : ℕ} (columns rowBytes : ℕ) (stride : UInt32) (hrow : row < 2 ^ 31)
    (hcolumns : columns ≤ 2 ^ 33) (hbytes : rowBytes ≤ 2 ^ 33) :
    row * stride.toNat + columns + rowBytes < Usize.bound := by
  have hstride := stride.toNat_lt
  have hproduct : row * stride.toNat ≤ 2 ^ 31 * 2 ^ 32 :=
    Nat.mul_le_mul (Nat.le_of_lt hrow) (Nat.le_of_lt hstride)
  unfold Usize.bound
  omega

/-- The saturating offset of a row is its offset. -/
theorem saturatingOffset {start row columns : ℕ} (stride : UInt32) (hrow : start + row < 2 ^ 31)
    (hcolumns : columns ≤ 2 ^ 31) :
    Usize.saturatingAdd (Usize.saturatingMul (Usize.saturatingAdd start row) stride.toNat)
        (Usize.saturatingMul columns 4) = (start + row) * stride.toNat + columns * 4 := by
  have hoffset := offset_lt (columns * 4) 0 stride hrow (by omega)
    (by omega)
  have hproduct : (start + row) * stride.toNat < Usize.bound := by omega
  have hcolumns : columns * 4 < Usize.bound := by omega
  have hstart : start + row < Usize.bound := by
    unfold Usize.bound
    omega
  rw [Usize.saturatingAdd_eq hstart, Usize.saturatingMul_eq hproduct,
    Usize.saturatingMul_eq hcolumns, Usize.saturatingAdd_eq (by omega)]

/-- The rows of a window below 2^31 never saturate and never panic. -/
theorem copyRowsUsize_eq {window : CopyWindow} (hsx : window.sourceX ≤ 2 ^ 31)
    (hsy : window.sourceY + window.height ≤ 2 ^ 31) (htx : window.targetX ≤ 2 ^ 31)
    (hty : window.targetY + window.height ≤ 2 ^ 31) (hw : window.width ≤ 2 ^ 31) :
    copyRowsUsize layer frame window =
      .ok (Blit.copyRows layer.buffer.bytes frame.bytes (window.width * 4)
        (fun row => (window.sourceY + row) * layer.buffer.stride.toNat + window.sourceX * 4)
        (fun row => (window.targetY + row) * frame.stride.toNat + window.targetX * 4)
        window.height) := by
  have hrowBytes : window.width * 4 < Usize.bound := by
    unfold Usize.bound
    omega
  unfold copyRowsUsize Blit.copyRows
  rw [Usize.saturatingMul_eq hrowBytes]
  refine Fallible.foldlM_eq_foldl _ ?_
  rintro row hrow ⟨bytes, copied⟩
  have hrow := List.mem_range.mp hrow
  dsimp only
  rw [saturatingOffset layer.buffer.stride (by omega) hsx,
    saturatingOffset frame.stride (by omega) htx,
    Usize.copyRow_eq (offset_lt _ _ _ (by omega) (by omega) (by omega))
      (offset_lt _ _ _ (by omega) (by omega) (by omega))]
  cases hcopy : Blit.copyRow? layer.buffer.bytes bytes
      ((window.sourceY + row) * layer.buffer.stride.toNat + window.sourceX * 4)
      ((window.targetY + row) * frame.stride.toNat + window.targetX * 4) (window.width * 4) <;> rfl

/-- The machine computes the same layer, without a panic. -/
theorem composeLayerUsize_eq (frame : LiveCpuComposedFrame β) (layer : LiveCpuCompositionLayer β) :
    composeLayerUsize frame layer = .ok (composeLayer frame layer) := by
  have hwidth := toUsize_lt layer.buffer.size.width
  have hheight := toUsize_lt layer.buffer.size.height
  have hframeWidth := toUsize_lt frame.size.width
  have hframeHeight := toUsize_lt frame.size.height
  have hcolumns : toUsize layer.buffer.size.width * 4 < Usize.bound := by
    unfold Usize.bound
    omega
  have hbytes : layer.buffer.stride.toNat * toUsize layer.buffer.size.height < Usize.bound := by
    have hoffset := offset_lt 0 0 layer.buffer.stride hheight
      (by omega) (by omega)
    rwa [Nat.mul_comm]
  unfold composeLayerUsize composeLayer copyWindow?
  dsimp only
  rw [Usize.saturatingMul_eq hcolumns, Usize.saturatingMul_eq hbytes]
  split
  · rfl
  split
  · rfl
  split
  · rfl
  rename_i hin
  simp only [not_or, Nat.not_le] at hin
  change (if copyExtent layer.geometry.x layer.geometry.width layer.buffer.size.width
      (toUsize frame.size.width) = 0 ∨ copyExtent layer.geometry.y layer.geometry.height
      layer.buffer.size.height (toUsize frame.size.height) = 0 then _ else _) = _
  split
  · rfl
  rw [copyRowsUsize_eq]
  · rfl
  all_goals
    dsimp only
    omega

/-- The loop over the layers, with a count that saturates. -/
def composeLayersUsize (frame : LiveCpuComposedFrame β)
    (layers : List (LiveCpuCompositionLayer β)) :
    Except Usize.Panic (LiveCpuComposedFrame β × ℕ) :=
  layers.foldlM (fun (frame, composed) layer => do
    let (frame, copied) ← composeLayerUsize frame layer
    return (frame, if copied then Usize.saturatingAdd composed 1 else composed)) (frame, 0)

theorem composeLayersUsize_eq (frame : LiveCpuComposedFrame β)
    (layers : List (LiveCpuCompositionLayer β)) :
    composeLayersUsize frame layers = .ok ((composeLayers frame layers).1,
      min (composeLayers frame layers).2 (Usize.bound - 1)) := by
  unfold composeLayersUsize
  induction layers using List.reverseRecOn with
  | nil => rfl
  | append_singleton layers layer ih =>
    rw [List.foldlM_append, ih]
    have hcount (n : ℕ) : Usize.saturatingAdd (min n (Usize.bound - 1)) 1 =
        min (n + 1) (Usize.bound - 1) := by
      unfold Usize.saturatingAdd
      omega
    simp only [composeLayers, List.foldl_append, List.foldl_cons, List.foldl_nil, List.foldlM_cons,
      List.foldlM_nil, composeLayerUsize_eq]
    cases hlast : composeLayer (composeLayers frame layers).1 layer with
    | mk last copied =>
      simp only [composeLayers] at hlast
      simp only [bind, Except.bind, pure, Except.pure, hlast, hcount]
      cases copied <;> rfl

/-- `compose_live_cpu_frame_ref` once its sizes are checked, with the layer it copies directly. -/
def composeReport (outputSize : Size) (frameStride : UInt32) (byteLen : ℕ)
    (direct : Option (LiveCpuCompositionLayer UInt8))
    (layers : List (LiveCpuCompositionLayer UInt8)) :
    Except Usize.Panic LiveCpuCompositionReport := do
  let frame (bytes : List UInt8) : LiveCpuComposedFrame UInt8 :=
    ⟨outputSize, frameStride, liveRendererScanoutFormatXrgb8888, bytes⟩
  let (frame, layersComposed) ← match direct with
    | some layer => pure (frame layer.buffer.bytes, 1)
    | none => composeLayersUsize (frame (List.replicate byteLen 0)) layers
  let metrics := cpuFrameMetrics frame.bytes
  return ⟨frame, layers.length, layersComposed, metrics.1, metrics.2⟩

def composeLiveCpuFrameRef (outputSize : Size) (layers : List (LiveCpuCompositionLayer UInt8)) :
    Except Usize.Panic (Except LiveCpuCompositionError LiveCpuCompositionReport) := do
  let width := toUsize outputSize.width
  let height := toUsize outputSize.height
  if width = 0 ∨ height = 0 then return .error .invalidOutputSize
  let some stride := Usize.checkedMul width 4 | return .error .outputTooLarge
  let some byteLen := (Usize.checkedMul stride height).filter (· ≤ 64 * 1024 * 1024)
    | return .error .outputTooLarge
  if UInt32.size ≤ stride then return .error .outputTooLarge
  let frameStride := UInt32.ofNat stride
  let direct := directLayer? outputSize frameStride byteLen layers
  return .ok (← composeReport outputSize frameStride byteLen direct layers)

section Report

variable {size : Size} {layers : List (LiveCpuCompositionLayer UInt8)}
  {direct : LiveCpuCompositionLayer UInt8}

theorem outputSize_iff : OutputSize size ↔ (toUsize size.width ≠ 0 ∧ toUsize size.height ≠ 0) ∧
    toUsize size.width * 4 * toUsize size.height ≤ 64 * 1024 * 1024 := by
  constructor
  · rintro ⟨hw, hh, hb⟩
    refine ⟨?_, hb⟩
    simp only [toUsize]
    omega
  · rintro ⟨hpos, hb⟩
    simp only [toUsize] at hpos
    exact ⟨by omega, by omega, hb⟩

/-- On a blank frame the direct layer is copied whole. -/
theorem composeLayer_direct (hs : OutputSize size)
    (hd : directLayer? size (UInt32.ofNat (toUsize size.width * 4))
      (toUsize size.width * 4 * toUsize size.height) layers = some direct) :
    composeLayer (blankFrame 0 size) direct =
      ({ blankFrame 0 size with bytes := direct.buffer.bytes }, true) := by
  obtain ⟨-, hgeometry, hsize, hstride, hformat, hbytes⟩ := directLayer?_eq_some hd
  obtain ⟨⟨hw, hh⟩, -⟩ := outputSize_iff.mp hs
  have hlen := toNat_frameStride hs
  have hwell : direct.WellFormed := by
    refine ⟨hformat, ?_, ?_, ?_, ?_, ?_, ?_⟩
    · rw [hgeometry]
      exact hs.width
    · rw [hgeometry]
      exact hs.height
    · rw [hsize]
      exact hs.width
    · rw [hsize]
      exact hs.height
    · rw [hsize, hstride, hlen]
    · rw [hsize, hstride, hlen, hbytes]
  have hwindow : copyWindow? (blankFrame (0 : UInt8) size).size direct =
      some ⟨0, 0, 0, 0, toUsize size.width, toUsize size.height⟩ := by
    have hextent (limit : Int32) : copyExtent 0 limit limit (toUsize limit) = toUsize limit := by
      simp [copyExtent, toUsize, saturatingNeg]
    have hzero : (saturatingNeg 0).toNat = 0 := rfl
    rw [copyWindow?_of_wellFormed hwell, hgeometry, hsize]
    simp only [blankFrame, hextent, hzero, show toUsize 0 = 0 from rfl, Nat.le_zero_eq, hw, hh,
      or_self, if_false]
  obtain ⟨rows, hrows⟩ := Nat.exists_eq_succ_of_ne_zero hh
  have hcopy : Blit.copyRows direct.buffer.bytes (blankFrame (0 : UInt8) size).bytes
      (toUsize size.width * 4) (fun row => row * (toUsize size.width * 4))
      (fun row => row * (toUsize size.width * 4)) (rows + 1) = (direct.buffer.bytes, true) := by
    refine Blit.copyRows_whole ?_ ?_ (by omega)
    · rw [hbytes, hrows, Nat.mul_comm]
    · rw [blankFrame, List.length_replicate, hrows, Nat.mul_comm]
  unfold composeLayer
  rw [hwindow]
  simp only [Nat.zero_add, Nat.zero_mul, Nat.add_zero, hstride, blankFrame, hlen, hrows]
    at hcopy ⊢
  rw [hcopy]

/-- The direct copy makes the report of the loop. -/
theorem composeReport_direct (hs : OutputSize size)
    (hd : directLayer? size (UInt32.ofNat (toUsize size.width * 4))
      (toUsize size.width * 4 * toUsize size.height) layers = some direct) :
    composeReport size (UInt32.ofNat (toUsize size.width * 4))
        (toUsize size.width * 4 * toUsize size.height) (some direct) layers =
      composeReport size (UInt32.ofNat (toUsize size.width * 4))
        (toUsize size.width * 4 * toUsize size.height) none layers := by
  have hlayer := composeLayer_direct hs hd
  obtain ⟨rfl, -⟩ := directLayer?_eq_some hd
  have hlayers : composeLayersUsize (blankFrame 0 size) [direct] =
      .ok ({ blankFrame 0 size with bytes := direct.buffer.bytes }, 1) := by
    rw [composeLayersUsize_eq]
    simp only [composeLayers, List.foldl_cons, List.foldl_nil, hlayer]
    rfl
  unfold composeReport
  dsimp only
  rw [← blankFrame, hlayers]
  rfl

/-- What the loop reports. -/
def loopReport (size : Size) (layers : List (LiveCpuCompositionLayer UInt8)) :
    LiveCpuCompositionReport :=
  let composed := composeLayers (blankFrame 0 size) layers
  let metrics := cpuFrameMetrics composed.1.bytes
  ⟨composed.1, layers.length, min composed.2 (Usize.bound - 1), metrics.1, metrics.2⟩

theorem composeReport_loop (size : Size) (layers : List (LiveCpuCompositionLayer UInt8)) :
    composeReport size (UInt32.ofNat (toUsize size.width * 4))
        (toUsize size.width * 4 * toUsize size.height) none layers =
      .ok (loopReport size layers) := by
  unfold composeReport
  dsimp only
  rw [← blankFrame, composeLayersUsize_eq]
  rfl

/-- Neither product of the size of an output reaches the largest size. -/
theorem outputSize_products (size : Size) : toUsize size.width * 4 < Usize.bound ∧
    toUsize size.width * 4 * toUsize size.height < Usize.bound := by
  have hw := toUsize_lt size.width
  have hh := toUsize_lt size.height
  have hproduct : toUsize size.width * 4 * toUsize size.height ≤ (2 ^ 31 - 1) * 4 * (2 ^ 31 - 1) :=
    Nat.mul_le_mul (by omega) (by omega)
  unfold Usize.bound
  omega

/-- An accepted output is composed by the loop, or as the loop would. -/
theorem composeLiveCpuFrameRef_ok (hs : OutputSize size) :
    composeLiveCpuFrameRef size layers = .ok (.ok (loopReport size layers)) := by
  obtain ⟨hpos, hbytes⟩ := outputSize_iff.mp hs
  obtain ⟨hstride, hbyteLen⟩ := outputSize_products size
  have hreport : composeReport size (UInt32.ofNat (toUsize size.width * 4))
      (toUsize size.width * 4 * toUsize size.height)
      (directLayer? size (UInt32.ofNat (toUsize size.width * 4))
        (toUsize size.width * 4 * toUsize size.height) layers) layers =
      .ok (loopReport size layers) := by
    rw [← composeReport_loop]
    cases hd : directLayer? size (UInt32.ofNat (toUsize size.width * 4))
        (toUsize size.width * 4 * toUsize size.height) layers with
    | none => rfl
    | some direct => exact composeReport_direct hs hd
  have hlen := toNat_frameStride hs
  have hlt := (UInt32.ofNat (toUsize size.width * 4)).toNat_lt_size
  unfold composeLiveCpuFrameRef
  dsimp only
  rw [if_neg (not_or.mpr hpos), Usize.checkedMul_eq hstride]
  dsimp only
  rw [Usize.checkedMul_eq hbyteLen, Option.filter_some, if_pos (decide_eq_true hbytes)]
  dsimp only
  rw [if_neg (by omega), hreport]
  rfl

theorem composeLiveCpuFrameRef_error (hs : ¬ OutputSize size) :
    ∃ error, composeLiveCpuFrameRef size layers = .ok (.error error) := by
  obtain ⟨hstride, hbyteLen⟩ := outputSize_products size
  unfold composeLiveCpuFrameRef
  dsimp only
  split
  · exact ⟨.invalidOutputSize, rfl⟩
  · rename_i hpos
    have hbytes : ¬ toUsize size.width * 4 * toUsize size.height ≤ 64 * 1024 * 1024 :=
      fun hbytes => hs (outputSize_iff.mpr ⟨not_or.mp hpos, hbytes⟩)
    rw [Usize.checkedMul_eq hstride]
    dsimp only
    rw [Usize.checkedMul_eq hbyteLen, Option.filter_some, if_neg (by simpa using hbytes)]
    exact ⟨.outputTooLarge, rfl⟩

theorem pixel?_blankFrame {x y : ℕ} (hx : x < toUsize size.width) (hy : y < toUsize size.height) :
    pixel? (blankFrame (0 : UInt8) size).bytes (toUsize size.width * 4) x y =
      some [0, 0, 0, 0] := by
  have hrow := row_add_le (toUsize size.width * 4) (x * 4 + 4) hy (by omega)
  rw [Nat.mul_comm (toUsize size.height)] at hrow
  unfold pixel? Blit.slice? blankFrame
  rw [List.length_replicate, if_pos ⟨by omega, by omega⟩, List.drop_replicate, List.take_replicate,
    Nat.add_sub_cancel_left, min_eq_left (by omega)]
  rfl

/-- Every pixel of the frame is the pixel of the last well-formed layer that holds it, whatever the
layers are; the direct copy changes nothing; and nothing panics. -/
theorem composition_pixel_law (outputSize : Size) (layers : List (LiveCpuCompositionLayer UInt8)) :
    (∃ result, composeLiveCpuFrameRef outputSize layers = .ok result) ∧
      (OutputSize outputSize → ∃ report, composeLiveCpuFrameRef outputSize layers =
          .ok (.ok report) ∧
        FrameOf (toUsize outputSize.width) (toUsize outputSize.height) report.frame ∧
        (∀ x < toUsize outputSize.width, ∀ y < toUsize outputSize.height,
          pixel? report.frame.bytes report.frame.stride.toNat x y =
            match shownLayer? layers x y with
            | some layer => pixel? layer.buffer.bytes layer.buffer.stride.toNat
                ((x : ℤ) - layer.geometry.x.toInt).toNat ((y : ℤ) - layer.geometry.y.toInt).toNat
            | none => some [0, 0, 0, 0]) ∧
        composeReport outputSize report.frame.stride report.frame.bytes.length none layers =
          .ok report) := by
  refine ⟨?_, fun hs => ?_⟩
  · by_cases hs : OutputSize outputSize
    · exact ⟨_, composeLiveCpuFrameRef_ok hs⟩
    · obtain ⟨error, herror⟩ := composeLiveCpuFrameRef_error hs
      exact ⟨_, herror⟩
  · have hblank : FrameOf (toUsize outputSize.width) (toUsize outputSize.height)
        (blankFrame (0 : UInt8) outputSize) :=
      ⟨rfl, rfl, toNat_frameStride hs, by rw [blankFrame, List.length_replicate, Nat.mul_comm]⟩
    have hframe := frameOf_composeLayers hblank layers
    refine ⟨loopReport outputSize layers, composeLiveCpuFrameRef_ok hs, hframe, ?_, ?_⟩
    · intro x hx y hy
      change pixel? _ (composeLayers _ layers).1.stride.toNat x y = _
      rw [hframe.stride]
      refine (composeLayers_pixel? hblank layers hx hy).trans ?_
      cases shownLayer? layers x y with
      | none => exact pixel?_blankFrame hx hy
      | some layer => rfl
    · have hstride : (composeLayers (blankFrame 0 outputSize) layers).1.stride =
          UInt32.ofNat (toUsize outputSize.width * 4) := by
        rw [← hframe.stride, UInt32.ofNat_toNat]
      change composeReport _ (composeLayers _ layers).1.stride
        (composeLayers _ layers).1.bytes.length none layers = _
      rw [hstride, hframe.bytes, Nat.mul_comm (toUsize outputSize.height)]
      exact composeReport_loop outputSize layers

/-- A layer of one color, larger than its buffer, and another over its left half. -/
def overlappingLayers : List (LiveCpuCompositionLayer UInt8) :=
  [⟨⟨0, 0, 9, 1⟩, 1, ⟨2, 1⟩, 8, liveRendererScanoutFormatXrgb8888, 1, List.replicate 8 5⟩,
    ⟨⟨-1, 0, 2, 1⟩, 2, ⟨2, 1⟩, 8, liveRendererScanoutFormatXrgb8888, 1, List.replicate 8 7⟩]

theorem composition_pixel_law_overlapping :
    ∃ report, composeLiveCpuFrameRef ⟨3, 1⟩ overlappingLayers = .ok (.ok report) ∧
      pixel? report.frame.bytes report.frame.stride.toNat 0 0 = some [7, 7, 7, 7] ∧
      pixel? report.frame.bytes report.frame.stride.toNat 1 0 = some [5, 5, 5, 5] ∧
      pixel? report.frame.bytes report.frame.stride.toNat 2 0 = some [0, 0, 0, 0] := by
  obtain ⟨report, hreport, -, hpixel, -⟩ := (composition_pixel_law ⟨3, 1⟩ overlappingLayers).2
    ⟨by decide, by decide, by decide⟩
  exact ⟨report, hreport, (hpixel 0 (by decide) 0 (by decide)).trans (by decide),
    (hpixel 1 (by decide) 0 (by decide)).trans (by decide),
    (hpixel 2 (by decide) 0 (by decide)).trans (by decide)⟩

end Report
end Machine

end Sophia.Renderer
