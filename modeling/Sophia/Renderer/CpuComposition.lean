import Mathlib.Data.List.Induction
import Sophia.Lib.Blit
import Sophia.Protocol

/-! The software renderer: CPU layers copied into one frame, later layers over earlier ones.
Composition never looks at a byte, so the bytes are of any type. -/
namespace Sophia.Renderer

open Protocol

def liveRendererScanoutFormatXrgb8888 : UInt32 := 875713112

structure LiveCpuBufferSource (β : Type) where
  handle : UInt64
  size : Size
  stride : UInt32
  format : UInt32
  generation : UInt64
  bytes : List β

structure LiveCpuCompositionLayer (β : Type) where
  geometry : Rect
  buffer : LiveCpuBufferSource β

structure LiveCpuComposedFrame (β : Type) where
  size : Size
  stride : UInt32
  format : UInt32
  bytes : List β

inductive LiveCpuCompositionError where
  | invalidOutputSize
  | outputTooLarge
  deriving DecidableEq

variable {β γ : Type}

/-- `usize::try_from(x).unwrap_or(0)`. -/
def toUsize (x : Int32) : ℕ := x.toInt.toNat

/-- `x.saturating_neg()`, read as an integer. -/
def saturatingNeg (x : Int32) : ℤ := min (-x.toInt) (2 ^ 31 - 1)

/-- How much of a layer is copied along one axis. -/
def copyExtent (position extent buffer : Int32) (frame : ℕ) : ℕ :=
  min (min (toUsize extent - (saturatingNeg position).toNat)
    (toUsize buffer - (saturatingNeg position).toNat)) (frame - toUsize position)

/-- The part of a layer that is copied, in the coordinates of the buffer and of the frame. -/
structure CopyWindow where
  sourceX : ℕ
  sourceY : ℕ
  targetX : ℕ
  targetY : ℕ
  width : ℕ
  height : ℕ

-- The source saturates and checks in usize: the operands come from i32 and u32 values, so no
-- product or sum below reaches 2^64.
def copyWindow? (frameSize : Size) (layer : LiveCpuCompositionLayer β) : Option CopyWindow :=
  let sourceWidth := toUsize layer.buffer.size.width
  let sourceHeight := toUsize layer.buffer.size.height
  let sourceStride := layer.buffer.stride.toNat
  let sourceX := (saturatingNeg layer.geometry.x).toNat
  let sourceY := (saturatingNeg layer.geometry.y).toNat
  let targetX := toUsize layer.geometry.x
  let targetY := toUsize layer.geometry.y
  let copyWidth := copyExtent layer.geometry.x layer.geometry.width layer.buffer.size.width
    (toUsize frameSize.width)
  let copyHeight := copyExtent layer.geometry.y layer.geometry.height layer.buffer.size.height
    (toUsize frameSize.height)
  if layer.buffer.format ≠ liveRendererScanoutFormatXrgb8888 ∨ layer.geometry.width ≤ 0 ∨
      layer.geometry.height ≤ 0 ∨ layer.buffer.size.width ≤ 0 ∨ layer.buffer.size.height ≤ 0 then
    none
  else if sourceStride < sourceWidth * 4 ∨
      layer.buffer.bytes.length < sourceStride * sourceHeight then none
  else if sourceWidth ≤ sourceX ∨ sourceHeight ≤ sourceY ∨ toUsize frameSize.width ≤ targetX ∨
      toUsize frameSize.height ≤ targetY then none
  else if copyWidth = 0 ∨ copyHeight = 0 then none
  else some ⟨sourceX, sourceY, targetX, targetY, copyWidth, copyHeight⟩

def composeLayer (frame : LiveCpuComposedFrame β) (layer : LiveCpuCompositionLayer β) :
    LiveCpuComposedFrame β × Bool :=
  match copyWindow? frame.size layer with
  | none => (frame, false)
  | some w =>
    let copied := Blit.copyRows layer.buffer.bytes frame.bytes (w.width * 4)
      (fun row => (w.sourceY + row) * layer.buffer.stride.toNat + w.sourceX * 4)
      (fun row => (w.targetY + row) * frame.stride.toNat + w.targetX * 4) w.height
    ({ frame with bytes := copied.1 }, copied.2)

/-- The single layer that already is the frame. -/
def directLayer? (outputSize : Size) (frameStride : UInt32) (byteLen : ℕ) :
    List (LiveCpuCompositionLayer β) → Option (LiveCpuCompositionLayer β)
  | [layer] =>
    if layer.geometry = ⟨0, 0, outputSize.width, outputSize.height⟩ ∧
        layer.buffer.size = outputSize ∧ layer.buffer.stride = frameStride ∧
        layer.buffer.format = liveRendererScanoutFormatXrgb8888 ∧
        layer.buffer.bytes.length = byteLen then some layer
    else none
  | _ => none

def composeLayers (frame : LiveCpuComposedFrame β) (layers : List (LiveCpuCompositionLayer β)) :
    LiveCpuComposedFrame β × ℕ :=
  layers.foldl (fun (frame, composed) layer =>
    let (frame, copied) := composeLayer frame layer
    (frame, if copied then composed + 1 else composed)) (frame, 0)

/-- The frame before the cursor is drawn, and the number of layers composed. -/
def composeLiveCpuFrame (blank : β) (outputSize : Size) (layers : List (LiveCpuCompositionLayer β)) :
    Except LiveCpuCompositionError (LiveCpuComposedFrame β × ℕ) :=
  if outputSize.width ≤ 0 ∨ outputSize.height ≤ 0 then .error .invalidOutputSize
  else
    let stride := toUsize outputSize.width * 4
    let byteLen := stride * toUsize outputSize.height
    if 64 * 1024 * 1024 < byteLen then .error .outputTooLarge
    else
      let frameStride := UInt32.ofNat stride
      let frame (bytes : List β) : LiveCpuComposedFrame β :=
        ⟨outputSize, frameStride, liveRendererScanoutFormatXrgb8888, bytes⟩
      match directLayer? outputSize frameStride byteLen layers with
      | some layer => .ok (frame layer.buffer.bytes, 1)
      | none => .ok (composeLayers (frame (List.replicate byteLen blank)) layers)

/-- The pixel lies in the rectangle. -/
def Covers (r : Rect) (x y : ℕ) : Prop :=
  r.x.toInt ≤ x ∧ (x : ℤ) < r.x.toInt + r.width.toInt ∧
    r.y.toInt ≤ y ∧ (y : ℤ) < r.y.toInt + r.height.toInt

instance (r : Rect) (x y : ℕ) : Decidable (Covers r x y) :=
  inferInstanceAs (Decidable (_ ∧ _ ∧ _ ∧ _))

/-- A layer in the format of the frame whose buffer is whole and as large as its geometry. -/
structure Composable (layer : LiveCpuCompositionLayer β) : Prop where
  format : layer.buffer.format = liveRendererScanoutFormatXrgb8888
  width_pos : 0 < layer.geometry.width.toInt
  height_pos : 0 < layer.geometry.height.toInt
  width_le : layer.geometry.width.toInt ≤ layer.buffer.size.width.toInt
  height_le : layer.geometry.height.toInt ≤ layer.buffer.size.height.toInt
  stride : toUsize layer.buffer.size.width * 4 ≤ layer.buffer.stride.toNat
  bytes : layer.buffer.stride.toNat * toUsize layer.buffer.size.height ≤ layer.buffer.bytes.length

/-- A frame of the given size, with all its bytes. -/
structure FrameOf (w h : ℕ) (frame : LiveCpuComposedFrame β) : Prop where
  width : toUsize frame.size.width = w
  height : toUsize frame.size.height = h
  stride : frame.stride.toNat = w * 4
  bytes : frame.bytes.length = h * (w * 4)

section Pixel

variable {frame : LiveCpuComposedFrame β} {layer : LiveCpuCompositionLayer β} {w h x y k : ℕ}

/-- Bytes of an earlier row come before the next row starts. -/
theorem row_add_lt (stride a : ℕ) {row next : ℕ} (hrow : row < next) (ha : a < stride) :
    row * stride + a < next * stride :=
  calc row * stride + a < row * stride + stride := by omega
    _ = (row + 1) * stride := (Nat.succ_mul row stride).symm
    _ ≤ next * stride := Nat.mul_le_mul_right stride hrow

theorem row_add_le (stride a : ℕ) {row rows : ℕ} (hrow : row < rows) (ha : a ≤ stride) :
    row * stride + a ≤ rows * stride :=
  calc row * stride + a ≤ row * stride + stride := by omega
    _ = (row + 1) * stride := (Nat.succ_mul row stride).symm
    _ ≤ rows * stride := Nat.mul_le_mul_right stride hrow

/-- Where the window of a composable layer lies: it is there exactly when a pixel is covered, and
then it covers the pixels of the layer's geometry that are in the frame. -/
structure WindowOf (w h : ℕ) (r : Rect) (window : CopyWindow) : Prop where
  sourceX : (window.sourceX : ℤ) = max (-r.x.toInt) 0
  sourceY : (window.sourceY : ℤ) = max (-r.y.toInt) 0
  targetX : (window.targetX : ℤ) = max r.x.toInt 0
  targetY : (window.targetY : ℤ) = max r.y.toInt 0
  right : ((window.targetX + window.width : ℕ) : ℤ) = min (r.x.toInt + r.width.toInt) w
  bottom : ((window.targetY + window.height : ℕ) : ℤ) = min (r.y.toInt + r.height.toInt) h

section Axis

variable {position extent buffer : Int32} {limit : ℕ}

theorem axis_source (hin : (saturatingNeg position).toNat < toUsize buffer) :
    ((saturatingNeg position).toNat : ℤ) = max (-position.toInt) 0 := by
  have hb := Int32.toInt_lt buffer
  simp only [toUsize, saturatingNeg] at hin ⊢
  omega

theorem axis_target : (toUsize position : ℤ) = max position.toInt 0 := by
  simp only [toUsize]
  omega

/-- What is copied ends where the layer or the frame ends. -/
theorem axis_end (hle : extent.toInt ≤ buffer.toInt)
    (hin : (saturatingNeg position).toNat < toUsize buffer)
    (hpos : copyExtent position extent buffer limit ≠ 0) :
    ((toUsize position + copyExtent position extent buffer limit : ℕ) : ℤ) =
      min (position.toInt + extent.toInt) limit := by
  have hs := axis_source hin
  have hle' : toUsize extent ≤ toUsize buffer := by
    simp only [toUsize]
    omega
  rw [copyExtent, Nat.min_eq_left (Nat.sub_le_sub_right hle' _)] at hpos ⊢
  have hin' : (saturatingNeg position).toNat < toUsize extent := by omega
  have hlimit : toUsize position + (limit - toUsize position) = limit := by omega
  -- The layer ends as far from its position as its extent is long.
  have hend : ((toUsize position + (toUsize extent - (saturatingNeg position).toNat) : ℕ) : ℤ) =
      position.toInt + extent.toInt := by
    have htarget : (toUsize position : ℤ) = max position.toInt 0 := axis_target
    have hextent : (toUsize extent : ℤ) = extent.toInt := by
      simp only [toUsize] at hin' ⊢
      omega
    omega
  rw [← Nat.add_min_add_left, hlimit, ← hend]
  omega

/-- Along one axis, a covered pixel leaves something to copy. -/
theorem axis_of_covers {x : ℕ} (hle : extent.toInt ≤ buffer.toInt) (hx : x < limit)
    (hlow : position.toInt ≤ x) (hhigh : (x : ℤ) < position.toInt + extent.toInt) :
    (saturatingNeg position).toNat < toUsize buffer ∧ toUsize position < limit ∧
      copyExtent position extent buffer limit ≠ 0 := by
  have hin : (saturatingNeg position).toNat < toUsize buffer := by
    simp only [toUsize, saturatingNeg]
    omega
  have hs := axis_source hin
  refine ⟨hin, ?_, ?_⟩
  · simp only [toUsize]
    omega
  · simp only [copyExtent, toUsize] at hin ⊢
    omega

end Axis

theorem windowOf_copyWindow? (hl : Composable layer) {size : Size} {window : CopyWindow}
    (he : copyWindow? size layer = some window) :
    WindowOf (toUsize size.width) (toUsize size.height) layer.geometry window := by
  unfold copyWindow? at he
  dsimp only at he
  split at he
  · cases he
  split at he
  · cases he
  split at he
  · cases he
  split at he
  · cases he
  rename_i hin hpos
  cases he
  obtain ⟨hinx, hiny, -, -⟩ := by simpa only [not_or, Nat.not_le] using hin
  obtain ⟨hposx, hposy⟩ := not_or.mp hpos
  exact ⟨axis_source hinx, axis_source hiny, axis_target, axis_target,
    axis_end hl.width_le hinx hposx, axis_end hl.height_le hiny hposy⟩

theorem copyWindow?_of_covers (hl : Composable layer) {size : Size}
    (hx : x < toUsize size.width) (hy : y < toUsize size.height)
    (hc : Covers layer.geometry x y) : ∃ window, copyWindow? size layer = some window := by
  obtain ⟨hx₁, hx₂, hy₁, hy₂⟩ := hc
  obtain ⟨hinx, htx, hposx⟩ := axis_of_covers hl.width_le hx hx₁ hx₂
  obtain ⟨hiny, hty, hposy⟩ := axis_of_covers hl.height_le hy hy₁ hy₂
  obtain ⟨hf, hw, hh, hbw, hbh, hs, hb⟩ := hl
  have hpos : ¬ (layer.buffer.format ≠ liveRendererScanoutFormatXrgb8888 ∨
      layer.geometry.width ≤ 0 ∨ layer.geometry.height ≤ 0 ∨ layer.buffer.size.width ≤ 0 ∨
      layer.buffer.size.height ≤ 0) := by
    simp only [hf, ne_eq, not_true_eq_false, false_or, Int32.le_iff_toInt_le, Int32.toInt_zero]
    omega
  unfold copyWindow?
  dsimp only
  rw [if_neg hpos, if_neg (by omega), if_neg (by omega), if_neg (not_or.mpr ⟨hposx, hposy⟩)]
  exact ⟨_, rfl⟩

section Window

variable {r : Rect} {window : CopyWindow}

/-- The window stays within the buffer and within the frame. -/
theorem WindowOf.fits (hat : WindowOf w h r window) {size : Size}
    (hw : r.width.toInt ≤ size.width.toInt) (hh : r.height.toInt ≤ size.height.toInt) :
    window.sourceX + window.width ≤ toUsize size.width ∧
      window.sourceY + window.height ≤ toUsize size.height ∧
      window.targetX + window.width ≤ w ∧ window.targetY + window.height ≤ h := by
  obtain ⟨hsx, hsy, htx, hty, hright, hbottom⟩ := hat
  simp only [toUsize]
  refine ⟨?_, ?_, ?_, ?_⟩
  · clear hsy hty hbottom hh
    omega
  · clear hsx htx hright hw
    omega
  · omega
  · omega

/-- A covered pixel lies in the window, at the same place in the buffer as in the geometry. -/
theorem WindowOf.pixel (hat : WindowOf w h r window) (hx : x < w) (hy : y < h)
    (hc : Covers r x y) :
    window.targetX ≤ x ∧ x < window.targetX + window.width ∧ window.targetY ≤ y ∧
      y < window.targetY + window.height ∧
      window.sourceX + (x - window.targetX) = ((x : ℤ) - r.x.toInt).toNat ∧
      window.sourceY + (y - window.targetY) = ((y : ℤ) - r.y.toInt).toNat := by
  obtain ⟨hsx, hsy, htx, hty, hright, hbottom⟩ := hat
  obtain ⟨hx₁, hx₂, hy₁, hy₂⟩ := hc
  refine ⟨by omega, by omega, by omega, by omega, ?_, ?_⟩
  · clear hsy hty hbottom hy₁ hy₂
    omega
  · clear hsx htx hright hx₁ hx₂
    omega

/-- A pixel of the window is covered. -/
theorem WindowOf.covers (hat : WindowOf w h r window) (hx₁ : window.targetX ≤ x)
    (hx₂ : x < window.targetX + window.width) (hy₁ : window.targetY ≤ y)
    (hy₂ : y < window.targetY + window.height) : Covers r x y := by
  obtain ⟨hsx, hsy, htx, hty, hright, hbottom⟩ := hat
  refine ⟨?_, ?_, ?_, ?_⟩ <;> omega

end Window

theorem frameOf_composeLayer (hf : FrameOf w h frame) (layer : LiveCpuCompositionLayer β) :
    FrameOf w h (composeLayer frame layer).1 := by
  unfold composeLayer
  split
  · exact hf
  · refine ⟨hf.width, hf.height, hf.stride, ?_⟩
    rw [← hf.bytes]
    exact Blit.length_copyRows

/-- Where the buffer of a layer holds the pixel of the frame. -/
def sourceOffset (layer : LiveCpuCompositionLayer β) (x y : ℕ) : ℕ :=
  ((y : ℤ) - layer.geometry.y.toInt).toNat * layer.buffer.stride.toNat +
    ((x : ℤ) - layer.geometry.x.toInt).toNat * 4

/-- A covered pixel takes its four bytes from the buffer of the layer. -/
theorem composeLayer_covered (hf : FrameOf w h frame) (hl : Composable layer) (hx : x < w)
    (hy : y < h) (hk : k < 4) (hc : Covers layer.geometry x y) :
    (composeLayer frame layer).1.bytes[y * (w * 4) + (x * 4 + k)]? =
      layer.buffer.bytes[sourceOffset layer x y + k]? := by
  obtain ⟨window, hwin⟩ := copyWindow?_of_covers hl (hf.width ▸ hx) (hf.height ▸ hy) hc
  have hat := windowOf_copyWindow? hl hwin
  rw [hf.width, hf.height] at hat
  obtain ⟨hfitx, hfity, hw, hh⟩ := hat.fits hl.width_le hl.height_le
  obtain ⟨hx₁, hx₂, hy₁, hy₂, hcol, hrow⟩ := hat.pixel hx hy hc
  have hstride := hl.stride
  -- The pixel is in row `y - targetY` of the window, `x - targetX` pixels from its left edge.
  have hy : window.targetY + (y - window.targetY) = y := by omega
  have hj : (x - window.targetX) * 4 + k < window.width * 4 := by omega
  have hhit := Blit.copyRows_hit layer.buffer.bytes frame.bytes (window.width * 4)
    (fun row => (window.sourceY + row) * layer.buffer.stride.toNat + window.sourceX * 4)
    (fun row => (window.targetY + row) * frame.stride.toNat + window.targetX * 4) window.height
    ?_ ?_ ?_ (show y - window.targetY < window.height by omega) hj
  · simp only [composeLayer, hwin, hf.stride] at hhit ⊢
    rw [hrow, hy] at hhit
    have hdst : y * (w * 4) + window.targetX * 4 + ((x - window.targetX) * 4 + k) =
        y * (w * 4) + (x * 4 + k) := by omega
    have hsrc : ((y : ℤ) - layer.geometry.y.toInt).toNat * layer.buffer.stride.toNat +
        window.sourceX * 4 + ((x - window.targetX) * 4 + k) = sourceOffset layer x y + k := by
      rw [sourceOffset, ← hcol]
      omega
    rwa [hdst, hsrc] at hhit
  · intro row hlt
    have hle := row_add_le layer.buffer.stride.toNat (window.sourceX * 4 + window.width * 4)
      (show window.sourceY + row < toUsize layer.buffer.size.height by omega) (by omega)
    have hbytes := hl.bytes
    rw [Nat.mul_comm] at hbytes
    omega
  · intro row hlt
    have hle := row_add_le (w * 4) (window.targetX * 4 + window.width * 4)
      (show window.targetY + row < h by omega) (by omega)
    rw [hf.bytes, hf.stride]
    omega
  · intro row row' hlt hrow'
    have hle := row_add_le (w * 4) (window.width * 4)
      (show window.targetY + row < window.targetY + row' by omega) (by omega)
    rw [hf.stride]
    omega

/-- A pixel that is not covered keeps its four bytes. -/
theorem composeLayer_uncovered (hf : FrameOf w h frame) (hl : Composable layer) (hx : x < w)
    (hk : k < 4) (hc : ¬ Covers layer.geometry x y) :
    (composeLayer frame layer).1.bytes[y * (w * 4) + (x * 4 + k)]? =
      frame.bytes[y * (w * 4) + (x * 4 + k)]? := by
  unfold composeLayer
  split
  · rfl
  rename_i window hwin
  have hat := windowOf_copyWindow? hl hwin
  rw [hf.width, hf.height] at hat
  obtain ⟨-, -, hw, hh⟩ := hat.fits hl.width_le hl.height_le
  refine Blit.copyRows_miss ?_
  intro row hrow
  rw [hf.stride]
  rcases Nat.lt_trichotomy y (window.targetY + row) with hlt | heq | hgt
  · have hbefore := row_add_lt (w * 4) (x * 4 + k) hlt (by omega)
    omega
  · have hout : ¬ (window.targetX ≤ x ∧ x < window.targetX + window.width) :=
      fun hx => hc (hat.covers hx.1 hx.2 (by omega) (by omega))
    rw [← heq]
    omega
  · have hafter := row_add_le (w * 4) (window.targetX * 4 + window.width * 4) hgt (by omega)
    omega

/-- The last layer that covers the pixel. -/
def topLayer? (layers : List (LiveCpuCompositionLayer β)) (x y : ℕ) :
    Option (LiveCpuCompositionLayer β) :=
  layers.reverse.find? fun layer => Covers layer.geometry x y

theorem composeLayers_snoc (frame : LiveCpuComposedFrame β)
    (layers : List (LiveCpuCompositionLayer β)) (layer : LiveCpuCompositionLayer β) :
    (composeLayers frame (layers ++ [layer])).1 =
      (composeLayer (composeLayers frame layers).1 layer).1 := by
  simp only [composeLayers, List.foldl_append, List.foldl_cons, List.foldl_nil]

theorem frameOf_composeLayers (hf : FrameOf w h frame) (layers : List (LiveCpuCompositionLayer β)) :
    FrameOf w h (composeLayers frame layers).1 := by
  induction layers using List.reverseRecOn with
  | nil => exact hf
  | append_singleton layers layer ih =>
    rw [composeLayers_snoc]
    exact frameOf_composeLayer ih layer

/-- Each pixel shows the last layer that covers it. -/
theorem composeLayers_pixel (hf : FrameOf w h frame) {layers : List (LiveCpuCompositionLayer β)}
    (hl : ∀ layer ∈ layers, Composable layer) (hx : x < w) (hy : y < h) (hk : k < 4) :
    (composeLayers frame layers).1.bytes[y * (w * 4) + (x * 4 + k)]? =
      match topLayer? layers x y with
      | some layer => layer.buffer.bytes[sourceOffset layer x y + k]?
      | none => frame.bytes[y * (w * 4) + (x * 4 + k)]? := by
  induction layers using List.reverseRecOn with
  | nil => rfl
  | append_singleton layers layer ih =>
    have ih := ih fun l hm => hl l (List.mem_append_left _ hm)
    have hlast := hl layer (by simp)
    have hframe := frameOf_composeLayers hf layers
    rw [composeLayers_snoc]
    simp only [topLayer?, List.reverse_append, List.reverse_cons, List.reverse_nil,
      List.nil_append, List.cons_append, List.find?_cons]
    by_cases hc : Covers layer.geometry x y
    · simp only [hc, decide_true]
      exact composeLayer_covered hframe hlast hx hy hk hc
    · simp only [hc, decide_false]
      rw [composeLayer_uncovered hframe hlast hx hk hc, ih]
      rfl

/-- An output that the renderer accepts. -/
structure OutputSize (size : Size) : Prop where
  width : 0 < size.width.toInt
  height : 0 < size.height.toInt
  bytes : toUsize size.width * 4 * toUsize size.height ≤ 64 * 1024 * 1024

theorem toNat_frameStride {size : Size} (hs : OutputSize size) :
    (UInt32.ofNat (toUsize size.width * 4)).toNat = toUsize size.width * 4 := by
  have hheight : 1 ≤ toUsize size.height := by
    have := hs.height
    simp only [toUsize]
    omega
  have hle : toUsize size.width * 4 ≤ toUsize size.width * 4 * toUsize size.height :=
    Nat.le_mul_of_pos_right _ hheight
  have hbytes := hs.bytes
  rw [UInt32.toNat_ofNat']
  omega

theorem directLayer?_eq_some {size : Size} {stride : UInt32} {byteLen : ℕ}
    {layers : List (LiveCpuCompositionLayer β)} (he : directLayer? size stride byteLen layers = some layer) :
    layers = [layer] ∧ layer.geometry = ⟨0, 0, size.width, size.height⟩ ∧
      layer.buffer.size = size ∧ layer.buffer.stride = stride ∧
      layer.buffer.format = liveRendererScanoutFormatXrgb8888 ∧
      layer.buffer.bytes.length = byteLen := by
  unfold directLayer? at he
  split at he
  · split at he
    · rename_i hd
      cases he
      exact ⟨rfl, hd⟩
    · cases he
  · cases he

/-- The frame composition starts from. -/
def blankFrame (blank : β) (size : Size) : LiveCpuComposedFrame β :=
  ⟨size, UInt32.ofNat (toUsize size.width * 4), liveRendererScanoutFormatXrgb8888,
    List.replicate (toUsize size.width * 4 * toUsize size.height) blank⟩

/-- Composing succeeds on every accepted output, and each pixel shows the last layer that covers
it, or nothing. -/
theorem composeLiveCpuFrame_pixel (blank : β) {size : Size} (hs : OutputSize size)
    {layers : List (LiveCpuCompositionLayer β)} (hl : ∀ layer ∈ layers, Composable layer) :
    ∃ frame composed, composeLiveCpuFrame blank size layers = .ok (frame, composed) ∧
      FrameOf (toUsize size.width) (toUsize size.height) frame ∧
      ∀ x < toUsize size.width, ∀ y < toUsize size.height, ∀ k < 4,
        frame.bytes[y * (toUsize size.width * 4) + (x * 4 + k)]? =
          match topLayer? layers x y with
          | some layer => layer.buffer.bytes[sourceOffset layer x y + k]?
          | none => some blank := by
  have hstride := toNat_frameStride hs
  have hpos : ¬ (size.width ≤ 0 ∨ size.height ≤ 0) := by
    have hw := hs.width
    have hh := hs.height
    simp only [Int32.le_iff_toInt_le, Int32.toInt_zero]
    omega
  unfold composeLiveCpuFrame
  rw [if_neg hpos]
  dsimp only
  rw [if_neg (Nat.not_lt.mpr hs.bytes)]
  cases hd : directLayer? size (UInt32.ofNat (toUsize size.width * 4))
      (toUsize size.width * 4 * toUsize size.height) layers with
  | some layer =>
    obtain ⟨rfl, hgeometry, -, hlstride, -, hbytes⟩ := directLayer?_eq_some hd
    refine ⟨_, _, rfl, ⟨rfl, rfl, hstride, hbytes.trans (Nat.mul_comm _ _)⟩, ?_⟩
    intro x hx y hy k hk
    have hc : Covers layer.geometry x y := by
      simp only [toUsize] at hx hy
      simp only [Covers, hgeometry, Int32.toInt_zero]
      omega
    have htop : topLayer? [layer] x y = some layer := by simp [topLayer?, hc]
    rw [htop]
    simp only [sourceOffset, hgeometry, hlstride, hstride, Int32.toInt_zero, Int.sub_zero,
      Int.toNat_natCast, Nat.add_assoc]
  | none =>
    have hf : FrameOf (toUsize size.width) (toUsize size.height) (blankFrame blank size) :=
      ⟨rfl, rfl, hstride, by rw [blankFrame, List.length_replicate, Nat.mul_comm]⟩
    refine ⟨(composeLayers (blankFrame blank size) layers).1,
      (composeLayers (blankFrame blank size) layers).2, rfl, frameOf_composeLayers hf layers, ?_⟩
    intro x hx y hy k hk
    rw [composeLayers_pixel hf hl hx hy hk]
    have hlt : y * (toUsize size.width * 4) + (x * 4 + k) <
        toUsize size.width * 4 * toUsize size.height := by
      rw [Nat.mul_comm (toUsize size.width * 4)]
      exact row_add_lt _ _ hy (by omega)
    split
    · rfl
    · exact List.getElem?_replicate_of_lt hlt

end Pixel

section Map

variable (f : β → γ)

def LiveCpuCompositionLayer.mapBytes (layer : LiveCpuCompositionLayer β) :
    LiveCpuCompositionLayer γ :=
  ⟨layer.geometry, layer.buffer.handle, layer.buffer.size, layer.buffer.stride,
    layer.buffer.format, layer.buffer.generation, layer.buffer.bytes.map f⟩

def LiveCpuComposedFrame.mapBytes (frame : LiveCpuComposedFrame β) : LiveCpuComposedFrame γ :=
  ⟨frame.size, frame.stride, frame.format, frame.bytes.map f⟩

theorem composeLayer_map (frame : LiveCpuComposedFrame β) (layer : LiveCpuCompositionLayer β) :
    composeLayer (frame.mapBytes f) (layer.mapBytes f) =
      ((composeLayer frame layer).1.mapBytes f, (composeLayer frame layer).2) := by
  have hw : copyWindow? (frame.mapBytes f).size (layer.mapBytes f) = copyWindow? frame.size layer := by
    simp only [copyWindow?, LiveCpuCompositionLayer.mapBytes, LiveCpuComposedFrame.mapBytes,
      List.length_map]
    rfl
  unfold composeLayer
  rw [hw]
  cases copyWindow? frame.size layer with
  | none => rfl
  | some window =>
    simp only [LiveCpuCompositionLayer.mapBytes, LiveCpuComposedFrame.mapBytes, Blit.copyRows_map]

theorem composeLayers_map (frame : LiveCpuComposedFrame β)
    (layers : List (LiveCpuCompositionLayer β)) :
    composeLayers (frame.mapBytes f) (layers.map (·.mapBytes f)) =
      ((composeLayers frame layers).1.mapBytes f, (composeLayers frame layers).2) := by
  induction layers using List.reverseRecOn with
  | nil => rfl
  | append_singleton layers layer ih =>
    simp only [composeLayers, List.map_append, List.map_cons, List.map_nil, List.foldl_append,
      List.foldl_cons, List.foldl_nil] at ih ⊢
    rw [ih]
    simp only [composeLayer_map]

/-- Composition looks at no byte: it commutes with any change of the bytes. -/
theorem composeLiveCpuFrame_map (blank : β) (size : Size)
    (layers : List (LiveCpuCompositionLayer β)) :
    composeLiveCpuFrame (f blank) size (layers.map (·.mapBytes f)) =
      (composeLiveCpuFrame blank size layers).map fun (frame, composed) =>
        (frame.mapBytes f, composed) := by
  have hd (stride : UInt32) (byteLen : ℕ) :
      directLayer? size stride byteLen (layers.map (·.mapBytes f)) =
        (directLayer? size stride byteLen layers).map (·.mapBytes f) := by
    rcases layers with _ | ⟨layer, _ | ⟨_, _⟩⟩
    · rfl
    · simp only [List.map_cons, List.map_nil, directLayer?, LiveCpuCompositionLayer.mapBytes,
        List.length_map]
      split <;> rfl
    · rfl
  unfold composeLiveCpuFrame
  split
  · rfl
  dsimp only
  split
  · rfl
  rw [hd]
  cases directLayer? size (UInt32.ofNat (toUsize size.width * 4))
      (toUsize size.width * 4 * toUsize size.height) layers with
  | some layer => rfl
  | none =>
    have hmap := composeLayers_map f (blankFrame blank size) layers
    simp only [LiveCpuComposedFrame.mapBytes, blankFrame, List.map_replicate] at hmap
    exact congrArg Except.ok hmap

end Map
end Sophia.Renderer
