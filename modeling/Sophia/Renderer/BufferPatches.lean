import Sophia.Lib.Run
import Sophia.Lib.Usize
import Sophia.Renderer.CpuScene

/-! The CPU buffer registry as the renderer stores it: patches written row by row, with an error
exit inside the loop. No row of a registered buffer takes it. -/
namespace Sophia.Renderer

open Protocol Std

variable {β : Type}

/-- Why an update stops. -/
inductive UpdateStop where
  | error (error : LiveCpuBufferRegistryError)
  | panic (panic : Usize.Panic)
  deriving DecidableEq

/-- `usize::try_from` of an `i32`. -/
def usizeOf? (x : Int32) : Option ℕ := if x < 0 then none else some (toUsize x)

/-- `valid_buffer` in the arithmetic of the machine. -/
def validBufferUsize (buffer : LiveCpuBufferSource β) : Bool :=
  match usizeOf? buffer.size.width, usizeOf? buffer.size.height with
  | some width, some height =>
    match Usize.checkedMul width 4, Usize.checkedMul buffer.stride.toNat height with
    | some rowBytes, some byteLen =>
      0 < width && 0 < height && rowBytes ≤ buffer.stride.toNat && byteLen ≤ 64 * 1024 * 1024 &&
        buffer.bytes.length = byteLen
    | _, _ => false
  | _, _ => false

/-- Where the rows of a patch go. -/
structure PatchRows where
  x : ℕ
  y : ℕ
  height : ℕ
  stride : ℕ
  rowBytes : ℕ

/-- What `apply_patch` checks before it writes. -/
def checkPatch (buffer : LiveCpuBufferSource β) (patch : LiveCpuBufferPatch β) :
    Except LiveCpuBufferRegistryError PatchRows := do
  if buffer.size ≠ patch.size ∨ buffer.stride ≠ patch.stride ∨ buffer.format ≠ patch.format ∨
      patch.generation < buffer.generation then throw .patchMetadataMismatch
  let some x := usizeOf? patch.rect.x | throw .invalidPatchBounds
  let some y := usizeOf? patch.rect.y | throw .invalidPatchBounds
  let some width := usizeOf? patch.rect.width | throw .invalidPatchBounds
  let some height := usizeOf? patch.rect.height | throw .invalidPatchBounds
  let some bufferWidth := usizeOf? buffer.size.width | throw .invalidPatchBounds
  let some bufferHeight := usizeOf? buffer.size.height | throw .invalidPatchBounds
  let some rowBytes := Usize.checkedMul width 4 | throw .invalidPatchBounds
  let some expected := Usize.checkedMul rowBytes height | throw .invalidPatchBytes
  if width = 0 ∨ height = 0 ∨ (Usize.checkedAdd x width).all (bufferWidth < ·) ∨
      (Usize.checkedAdd y height).all (bufferHeight < ·) ∨ patch.bytes.length ≠ expected then
    throw (if patch.bytes.length ≠ expected then .invalidPatchBytes else .invalidPatchBounds)
  return ⟨x, y, height, buffer.stride.toNat, rowBytes⟩

/-- One turn of the loop. -/
def patchRow (source : List β) (rows : PatchRows) (bytes : List β) (row : ℕ) :
    Except UpdateStop (List β) := do
  let some start := Usize.checkedMul row rows.rowBytes | throw (.error .invalidPatchBounds)
  let some target := (Usize.checkedAdd rows.y row).bind fun row =>
      (Usize.checkedMul row rows.stride).bind fun offset =>
        Usize.checkedAdd offset (Usize.saturatingMul rows.x 4)
    | throw (.error .invalidPatchBounds)
  let some targetEnd := Usize.checkedAdd target rows.rowBytes | throw (.error .invalidPatchBounds)
  let some old := Blit.slice? bytes target targetEnd | throw (.error .invalidPatchBounds)
  let stop ← (Usize.add start rows.rowBytes).mapError .panic
  let some new := Blit.slice? source start stop | throw (.panic .outOfBounds)
  (Usize.copyFromSlice bytes target old new).mapError .panic

/-- `apply_patch` on the stored buffer, with what is written when it stops. -/
def writePatch (buffer : LiveCpuBufferSource β) (patch : LiveCpuBufferPatch β) :
    Except UpdateStop Unit × LiveCpuBufferSource β :=
  match checkPatch buffer patch with
  | .error error => (.error (.error error), buffer)
  | .ok rows =>
    match Run.tryEach (patchRow patch.bytes rows) (List.range rows.height) buffer.bytes with
    | (.error stop, bytes) => (.error stop, { buffer with bytes })
    | (.ok (), bytes) => (.ok (), { buffer with bytes, generation := patch.generation })

/-- The `buffers` of the registry. -/
abbrev StoredBuffers (β : Type) := ExtTreeMap UInt64 (LiveCpuBufferSource β)

def applyUpdate (buffers : StoredBuffers β) (update : LiveCpuBufferUpdate β) :
    Except UpdateStop Bool × StoredBuffers β :=
  if (buffers[update.handle]?).any fun current => update.generation < current.generation then
    (.ok false, buffers)
  else match update with
    | .replace buffer =>
      if validBufferUsize buffer then (.ok true, buffers.insert buffer.handle buffer)
      else (.error (.error .invalidBufferMetadata), buffers)
    | .patch patch => match buffers[patch.handle]? with
      | none => (.error (.error .missingPatchBase), buffers)
      | some buffer =>
        let written := writePatch buffer patch
        (written.1.map fun _ => true, buffers.insert patch.handle written.2)

section Checks

variable {buffer : LiveCpuBufferSource β} {patch : LiveCpuBufferPatch β}

theorem usizeOf?_of_nonneg {x : Int32} (h : 0 ≤ x.toInt) : usizeOf? x = some (toUsize x) := by
  unfold usizeOf?
  rw [if_neg (by rw [Int32.lt_iff_toInt_lt, Int32.toInt_zero]; omega)]

theorem usizeOf?_of_neg {x : Int32} (h : x < 0) : usizeOf? x = none := if_pos h

theorem toUsize_le (x : Int32) : toUsize x ≤ 2 ^ 31 - 1 := by
  have hx := Int32.toInt_lt x
  simp only [toUsize]
  omega

/-- The products of `valid_buffer` do not overflow. -/
theorem validBufferUsize_iff : validBufferUsize buffer = true ↔ validBuffer buffer := by
  have hwidth := toUsize_le buffer.size.width
  have hrow : toUsize buffer.size.width * 4 < Usize.bound := by
    unfold Usize.bound
    omega
  have hbytes : buffer.stride.toNat * toUsize buffer.size.height < Usize.bound := by
    have hproduct : buffer.stride.toNat * toUsize buffer.size.height ≤ 2 ^ 32 * (2 ^ 31 - 1) :=
      Nat.mul_le_mul (Nat.le_of_lt buffer.stride.toNat_lt) (toUsize_le _)
    unfold Usize.bound
    omega
  unfold validBufferUsize validBuffer
  by_cases hw : 0 ≤ buffer.size.width.toInt
  · by_cases hh : 0 ≤ buffer.size.height.toInt
    · have hw' : 0 < toUsize buffer.size.width ↔ 0 < buffer.size.width.toInt := by
        simp only [toUsize]
        omega
      have hh' : 0 < toUsize buffer.size.height ↔ 0 < buffer.size.height.toInt := by
        simp only [toUsize]
        omega
      simp only [usizeOf?_of_nonneg hw, usizeOf?_of_nonneg hh, Usize.checkedMul_eq hrow,
        Usize.checkedMul_eq hbytes, Bool.and_eq_true, decide_eq_true_eq, hw', hh', and_assoc]
    · rw [usizeOf?_of_nonneg hw,
        usizeOf?_of_neg (by rw [Int32.lt_iff_toInt_lt, Int32.toInt_zero]; omega)]
      simp only [Bool.false_eq_true, false_iff]
      omega
  · rw [usizeOf?_of_neg (by rw [Int32.lt_iff_toInt_lt, Int32.toInt_zero]; omega)]
    simp only [Bool.false_eq_true, false_iff]
    omega

/-- The patch is for this buffer, and its rectangle lies in it. -/
structure PatchFits (buffer : LiveCpuBufferSource β) (patch : LiveCpuBufferPatch β) : Prop where
  size : buffer.size = patch.size
  stride : buffer.stride = patch.stride
  format : buffer.format = patch.format
  generation : buffer.generation ≤ patch.generation
  x : 0 ≤ patch.rect.x.toInt
  y : 0 ≤ patch.rect.y.toInt
  width : 0 < patch.rect.width.toInt
  height : 0 < patch.rect.height.toInt
  right : toUsize patch.rect.x + toUsize patch.rect.width ≤ toUsize buffer.size.width
  bottom : toUsize patch.rect.y + toUsize patch.rect.height ≤ toUsize buffer.size.height
  bytes : patch.bytes.length = toUsize patch.rect.width * 4 * toUsize patch.rect.height

theorem applyPatch_eq_ok {patched : LiveCpuBufferSource β} :
    applyPatch buffer patch = .ok patched ↔
      PatchFits buffer patch ∧ patched = patchedBuffer buffer patch := by
  unfold applyPatch
  dsimp only
  constructor
  · intro h
    split at h
    · cases h
    split at h
    · cases h
    split at h
    · cases h
    rename_i hmeta hsign hbounds
    cases h
    simp only [not_or, ne_eq, Decidable.not_not, UInt64.not_lt, Int32.not_lt,
      Int32.le_iff_toInt_le, Int32.toInt_zero, Nat.not_lt] at hmeta hsign hbounds
    obtain ⟨hsize, hstride, hformat, hgeneration⟩ := hmeta
    obtain ⟨hx, hy, -, -⟩ := hsign
    obtain ⟨hw, hh, hright, hbottom, hbytes⟩ := hbounds
    simp only [toUsize] at hw hh
    exact ⟨⟨hsize, hstride, hformat, hgeneration, hx, hy, by omega, by omega, hright, hbottom,
      hbytes⟩, rfl⟩
  · rintro ⟨⟨hsize, hstride, hformat, hgeneration, hx, hy, hw, hh, hright, hbottom, hbytes⟩, rfl⟩
    have hpos : toUsize patch.rect.width ≠ 0 ∧ toUsize patch.rect.height ≠ 0 := by
      simp only [toUsize]
      omega
    rw [if_neg, if_neg, if_neg]
    · simp only [hbytes, not_true_eq_false, ne_eq, or_false]
      omega
    · simp only [Int32.lt_iff_toInt_lt, Int32.toInt_zero]
      omega
    · simpa [hsize, hstride, hformat] using hgeneration

theorem usizeOf?_cases (x : Int32) :
    (x < 0 ∧ usizeOf? x = none) ∨ (¬ x < 0 ∧ usizeOf? x = some (toUsize x)) := by
  unfold usizeOf?
  by_cases hx : x < 0
  · exact .inl ⟨hx, if_pos hx⟩
  · exact .inr ⟨hx, if_neg hx⟩

/-- None of the sums and products of the checks overflows, so they decide as the plain ones do. -/
theorem checkPatch_eq (hv : validBuffer buffer) :
    checkPatch buffer patch = (applyPatch buffer patch).map fun _ =>
      ⟨toUsize patch.rect.x, toUsize patch.rect.y, toUsize patch.rect.height,
        buffer.stride.toNat, toUsize patch.rect.width * 4⟩ := by
  obtain ⟨hbw, hbh, -, -, -⟩ := hv
  have hx := toUsize_le patch.rect.x
  have hy := toUsize_le patch.rect.y
  have hw := toUsize_le patch.rect.width
  have hh := toUsize_le patch.rect.height
  have hright : toUsize patch.rect.x + toUsize patch.rect.width < Usize.bound := by
    unfold Usize.bound
    omega
  have hbottom : toUsize patch.rect.y + toUsize patch.rect.height < Usize.bound := by
    unfold Usize.bound
    omega
  have hrow : toUsize patch.rect.width * 4 < Usize.bound := by
    unfold Usize.bound
    omega
  have hbytes : toUsize patch.rect.width * 4 * toUsize patch.rect.height < Usize.bound := by
    have hproduct : toUsize patch.rect.width * 4 * toUsize patch.rect.height ≤
        (2 ^ 31 - 1) * 4 * (2 ^ 31 - 1) := Nat.mul_le_mul (by omega) hh
    unfold Usize.bound
    omega
  unfold checkPatch applyPatch
  by_cases hmeta : buffer.size ≠ patch.size ∨ buffer.stride ≠ patch.stride ∨
      buffer.format ≠ patch.format ∨ patch.generation < buffer.generation
  · rw [if_pos hmeta, if_pos hmeta]
    rfl
  rw [if_neg hmeta, if_neg hmeta]
  rcases usizeOf?_cases patch.rect.x with ⟨hsign, he⟩ | ⟨hsx, hex⟩
  · rw [he, if_pos (.inl hsign)]
    rfl
  rcases usizeOf?_cases patch.rect.y with ⟨hsign, he⟩ | ⟨hsy, hey⟩
  · rw [hex, he, if_pos (.inr (.inl hsign))]
    rfl
  rcases usizeOf?_cases patch.rect.width with ⟨hsign, he⟩ | ⟨hsw, hew⟩
  · rw [hex, hey, he, if_pos (.inr (.inr (.inl hsign)))]
    rfl
  rcases usizeOf?_cases patch.rect.height with ⟨hsign, he⟩ | ⟨hsh, heh⟩
  · rw [hex, hey, hew, he, if_pos (.inr (.inr (.inr hsign)))]
    rfl
  rw [hex, hey, hew, heh, usizeOf?_of_nonneg (by omega), usizeOf?_of_nonneg (by omega),
    if_neg (by simp only [hsx, hsy, hsw, hsh, or_self, not_false_eq_true])]
  simp only [Usize.checkedMul_eq hrow, Usize.checkedMul_eq hbytes, Usize.checkedAdd_eq hright,
    Usize.checkedAdd_eq hbottom, Option.all_some, decide_eq_true_eq]
  split <;> rfl

end Checks

section Rows

variable {buffer : LiveCpuBufferSource β} {patch : LiveCpuBufferPatch β}

/-- A row whose two ranges are in bounds is copied. -/
theorem patchRow_eq {source bytes : List β} {rows : PatchRows} {row : ℕ}
    (hsource : row * rows.rowBytes + rows.rowBytes ≤ source.length)
    (htarget : (rows.y + row) * rows.stride + rows.x * 4 + rows.rowBytes ≤ bytes.length)
    (hsourceBound : source.length < Usize.bound) (htargetBound : bytes.length < Usize.bound)
    (hy : rows.y + row < Usize.bound) :
    patchRow source rows bytes row =
      .ok (Blit.splice bytes ((rows.y + row) * rows.stride + rows.x * 4)
        ((source.drop (row * rows.rowBytes)).take rows.rowBytes)) := by
  have hold : Blit.slice? bytes ((rows.y + row) * rows.stride + rows.x * 4)
      ((rows.y + row) * rows.stride + rows.x * 4 + rows.rowBytes) =
      some ((bytes.drop ((rows.y + row) * rows.stride + rows.x * 4)).take rows.rowBytes) := by
    unfold Blit.slice?
    rw [if_pos ⟨by omega, htarget⟩, Nat.add_sub_cancel_left]
  have hnew : Blit.slice? source (row * rows.rowBytes) (row * rows.rowBytes + rows.rowBytes) =
      some ((source.drop (row * rows.rowBytes)).take rows.rowBytes) := by
    unfold Blit.slice?
    rw [if_pos ⟨by omega, hsource⟩, Nat.add_sub_cancel_left]
  have hlength : ((source.drop (row * rows.rowBytes)).take rows.rowBytes).length =
      ((bytes.drop ((rows.y + row) * rows.stride + rows.x * 4)).take rows.rowBytes).length := by
    rw [Blit.length_row hsource, Blit.length_row htarget]
  unfold patchRow
  rw [Usize.checkedMul_eq (by omega), Usize.checkedAdd_eq hy]
  simp only [Option.bind_some]
  rw [Usize.checkedMul_eq (by omega)]
  simp only [Option.bind_some]
  rw [Usize.saturatingMul_eq (by omega), Usize.checkedAdd_eq (by omega)]
  simp only
  rw [Usize.checkedAdd_eq (by omega)]
  simp only [hold]
  rw [Usize.add_eq (by omega)]
  simp only [Except.mapError, bind, Except.bind, hnew, Usize.copyFromSlice, if_pos hlength]

/-- Where the rows of a patch that fits lie. -/
theorem PatchFits.rows (hf : PatchFits buffer patch) (hv : validBuffer buffer) {row : ℕ}
    (hrow : row < toUsize patch.rect.height) :
    row * (toUsize patch.rect.width * 4) + toUsize patch.rect.width * 4 ≤ patch.bytes.length ∧
      (toUsize patch.rect.y + row) * buffer.stride.toNat + toUsize patch.rect.x * 4 +
        toUsize patch.rect.width * 4 ≤ buffer.bytes.length := by
  obtain ⟨-, -, hstride, -, hbytes⟩ := hv
  have hright := hf.right
  have hbottom := hf.bottom
  constructor
  · have hle := row_add_le (toUsize patch.rect.width * 4) (toUsize patch.rect.width * 4) hrow
      (by omega)
    rw [hf.bytes, Nat.mul_comm (toUsize patch.rect.width * 4)]
    exact hle
  · have hle := row_add_le buffer.stride.toNat
      (toUsize patch.rect.x * 4 + toUsize patch.rect.width * 4)
      (show toUsize patch.rect.y + row < toUsize buffer.size.height by omega) (by omega)
    rw [hbytes, Nat.mul_comm buffer.stride.toNat]
    omega

/-- A patch that fits has no more bytes than its buffer, and neither comes near the largest size. -/
theorem PatchFits.length_le (hf : PatchFits buffer patch) (hv : validBuffer buffer) :
    patch.bytes.length ≤ buffer.bytes.length ∧ buffer.bytes.length < Usize.bound := by
  obtain ⟨-, -, hstride, hlimit, hbytes⟩ := hv
  have hright := hf.right
  have hbottom := hf.bottom
  rw [hf.bytes, hbytes]
  refine ⟨Nat.mul_le_mul (by omega) (by omega), ?_⟩
  unfold Usize.bound
  omega

/-- The loop copies every row: the exit inside it is never taken. -/
theorem tryEach_patchRow (hf : PatchFits buffer patch) (hv : validBuffer buffer) {height : ℕ}
    (hheight : height ≤ toUsize patch.rect.height) :
    Run.tryEach (patchRow patch.bytes ⟨toUsize patch.rect.x, toUsize patch.rect.y,
        toUsize patch.rect.height, buffer.stride.toNat, toUsize patch.rect.width * 4⟩)
      (List.range height) buffer.bytes =
      (.ok (), (Blit.copyRows patch.bytes buffer.bytes (toUsize patch.rect.width * 4)
        (fun row => row * (toUsize patch.rect.width * 4))
        (fun row => (toUsize patch.rect.y + row) * buffer.stride.toNat + toUsize patch.rect.x * 4)
        height).1) := by
  obtain ⟨hle, hbound⟩ := hf.length_le hv
  have hy := toUsize_le patch.rect.y
  have hh := toUsize_le patch.rect.height
  induction height with
  | zero => rfl
  | succ height ih =>
    obtain ⟨hsource, htarget⟩ := hf.rows hv (show height < toUsize patch.rect.height by omega)
    rw [List.range_succ, Run.tryEach_append (ih (by omega)), Blit.copyRows_succ,
      Blit.copyRow?_of_le hsource (by rw [Blit.length_copyRows]; exact htarget), Run.tryEach,
      patchRow_eq hsource (by rw [Blit.length_copyRows]; exact htarget)]
    · rfl
    · omega
    · rw [Blit.length_copyRows]
      exact hbound
    · unfold Usize.bound
      dsimp only
      omega

/-- On a registered buffer the patch is applied whole or not at all, and never panics. -/
theorem writePatch_eq (hv : validBuffer buffer) (patch : LiveCpuBufferPatch β) :
    writePatch buffer patch = match applyPatch buffer patch with
      | .error error => (.error (.error error), buffer)
      | .ok patched => (.ok (), patched) := by
  unfold writePatch
  rw [checkPatch_eq hv]
  cases hp : applyPatch buffer patch with
  | error error => rfl
  | ok patched =>
    obtain ⟨hf, rfl⟩ := applyPatch_eq_ok.mp hp
    simp only [Except.map, tryEach_patchRow hf hv (Nat.le_refl _)]
    rfl

/-- Where the buffer keeps a byte of the rectangle. -/
def patchOffset (buffer : LiveCpuBufferSource β) (patch : LiveCpuBufferPatch β)
    (row column : ℕ) : ℕ :=
  (toUsize patch.rect.y + row) * buffer.stride.toNat + toUsize patch.rect.x * 4 + column

/-- The bytes of the rectangle come from the patch, all others from the buffer, and of the rest only
the generation changes. -/
structure Patched (buffer : LiveCpuBufferSource β) (patch : LiveCpuBufferPatch β)
    (patched : LiveCpuBufferSource β) : Prop where
  rest : patched = { buffer with bytes := patched.bytes, generation := patch.generation }
  length : patched.bytes.length = buffer.bytes.length
  inside : ∀ row < toUsize patch.rect.height, ∀ column < toUsize patch.rect.width * 4,
    patched.bytes[patchOffset buffer patch row column]? =
      patch.bytes[row * (toUsize patch.rect.width * 4) + column]?
  outside : ∀ i, (∀ row < toUsize patch.rect.height, ∀ column < toUsize patch.rect.width * 4,
    i ≠ patchOffset buffer patch row column) → patched.bytes[i]? = buffer.bytes[i]?

theorem patched_patchedBuffer (hf : PatchFits buffer patch) (hv : validBuffer buffer) :
    Patched buffer patch (patchedBuffer buffer patch) := by
  obtain ⟨-, -, hstride, -, -⟩ := id hv
  have hright := hf.right
  refine ⟨rfl, Blit.length_copyRows, ?_, ?_⟩
  · intro row hrow column hcolumn
    refine Blit.copyRows_hit _ _ _ _ _ _ (fun row hrow => (hf.rows hv hrow).1)
      (fun row hrow => (hf.rows hv hrow).2) ?_ hrow hcolumn
    intro row row' hlt _
    have hle := row_add_le buffer.stride.toNat (toUsize patch.rect.width * 4)
      (show toUsize patch.rect.y + row < toUsize patch.rect.y + row' by omega) (by omega)
    omega
  · intro i hout
    refine Blit.copyRows_miss fun row hrow => ?_
    by_contra hin
    refine hout row hrow (i - patchOffset buffer patch row 0) ?_ ?_ <;>
      simp only [patchOffset] <;> omega

end Rows

section Registry

variable {registry : LiveCpuBufferRegistry β} {update : LiveCpuBufferUpdate β}

def AllValid (buffers : StoredBuffers β) : Prop :=
  ∀ (handle : UInt64) buffer, buffers[handle]? = some buffer → validBuffer buffer

theorem insert_stored {buffers : StoredBuffers β} {handle : UInt64}
    {buffer : LiveCpuBufferSource β} (hb : buffers[handle]? = some buffer) :
    buffers.insert handle buffer = buffers := by
  refine ExtTreeMap.ext_getElem? fun other => ?_
  rw [ExtTreeMap.getElem?_insert]
  by_cases he : compare handle other = .eq
  · rw [if_pos he, ← LawfulEqOrd.eq_of_compare he, hb]
  · rw [if_neg he]

/-- The stored map of a registry takes each update as the registry does. -/
theorem applyUpdate_eq (registry : LiveCpuBufferRegistry β) (update : LiveCpuBufferUpdate β) :
    applyUpdate registry.buffers update =
      ((registry.apply update).1.mapError .error, (registry.apply update).2.buffers) := by
  generalize happly : registry.apply update = applied
  unfold LiveCpuBufferRegistry.apply LiveCpuBufferRegistry.get at happly
  unfold applyUpdate
  split
  · rename_i hstale
    rw [if_pos hstale] at happly
    subst happly
    rfl
  rename_i hstale
  rw [if_neg hstale] at happly
  cases update with
  | replace buffer =>
    dsimp only at happly ⊢
    by_cases hv : validBuffer buffer
    · rw [dif_pos hv] at happly
      rw [if_pos (validBufferUsize_iff.mpr hv)]
      subst happly
      rfl
    · rw [dif_neg hv] at happly
      rw [if_neg (fun h => hv (validBufferUsize_iff.mp h))]
      subst happly
      rfl
  | patch patch =>
    dsimp only [LiveCpuBufferUpdate.handle] at happly ⊢
    split at happly
    · rename_i hb
      subst happly
      rw [hb]
      rfl
    · rename_i buffer hb
      have hwritten := writePatch_eq (registry.valid _ _ hb) patch
      rw [hb]
      dsimp only
      split at happly
      · rename_i error hp
        rw [hp] at hwritten
        subst happly
        rw [hwritten]
        exact Prod.ext rfl (insert_stored hb)
      · rename_i patched hp
        rw [hp] at hwritten
        subst happly
        rw [hwritten]
        rfl

/-- What an update of valid buffers does: it is older than the stored generation, it is refused,
or it stores one valid buffer that is no older. -/
theorem applyUpdate_cases {buffers : StoredBuffers β} (update : LiveCpuBufferUpdate β)
    (hv : AllValid buffers) :
    applyUpdate buffers update = (.ok false, buffers) ∨
      (∀ current, buffers[update.handle]? = some current →
        current.generation ≤ update.generation) ∧
      ((∃ error, applyUpdate buffers update = (.error (.error error), buffers)) ∨
        (∃ buffer, update = .replace buffer ∧ validBuffer buffer ∧
          applyUpdate buffers update = (.ok true, buffers.insert buffer.handle buffer)) ∨
        ∃ patch buffer, update = .patch patch ∧ buffers[patch.handle]? = some buffer ∧
          PatchFits buffer patch ∧ applyUpdate buffers update =
            (.ok true, buffers.insert patch.handle (patchedBuffer buffer patch))) := by
  unfold applyUpdate
  split
  · exact .inl rfl
  rename_i hstale
  right
  constructor
  · intro current hcurrent
    rw [hcurrent] at hstale
    simpa using hstale
  cases update with
  | replace buffer =>
    by_cases hbuffer : validBuffer buffer
    · exact .inr (.inl ⟨buffer, rfl, hbuffer, if_pos (validBufferUsize_iff.mpr hbuffer)⟩)
    · exact .inl ⟨_, if_neg fun h => hbuffer (validBufferUsize_iff.mp h)⟩
  | patch patch =>
    dsimp only
    cases hb : buffers[patch.handle]? with
    | none => exact .inl ⟨_, rfl⟩
    | some buffer =>
      have hwritten := writePatch_eq (hv _ _ hb) patch
      dsimp only
      cases hp : applyPatch buffer patch with
      | error error =>
        rw [hp] at hwritten
        rw [hwritten]
        exact .inl ⟨error, Prod.ext rfl (insert_stored hb)⟩
      | ok patched =>
        obtain ⟨hf, rfl⟩ := applyPatch_eq_ok.mp hp
        rw [hp] at hwritten
        rw [hwritten]
        exact .inr (.inr ⟨patch, buffer, rfl, hb, hf, rfl⟩)

inductive RegistryCall (β : Type) where
  | apply (update : LiveCpuBufferUpdate β)
  | retainHandles (retain : UInt64 → Bool)

def registryStep (buffers : StoredBuffers β) : RegistryCall β → StoredBuffers β
  | .apply update => (applyUpdate buffers update).2
  | .retainHandles retain => buffers.filter fun handle _ => retain handle

/-- Every run keeps the stored map of a registry. -/
theorem exec_registryStep (registry : LiveCpuBufferRegistry β) (calls : List (RegistryCall β)) :
    ∃ after : LiveCpuBufferRegistry β,
      after.buffers = Run.exec registryStep registry.buffers calls := by
  induction calls generalizing registry with
  | nil => exact ⟨registry, rfl⟩
  | cons call calls ih =>
    rw [Run.exec_cons]
    cases call with
    | apply update =>
      have hstep := congrArg Prod.snd (applyUpdate_eq registry update)
      rw [show registryStep registry.buffers (.apply update) = (registry.apply update).2.buffers
        from hstep]
      exact ih _
    | retainHandles retain => exact ih (registry.retainHandles retain)

/-- The generation stored under a handle does not decrease in a step that keeps the handle. -/
theorem generation_registryStep {buffers : StoredBuffers β} {call : RegistryCall β}
    (hv : AllValid buffers) {handle : UInt64} {before after : LiveCpuBufferSource β}
    (hbefore : buffers[handle]? = some before)
    (hafter : (registryStep buffers call)[handle]? = some after) :
    before.generation ≤ after.generation := by
  have hsame (h : buffers[handle]? = some after) : before.generation ≤ after.generation := by
    cases hbefore.symm.trans h
    exact UInt64.le_refl _
  cases call with
  | retainHandles retain =>
    rw [registryStep, ExtTreeMap.getElem?_filter', Option.filter_eq_some_iff] at hafter
    exact hsame hafter.1
  | apply update =>
    rw [registryStep] at hafter
    rcases applyUpdate_cases update hv with he | ⟨hnewer, ⟨error, he⟩ | ⟨buffer, rfl, -, he⟩ |
      ⟨patch, buffer, rfl, -, -, he⟩⟩
    · rw [he] at hafter
      exact hsame hafter
    · rw [he] at hafter
      exact hsame hafter
    all_goals
      rw [he, ExtTreeMap.getElem?_insert] at hafter
      split at hafter
      · rename_i hhandle
        cases hafter
        rw [← LawfulEqOrd.eq_of_compare hhandle] at hbefore
        exact hnewer before hbefore
      · exact hsame hafter

theorem allValid_exec (calls : List (RegistryCall β)) :
    AllValid (Run.exec registryStep ∅ calls) := by
  obtain ⟨after, hafter⟩ := exec_registryStep LiveCpuBufferRegistry.new calls
  rw [show (∅ : StoredBuffers β) = LiveCpuBufferRegistry.new.buffers from rfl, ← hafter]
  exact after.valid

/-- While a handle stays registered its generation does not decrease. -/
theorem generation_exec (calls more : List (RegistryCall β)) {handle : UInt64}
    {before after : LiveCpuBufferSource β}
    (hbefore : (Run.exec registryStep ∅ calls)[handle]? = some before)
    (hkept : ∀ now later, more = now ++ later →
      ((Run.exec registryStep ∅ (calls ++ now))[handle]?).isSome)
    (hafter : (Run.exec registryStep ∅ (calls ++ more))[handle]? = some after) :
    before.generation ≤ after.generation := by
  induction more using List.reverseRecOn generalizing after with
  | nil =>
    rw [List.append_nil] at hafter
    cases hbefore.symm.trans hafter
    exact UInt64.le_refl _
  | append_singleton more call ih =>
    obtain ⟨middle, hmiddle⟩ := Option.isSome_iff_exists.mp (hkept more [call] rfl)
    have hle := ih (fun now later he => hkept now (later ++ [call]) (by rw [he, List.append_assoc]))
      hmiddle
    rw [← List.append_assoc, Run.exec_snoc] at hafter
    exact UInt64.le_trans hle (generation_registryStep (allValid_exec _) hmiddle hafter)

/-- What an update does to the stored buffers, as its result tells. -/
structure UpdateLaw (buffers : StoredBuffers β) (update : LiveCpuBufferUpdate β) : Prop where
  no_panic : ∀ panic, (applyUpdate buffers update).1 ≠ .error (.panic panic)
  refused : ∀ error, (applyUpdate buffers update).1 = .error error →
    (applyUpdate buffers update).2 = buffers
  older : ∀ current, buffers[update.handle]? = some current →
    update.generation < current.generation → applyUpdate buffers update = (.ok false, buffers)
  patched : ∀ patch, update = .patch patch → (applyUpdate buffers update).1 = .ok true →
    ∃ buffer patched, buffers[patch.handle]? = some buffer ∧ Patched buffer patch patched ∧
      (applyUpdate buffers update).2 = buffers.insert patch.handle patched

theorem updateLaw {buffers : StoredBuffers β} (hv : AllValid buffers)
    (update : LiveCpuBufferUpdate β) : UpdateLaw buffers update := by
  have hcases := applyUpdate_cases update hv
  constructor
  · intro panic hpanic
    rcases hcases with he | ⟨-, ⟨error, he⟩ | ⟨buffer, -, -, he⟩ | ⟨patch, buffer, -, -, -, he⟩⟩ <;>
      rw [he] at hpanic <;> cases hpanic
  · intro error herror
    rcases hcases with he | ⟨-, ⟨error', he⟩ | ⟨buffer, -, -, he⟩ | ⟨patch, buffer, -, -, -, he⟩⟩
    · rw [he]
    · rw [he]
    · rw [he] at herror
      cases herror
    · rw [he] at herror
      cases herror
  · intro current hcurrent holder
    rcases hcases with he | ⟨hnewer, -⟩
    · exact he
    · exact absurd holder (UInt64.not_lt.mpr (hnewer current hcurrent))
  · rintro patch rfl hok
    rcases hcases with he | ⟨-, ⟨error, he⟩ | ⟨buffer, h, -, -⟩ | ⟨patch', buffer, h, hb, hf, he⟩⟩
    · rw [he] at hok
      cases hok
    · rw [he] at hok
      cases hok
    · cases h
    · cases h
      exact ⟨buffer, patchedBuffer buffer patch, hb, patched_patchedBuffer hf (hv _ _ hb),
        congrArg Prod.snd he⟩

/-- After any run from an empty registry the stored buffers are valid, the generation of a handle
has not decreased while the handle was registered, and the next update keeps the law. -/
theorem registry_update_law (calls : List (RegistryCall β)) :
    AllValid (Run.exec registryStep ∅ calls) ∧
      (∀ (more : List (RegistryCall β)) (handle : UInt64) (before after : LiveCpuBufferSource β),
        (Run.exec registryStep ∅ calls)[handle]? = some before →
        (∀ now later, more = now ++ later →
          ((Run.exec registryStep ∅ (calls ++ now))[handle]?).isSome) →
        (Run.exec registryStep ∅ (calls ++ more))[handle]? = some after →
        before.generation ≤ after.generation) ∧
      ∀ update, UpdateLaw (Run.exec registryStep ∅ calls) update :=
  ⟨allValid_exec calls, fun more _ _ _ => generation_exec calls more,
    updateLaw (allValid_exec calls)⟩

end Registry

end Sophia.Renderer
