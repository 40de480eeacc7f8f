import Mathlib.Data.Nat.Bitwise
import Sophia.Lib.Codec
import Sophia.Lib.Pick
import Sophia.Lib.Usize

/-! The format and modifier blob of a DRM plane, and the modifiers it allows for one format. -/
namespace Sophia.Backend

/-- The byte order of the machine. -/
inductive NativeEndian where
  | little
  | big
  deriving DecidableEq

namespace NativeEndian

/-- `from_ne_bytes`. -/
def number : NativeEndian → List UInt8 → ℕ
  | .little, bytes => Codec.fromLe bytes
  | .big, bytes => Codec.fromLe bytes.reverse

variable (order : NativeEndian) (blob : List UInt8) (offset : ℕ)

/-- The number in the four bytes at the offset. -/
def u32At : UInt32 := UInt32.ofNat (order.number ((blob.drop offset).take 4))

/-- The number in the eight bytes at the offset. -/
def u64At : UInt64 := UInt64.ofNat (order.number ((blob.drop offset).take 8))

end NativeEndian

/-- A read that may find nothing, or panic. -/
abbrev BlobRead (α : Type) := OptionT (Except Usize.Panic) α

variable (order : NativeEndian) (blob : List UInt8)

def readU32 (offset : ℕ) : BlobRead UInt32 := do
  let stop ← OptionT.lift (Usize.add offset 4)
  let bytes ← OptionT.mk (pure (Blit.slice? blob offset stop))
  return UInt32.ofNat (order.number bytes)

def readU64 (offset : ℕ) : BlobRead UInt64 := do
  let stop ← OptionT.lift (Usize.add offset 8)
  let bytes ← OptionT.mk (pure (Blit.slice? blob offset stop))
  return UInt64.ofNat (order.number bytes)

structure FormatModifierBlobHeader where
  version : UInt32
  countFormats : UInt32
  formatsOffset : UInt32
  countModifiers : UInt32
  modifiersOffset : UInt32

structure FormatModifierRecord where
  formats : UInt64
  offset : UInt32
  modifier : UInt64

def FormatModifierBlobHeader.parse : BlobRead FormatModifierBlobHeader := do
  let version ← readU32 order blob 0
  let countFormats ← readU32 order blob 8
  let formatsOffset ← readU32 order blob 12
  let countModifiers ← readU32 order blob 16
  let modifiersOffset ← readU32 order blob 20
  return ⟨version, countFormats, formatsOffset, countModifiers, modifiersOffset⟩

def formatModifierRecordSize : ℕ := 24

def formatBlobCurrent : UInt32 := 1

def checkedTableEnd (offset count stride len : ℕ) : Option ℕ :=
  (Usize.checkedMul count stride).bind fun bytes =>
    (Usize.checkedAdd offset bytes).bind fun stop => if stop ≤ len then some stop else none

/-- `offset + index * stride`. -/
def rowOffset (offset index stride : ℕ) : BlobRead ℕ := do
  let bytes ← OptionT.lift (Usize.mul index stride)
  OptionT.lift (Usize.add offset bytes)

def readU32Table (offset count : UInt32) : BlobRead (List UInt32) := do
  let _ ← OptionT.mk (pure (checkedTableEnd offset.toNat count.toNat 4 blob.length))
  (List.range count.toNat).foldlM (fun values index => do
    let value ← readU32 order blob (← rowOffset offset.toNat index 4)
    return values ++ [value]) []

def readModifierTable (offset count : UInt32) : BlobRead (List FormatModifierRecord) := do
  let _ ← OptionT.mk
    (pure (checkedTableEnd offset.toNat count.toNat formatModifierRecordSize blob.length))
  (List.range count.toNat).foldlM (fun values index => do
    let base ← rowOffset offset.toNat index formatModifierRecordSize
    let formats ← readU64 order blob base
    let offset ← readU32 order blob (← OptionT.lift (Usize.add base 8))
    let modifier ← readU64 order blob (← OptionT.lift (Usize.add base 16))
    return values ++ [⟨formats, offset, modifier⟩]) []

def FormatModifierRecord.appliesToFormatIndex (record : FormatModifierRecord) (formatIndex : ℕ) :
    Bool :=
  if UInt32.size ≤ formatIndex then false
  else
    let formatIndex := UInt32.ofNat formatIndex
    if formatIndex < record.offset then false
    else
      let bit := formatIndex - record.offset
      bit < 64 && record.formats &&& (1 <<< bit.toUInt64) ≠ 0

inductive LibdrmNativePlaneFormatModifierTableParseStatus where
  | parsed
  | unsupportedVersion
  | formatUnsupported
  | modifierUnsupported
  | malformed
  deriving DecidableEq

structure LibdrmNativePlaneFormatModifierTable (M : Type) where
  modifiers : List M
  deriving DecidableEq

structure LibdrmNativePlaneFormatModifierTableParseResult (M : Type) where
  status : LibdrmNativePlaneFormatModifierTableParseStatus
  table : Option (LibdrmNativePlaneFormatModifierTable M)
  deriving DecidableEq

section Parse

variable {M : Type} [DecidableEq M] (fromRaw : UInt64 → M) (invalid : M) (format : UInt32)

/-- `DrmModifier` is a type of the `drm` crate, with its `From<u64>` and its `Invalid`. -/
def parseForFormat : Except Usize.Panic (LibdrmNativePlaneFormatModifierTableParseResult M) := do
  let some header ← (FormatModifierBlobHeader.parse order blob).run | return ⟨.malformed, none⟩
  if header.version ≠ formatBlobCurrent then return ⟨.unsupportedVersion, none⟩
  let some formats ← (readU32Table order blob header.formatsOffset header.countFormats).run
    | return ⟨.malformed, none⟩
  let some modifiers ←
      (readModifierTable order blob header.modifiersOffset header.countModifiers).run
    | return ⟨.malformed, none⟩
  let some formatIndex := formats.findIdx? (· = format)
    | return ⟨.formatUnsupported, some ⟨[]⟩⟩
  let reduced := modifiers.foldl (fun reduced modifier =>
    if modifier.appliesToFormatIndex formatIndex then
      let drmModifier := fromRaw modifier.modifier
      if drmModifier ≠ invalid then reduced ++ [drmModifier] else reduced
    else reduced) []
  let reduced := Firsts.firsts reduced
  return ⟨if reduced = [] then .modifierUnsupported else .parsed, some ⟨reduced⟩⟩

end Parse

section Reads

variable {α γ : Type}

/-- The read does not panic; it finds this, or nothing. -/
def Reads (read : BlobRead α) (found : Option α) : Prop := read.run = .ok found

variable {read : BlobRead α} {next : α → BlobRead γ} {a : α} {found : Option γ}

theorem reads_pure (a : α) : Reads (pure a) (some a) := rfl

theorem reads_lift {x : Except Usize.Panic α} (hx : x = .ok a) :
    Reads (OptionT.lift x) (some a) := by
  subst hx
  rfl

theorem reads_option (o : Option α) : Reads (OptionT.mk (pure o)) o := rfl

theorem reads_bind (hread : Reads read (some a)) (hnext : Reads (next a) found) :
    Reads (read >>= next) found := by
  unfold Reads at *
  rw [OptionT.run_bind, hread]
  exact hnext

theorem reads_bind_none (hread : Reads read none) : Reads (read >>= next) none := by
  unfold Reads at *
  rw [OptionT.run_bind, hread]
  rfl

variable {order : NativeEndian} {blob : List UInt8} {offset : ℕ}

theorem reads_u32 (hoffset : offset + 4 < Usize.bound) (hin : offset + 4 ≤ blob.length) :
    Reads (readU32 order blob offset) (some (order.u32At blob offset)) := by
  have hslice : Blit.slice? blob offset (offset + 4) = some ((blob.drop offset).take 4) := by
    unfold Blit.slice?
    rw [if_pos ⟨by omega, hin⟩, Nat.add_sub_cancel_left]
  refine reads_bind (reads_lift (Usize.add_eq hoffset)) ?_
  rw [hslice]
  exact reads_bind (reads_option _) (reads_pure _)

theorem reads_u32_none (hoffset : offset + 4 < Usize.bound) (hout : blob.length < offset + 4) :
    Reads (readU32 order blob offset) none := by
  have hslice : Blit.slice? blob offset (offset + 4) = none := by
    unfold Blit.slice?
    rw [if_neg (by omega)]
  refine reads_bind (reads_lift (Usize.add_eq hoffset)) ?_
  rw [hslice]
  exact reads_bind_none (reads_option _)

theorem reads_u64 (hoffset : offset + 8 < Usize.bound) (hin : offset + 8 ≤ blob.length) :
    Reads (readU64 order blob offset) (some (order.u64At blob offset)) := by
  have hslice : Blit.slice? blob offset (offset + 8) = some ((blob.drop offset).take 8) := by
    unfold Blit.slice?
    rw [if_pos ⟨by omega, hin⟩, Nat.add_sub_cancel_left]
  refine reads_bind (reads_lift (Usize.add_eq hoffset)) ?_
  rw [hslice]
  exact reads_bind (reads_option _) (reads_pure _)

/-- The header as its bytes spell it. -/
def headerAt (order : NativeEndian) (blob : List UInt8) : FormatModifierBlobHeader :=
  ⟨order.u32At blob 0, order.u32At blob 8, order.u32At blob 12, order.u32At blob 16,
    order.u32At blob 20⟩

/-- The header is there exactly when its 24 bytes are. -/
theorem reads_header (order : NativeEndian) (blob : List UInt8) :
    Reads (FormatModifierBlobHeader.parse order blob)
      (if 24 ≤ blob.length then some (headerAt order blob) else none) := by
  have hbound (offset : ℕ) (h : offset ≤ 20) : offset + 4 < Usize.bound := by
    unfold Usize.bound
    omega
  split
  · refine reads_bind (reads_u32 (hbound 0 (by omega)) (by omega)) ?_
    refine reads_bind (reads_u32 (hbound 8 (by omega)) (by omega)) ?_
    refine reads_bind (reads_u32 (hbound 12 (by omega)) (by omega)) ?_
    refine reads_bind (reads_u32 (hbound 16 (by omega)) (by omega)) ?_
    exact reads_bind (reads_u32 (hbound 20 (by omega)) (by omega)) (reads_pure _)
  · by_cases h₀ : 0 + 4 ≤ blob.length
    · refine reads_bind (reads_u32 (hbound 0 (by omega)) h₀) ?_
      by_cases h₁ : 8 + 4 ≤ blob.length
      · refine reads_bind (reads_u32 (hbound 8 (by omega)) h₁) ?_
        by_cases h₂ : 12 + 4 ≤ blob.length
        · refine reads_bind (reads_u32 (hbound 12 (by omega)) h₂) ?_
          by_cases h₃ : 16 + 4 ≤ blob.length
          · refine reads_bind (reads_u32 (hbound 16 (by omega)) h₃) ?_
            exact reads_bind_none (reads_u32_none (hbound 20 (by omega)) (by omega))
          · exact reads_bind_none (reads_u32_none (hbound 16 (by omega)) (by omega))
        · exact reads_bind_none (reads_u32_none (hbound 12 (by omega)) (by omega))
      · exact reads_bind_none (reads_u32_none (hbound 8 (by omega)) (by omega))
    · exact reads_bind_none (reads_u32_none (hbound 0 (by omega)) (by omega))

/-- A loop that reads one value at each index. -/
theorem reads_loop {body : List α → ℕ → BlobRead (List α)} {value : ℕ → α} {count : ℕ}
    (hbody : ∀ index < count, ∀ values, Reads (body values index)
      (some (values ++ [value index]))) :
    Reads ((List.range count).foldlM body []) (some ((List.range count).map value)) := by
  induction count with
  | zero => exact reads_pure _
  | succ count ih =>
    rw [List.range_succ, List.foldlM_append, List.map_append]
    refine reads_bind (ih fun index h => hbody index (by omega)) ?_
    rw [List.foldlM_cons]
    exact reads_bind (hbody count (by omega) _) (reads_pure _)

section Tables

variable (order : NativeEndian) (blob : List UInt8) (offset count : UInt32)

/-- The table lies inside the blob. -/
def TableInside (stride : ℕ) : Prop := offset.toNat + count.toNat * stride ≤ blob.length

instance (stride : ℕ) : Decidable (TableInside blob offset count stride) :=
  inferInstanceAs (Decidable (_ ≤ _))

/-- The formats of a table that lies inside the blob. -/
def formatsAt : List UInt32 :=
  (List.range count.toNat).map fun index => order.u32At blob (offset.toNat + index * 4)

/-- The record whose 24 bytes start here. -/
def recordAt (base : ℕ) : FormatModifierRecord :=
  ⟨order.u64At blob base, order.u32At blob (base + 8), order.u64At blob (base + 16)⟩

def recordsAt : List FormatModifierRecord :=
  (List.range count.toNat).map fun index =>
    recordAt order blob (offset.toNat + index * formatModifierRecordSize)

variable {order blob offset count} {stride index : ℕ}

/-- No end of a table overflows. -/
theorem checkedTableEnd_eq (hstride : stride ≤ 24) :
    checkedTableEnd offset.toNat count.toNat stride blob.length =
      if TableInside blob offset count stride then some (offset.toNat + count.toNat * stride)
      else none := by
  have hoffset := offset.toNat_lt
  have hproduct : count.toNat * stride ≤ 2 ^ 32 * 24 :=
    Nat.mul_le_mul (Nat.le_of_lt count.toNat_lt) hstride
  unfold checkedTableEnd TableInside
  rw [Usize.checkedMul_eq (by unfold Usize.bound; omega), Option.bind_some,
    Usize.checkedAdd_eq (by unfold Usize.bound; omega), Option.bind_some]
  rfl

/-- A row of a table inside the blob is inside the blob, at an offset that does not overflow. -/
theorem row_inside (hin : TableInside blob offset count stride) (hindex : index < count.toNat)
    (hstride : stride ≤ 24) :
    offset.toNat + index * stride + stride ≤ blob.length ∧
      offset.toNat + index * stride < 2 ^ 38 := by
  have hoffset := offset.toNat_lt
  have hrow : (index + 1) * stride ≤ count.toNat * stride := Nat.mul_le_mul_right stride hindex
  have hproduct : count.toNat * stride ≤ 2 ^ 32 * 24 :=
    Nat.mul_le_mul (Nat.le_of_lt count.toNat_lt) hstride
  unfold TableInside at hin
  rw [Nat.succ_mul] at hrow
  omega

theorem reads_rowOffset (h : offset.toNat + index * stride < 2 ^ 38) :
    Reads (rowOffset offset.toNat index stride) (some (offset.toNat + index * stride)) := by
  have hbound : offset.toNat + index * stride < Usize.bound := by
    unfold Usize.bound
    omega
  exact reads_bind (reads_lift (Usize.mul_eq (by omega))) (reads_lift (Usize.add_eq hbound))

theorem reads_u32Table : Reads (readU32Table order blob offset count)
    (if TableInside blob offset count 4 then some (formatsAt order blob offset count)
      else none) := by
  unfold readU32Table
  rw [checkedTableEnd_eq (by omega)]
  split
  · rename_i hin
    refine reads_bind (reads_option _) (reads_loop fun index hindex values => ?_)
    obtain ⟨hrow, hlow⟩ := row_inside hin hindex (by omega)
    refine reads_bind (reads_rowOffset hlow) ?_
    exact reads_bind (reads_u32 (by unfold Usize.bound; omega) hrow) (reads_pure _)
  · exact reads_bind_none (reads_option _)

theorem reads_modifierTable : Reads (readModifierTable order blob offset count)
    (if TableInside blob offset count formatModifierRecordSize then
      some (recordsAt order blob offset count) else none) := by
  have hsize : formatModifierRecordSize ≤ 24 := Nat.le_refl 24
  unfold readModifierTable
  rw [checkedTableEnd_eq hsize]
  split
  · rename_i hin
    refine reads_bind (reads_option _) (reads_loop fun index hindex values => ?_)
    obtain ⟨hrow, hlow⟩ := row_inside hin hindex hsize
    have hbound : offset.toNat + index * formatModifierRecordSize + 24 < Usize.bound := by
      unfold Usize.bound
      omega
    have hrecord : formatModifierRecordSize = 24 := rfl
    refine reads_bind (reads_rowOffset hlow) ?_
    refine reads_bind (reads_u64 (by omega) (by omega)) ?_
    refine reads_bind (reads_lift (Usize.add_eq (by omega))) ?_
    refine reads_bind (reads_u32 (by omega) (by omega)) ?_
    refine reads_bind (reads_lift (Usize.add_eq (by omega))) ?_
    exact reads_bind (reads_u64 (by omega) (by omega)) (reads_pure _)
  · exact reads_bind_none (reads_option _)

end Tables
end Reads

/-- The bit of the format in the window of the record. -/
def FormatModifierRecord.HasFormat (record : FormatModifierRecord) (index : ℕ) : Prop :=
  record.offset.toNat ≤ index ∧ index < record.offset.toNat + 64 ∧
    record.formats.toNat.testBit (index - record.offset.toNat) = true

instance (record : FormatModifierRecord) (index : ℕ) : Decidable (record.HasFormat index) :=
  inferInstanceAs (Decidable (_ ∧ _ ∧ _))

/-- Below 64 the mask of a bit tests that bit. -/
theorem mask_ne_zero (formats : UInt64) (bit : UInt32) (hbit : bit < 64) :
    formats &&& (1 <<< bit.toUInt64) ≠ 0 ↔ formats.toNat.testBit bit.toNat = true := by
  have hlt : bit.toNat < 64 := hbit
  have hmask : ((1 : UInt64) <<< bit.toUInt64).toNat = 2 ^ bit.toNat := by
    rw [UInt64.toNat_shiftLeft, UInt32.toNat_toUInt64, Nat.mod_eq_of_lt hlt, UInt64.toNat_one,
      Nat.one_shiftLeft, Nat.mod_eq_of_lt (Nat.pow_lt_pow_right (by omega) hlt)]
  rw [ne_eq, ← UInt64.toNat_inj, UInt64.toNat_and, hmask, Nat.and_two_pow]
  cases formats.toNat.testBit bit.toNat <;> simp

theorem appliesToFormatIndex_iff (record : FormatModifierRecord) {index : ℕ}
    (hindex : index < UInt32.size) :
    record.appliesToFormatIndex index = true ↔ record.HasFormat index := by
  have hnat : (UInt32.ofNat index).toNat = index := UInt32.toNat_ofNat_of_lt' hindex
  unfold FormatModifierRecord.appliesToFormatIndex FormatModifierRecord.HasFormat
  rw [if_neg (by omega)]
  dsimp only
  by_cases hlow : UInt32.ofNat index < record.offset
  · rw [if_pos hlow]
    rw [UInt32.lt_iff_toNat_lt, hnat] at hlow
    simp only [Bool.false_eq_true, false_iff]
    omega
  · rw [if_neg hlow]
    rw [UInt32.not_lt, UInt32.le_iff_toNat_le, hnat] at hlow
    have hbit : (UInt32.ofNat index - record.offset).toNat = index - record.offset.toNat := by
      rw [UInt32.toNat_sub_of_le _ _ (by rwa [UInt32.le_iff_toNat_le, hnat]), hnat]
    have hwindow : UInt32.ofNat index - record.offset < 64 ↔ index < record.offset.toNat + 64 := by
      rw [UInt32.lt_iff_toNat_lt, hbit]
      change index - record.offset.toNat < 64 ↔ _
      omega
    simp only [Bool.and_eq_true, decide_eq_true_eq, hlow, true_and, hwindow]
    refine and_congr_right fun hhigh => ?_
    rw [mask_ne_zero record.formats _ (hwindow.mpr hhigh), hbit]

section Law

variable {M : Type} [DecidableEq M]

/-- The valid modifiers of the records that have the format, in the order of the records. -/
def supportedModifiers (fromRaw : UInt64 → M) (invalid : M) (records : List FormatModifierRecord)
    (index : ℕ) : List M :=
  ((records.filter fun record => record.HasFormat index).map fun record =>
    fromRaw record.modifier).filter (· ≠ invalid)

variable {order : NativeEndian} {blob : List UInt8} {fromRaw : UInt64 → M} {invalid : M}
  {format : UInt32}

theorem foldl_supportedModifiers (records : List FormatModifierRecord) {index : ℕ}
    (hindex : index < UInt32.size) (before : List M) :
    records.foldl (fun reduced record =>
      if record.appliesToFormatIndex index then
        if fromRaw record.modifier ≠ invalid then reduced ++ [fromRaw record.modifier] else reduced
      else reduced) before = before ++ supportedModifiers fromRaw invalid records index := by
  induction records generalizing before with
  | nil => exact (List.append_nil before).symm
  | cons record records ih =>
    rw [List.foldl_cons, ih]
    by_cases happlies : record.HasFormat index
    · rw [if_pos ((appliesToFormatIndex_iff record hindex).mpr happlies)]
      by_cases hvalid : fromRaw record.modifier ≠ invalid
      · simp [supportedModifiers, happlies, hvalid]
      · simp [supportedModifiers, happlies, hvalid]
    · rw [if_neg fun h => happlies ((appliesToFormatIndex_iff record hindex).mp h)]
      simp [supportedModifiers, happlies]

/-- Both tables that the header names lie inside the blob. -/
def TablesInside (order : NativeEndian) (blob : List UInt8) : Prop :=
  TableInside blob (headerAt order blob).formatsOffset (headerAt order blob).countFormats 4 ∧
    TableInside blob (headerAt order blob).modifiersOffset (headerAt order blob).countModifiers
      formatModifierRecordSize

instance : Decidable (TablesInside order blob) := inferInstanceAs (Decidable (_ ∧ _))

def blobFormats (order : NativeEndian) (blob : List UInt8) : List UInt32 :=
  formatsAt order blob (headerAt order blob).formatsOffset (headerAt order blob).countFormats

def blobRecords (order : NativeEndian) (blob : List UInt8) : List FormatModifierRecord :=
  recordsAt order blob (headerAt order blob).modifiersOffset (headerAt order blob).countModifiers

theorem parseForFormat_short (h : blob.length < 24) :
    parseForFormat order blob fromRaw invalid format = .ok ⟨.malformed, none⟩ := by
  have hheader : (FormatModifierBlobHeader.parse order blob).run = _ := reads_header order blob
  rw [if_neg (by omega)] at hheader
  unfold parseForFormat
  rw [hheader]
  rfl

theorem parseForFormat_version (h : 24 ≤ blob.length)
    (hversion : (headerAt order blob).version ≠ formatBlobCurrent) :
    parseForFormat order blob fromRaw invalid format = .ok ⟨.unsupportedVersion, none⟩ := by
  have hheader : (FormatModifierBlobHeader.parse order blob).run = _ := reads_header order blob
  rw [if_pos h] at hheader
  unfold parseForFormat
  rw [hheader]
  change (if (headerAt order blob).version ≠ formatBlobCurrent then _ else _) = _
  rw [if_pos hversion]
  rfl

/-- What the tables of a current blob say about the format. -/
def parsedTable (order : NativeEndian) (blob : List UInt8) (fromRaw : UInt64 → M) (invalid : M)
    (format : UInt32) : LibdrmNativePlaneFormatModifierTableParseResult M :=
  match (blobFormats order blob).findIdx? (· = format) with
  | none => ⟨.formatUnsupported, some ⟨[]⟩⟩
  | some index =>
    let modifiers :=
      Firsts.firsts (supportedModifiers fromRaw invalid (blobRecords order blob) index)
    ⟨if modifiers = [] then .modifierUnsupported else .parsed, some ⟨modifiers⟩⟩

theorem parseForFormat_current (h : 24 ≤ blob.length)
    (hversion : (headerAt order blob).version = formatBlobCurrent) :
    parseForFormat order blob fromRaw invalid format =
      .ok (if TablesInside order blob then parsedTable order blob fromRaw invalid format
        else ⟨.malformed, none⟩) := by
  have hheader : (FormatModifierBlobHeader.parse order blob).run = _ := reads_header order blob
  have hformats : (readU32Table order blob (headerAt order blob).formatsOffset
    (headerAt order blob).countFormats).run = _ := reads_u32Table
  have hmodifiers : (readModifierTable order blob (headerAt order blob).modifiersOffset
    (headerAt order blob).countModifiers).run = _ := reads_modifierTable
  rw [if_pos h] at hheader
  unfold parseForFormat
  rw [hheader]
  change (if (headerAt order blob).version ≠ formatBlobCurrent then _ else _) = _
  rw [if_neg (not_not_intro hversion), hformats]
  by_cases hin : TableInside blob (headerAt order blob).formatsOffset
    (headerAt order blob).countFormats 4
  · rw [if_pos hin]
    change ((readModifierTable order blob _ _).run >>= _) = _
    rw [hmodifiers]
    by_cases hrest : TableInside blob (headerAt order blob).modifiersOffset
      (headerAt order blob).countModifiers formatModifierRecordSize
    · rw [if_pos hrest, if_pos ⟨hin, hrest⟩]
      simp only [bind, Except.bind]
      rw [← blobFormats, ← blobRecords, parsedTable]
      cases hindex : (blobFormats order blob).findIdx? (· = format) with
      | none => rfl
      | some index =>
        have hlt : index < UInt32.size := by
          have hlength := (List.findIdx?_eq_some_iff_findIdx_eq.mp hindex).1
          rw [blobFormats, formatsAt, List.length_map, List.length_range] at hlength
          exact Nat.lt_trans hlength (headerAt order blob).countFormats.toNat_lt
        dsimp only
        rw [foldl_supportedModifiers _ hlt, List.nil_append]
        rfl
    · rw [if_neg hrest, if_neg fun hboth => hrest hboth.2]
      rfl
  · rw [if_neg hin, if_neg fun hboth => hin hboth.1]
    rfl

theorem status_parsedTable :
    (parsedTable order blob fromRaw invalid format).status ≠ .malformed ∧
      (parsedTable order blob fromRaw invalid format).status ≠ .unsupportedVersion := by
  unfold parsedTable
  split
  · simp
  · dsimp only
    split <;> simp

/-- For every blob and format the parser returns: `malformed` exactly when the header or, in the
current version, one of the tables runs past the end; and otherwise the valid modifiers whose window
has the bit of the first index of the format, each once, in the order of their first record. -/
theorem parse_for_format_law (order : NativeEndian) (blob : List UInt8) (fromRaw : UInt64 → M)
    (invalid : M) (format : UInt32) :
    ∃ result, parseForFormat order blob fromRaw invalid format = .ok result ∧
      (result.status = .malformed ↔ blob.length < 24 ∨
        (headerAt order blob).version = formatBlobCurrent ∧ ¬ TablesInside order blob) ∧
      (result.status = .unsupportedVersion ↔
        24 ≤ blob.length ∧ (headerAt order blob).version ≠ formatBlobCurrent) ∧
      (24 ≤ blob.length → (headerAt order blob).version = formatBlobCurrent →
        TablesInside order blob →
          match (blobFormats order blob).findIdx? (· = format) with
          | none => result = ⟨.formatUnsupported, some ⟨[]⟩⟩
          | some index => ∃ modifiers,
            result = ⟨if modifiers = [] then .modifierUnsupported else .parsed, some ⟨modifiers⟩⟩ ∧
            Firsts.FirstOccurrences
              (supportedModifiers fromRaw invalid (blobRecords order blob) index) modifiers) := by
  by_cases hlen : 24 ≤ blob.length
  · by_cases hversion : (headerAt order blob).version = formatBlobCurrent
    · refine ⟨_, parseForFormat_current hlen hversion, ?_, ?_, ?_⟩
      · by_cases hin : TablesInside order blob
        · rw [if_pos hin]
          simp only [status_parsedTable.1, false_iff, not_or, not_and, not_not]
          exact ⟨by omega, fun _ => hin⟩
        · rw [if_neg hin]
          exact iff_of_true rfl (.inr ⟨hversion, hin⟩)
      · refine iff_of_false ?_ fun h => h.2 hversion
        split
        · exact status_parsedTable.2
        · simp
      · intro _ _ hin
        rw [if_pos hin, parsedTable]
        cases (blobFormats order blob).findIdx? (· = format) with
        | none => rfl
        | some index => exact ⟨_, rfl, Firsts.firstOccurrences_firsts _⟩
    · refine ⟨_, parseForFormat_version hlen hversion, ?_, iff_of_true rfl ⟨hlen, hversion⟩, ?_⟩
      · refine iff_of_false (by simp) ?_
        rintro (h | ⟨h, -⟩)
        · omega
        · exact hversion h
      · exact fun _ h => absurd h hversion
  · refine ⟨_, parseForFormat_short (by omega), iff_of_true rfl (.inl (by omega)), ?_, ?_⟩
    · exact iff_of_false (by simp) fun h => hlen h.1
    · exact fun h => absurd h hlen

end Law

end Sophia.Backend
