import Sophia.Lib.Fallible
import Sophia.Lib.Numbers
import Sophia.Protocol

/-! Checked sums and rectangles in terms of their numbers. -/
namespace Sophia.Protocol

theorem checkedAddInt32_eq_some {a b c : Int32} :
    checkedAddInt32 a b = some c ↔ c.toInt = a.toInt + b.toInt := by
  have hc := I32.fits_toInt c
  rw [checkedAddInt32, Option.ite_none_right_eq_some, Option.some.injEq]
  constructor
  · rintro ⟨hfits, rfl⟩
    exact I32.toInt_ofInt hfits
  · intro h
    rw [← h]
    exact ⟨hc, Int32.ofInt_toInt c⟩

theorem checkedAddInt32_of_fits {a b : Int32} (h : I32.Fits (a.toInt + b.toInt)) :
    checkedAddInt32 a b = some (Int32.ofInt (a.toInt + b.toInt)) :=
  checkedAddInt32_eq_some.mpr (I32.toInt_ofInt h)

/-- `i32::saturating_add`. -/
def saturatingAddInt32 (a b : Int32) : Int32 := saturateInt32 (a.toInt + b.toInt)

/-- `i32::saturating_sub`. -/
def saturatingSubInt32 (a b : Int32) : Int32 := saturateInt32 (a.toInt - b.toInt)

/-- `i32::saturating_mul`. -/
def saturatingMulInt32 (a b : Int32) : Int32 := saturateInt32 (a.toInt * b.toInt)

/-- `i32::saturating_div` by a positive number. -/
def saturatingDivInt32 (a b : Int32) : Int32 := saturateInt32 (a.toInt.tdiv b.toInt)

section Saturation

variable {n : ℤ} {a b : Int32}

theorem toInt_saturate (n : ℤ) :
    (saturateInt32 n).toInt = max (-2 ^ 31) (min n (2 ^ 31 - 1)) :=
  I32.toInt_ofInt ⟨by omega, by omega⟩

theorem toInt_saturate_of_fits (h : I32.Fits n) : (saturateInt32 n).toInt = n := by
  obtain ⟨hlow, hhigh⟩ := h
  rw [toInt_saturate]
  omega

theorem toInt_saturatingAddInt32 :
    (saturatingAddInt32 a b).toInt = max (-2 ^ 31) (min (a.toInt + b.toInt) (2 ^ 31 - 1)) :=
  toInt_saturate _

theorem toInt_saturatingSubInt32 :
    (saturatingSubInt32 a b).toInt = max (-2 ^ 31) (min (a.toInt - b.toInt) (2 ^ 31 - 1)) :=
  toInt_saturate _

theorem toInt_saturatingMulInt32 :
    (saturatingMulInt32 a b).toInt = max (-2 ^ 31) (min (a.toInt * b.toInt) (2 ^ 31 - 1)) :=
  toInt_saturate _

end Saturation

theorem Rect.isEmpty_eq_false {rect : Rect} : rect.isEmpty = false ↔
    0 < rect.width.toInt ∧ 0 < rect.height.toInt := by
  simp [Rect.isEmpty, Int32.lt_iff_toInt_lt]

/-- The rectangle has the point; its far edges are outside, and no sum is cut off. -/
def Rect.Has (rect : Rect) (point : ℤ × ℤ) : Prop :=
  (rect.x.toInt ≤ point.1 ∧ point.1 < rect.x.toInt + rect.width.toInt) ∧
    rect.y.toInt ≤ point.2 ∧ point.2 < rect.y.toInt + rect.height.toInt

end Sophia.Protocol

/-! The outputs of the desktop, and what the Engine checks of them. -/
namespace Sophia.Protocol

open Fallible

def maxOutputTopologyEntries : ℕ := 16

structure OutputTopologyEntry where
  output : OutputId
  logical : Rect
  pixelSize : Size
  scale : UInt32
  refreshMillihz : UInt32
  deriving DecidableEq, Repr

structure OutputTopologySnapshot where
  generation : UInt64
  primary : OutputId
  outputs : List OutputTopologyEntry
  deriving DecidableEq, Repr

inductive OutputTopologyError where
  | invalidGeneration
  | invalidPrimary
  | empty
  | capacityExceeded
  | invalidOutput
  | duplicateOutput
  | invalidGeometry
  | invalidMode
  | rootSizeExceeded
  deriving DecidableEq, Repr

namespace OutputTopologySnapshot

/-- What the loop over the outputs has seen: their ids, and the far edges of all of them. -/
structure Extent where
  ids : List OutputId := []
  right : Int32 := 0
  bottom : Int32 := 0

def checkEntry (extent : Extent) (entry : OutputTopologyEntry) :
    Except OutputTopologyError Extent :=
  if !entry.output.isValid then .error .invalidOutput
  else if entry.output ∈ extent.ids then .error .duplicateOutput
  else if entry.logical.isEmpty || entry.logical.x < 0 || entry.logical.y < 0 then
    .error .invalidGeometry
  else if entry.pixelSize.width ≤ 0 || entry.pixelSize.height ≤ 0 || entry.scale == 0 ||
      entry.refreshMillihz == 0 then .error .invalidMode
  else match checkedAddInt32 entry.logical.x entry.logical.width,
      checkedAddInt32 entry.logical.y entry.logical.height with
  | some right, some bottom => .ok {
      ids := entry.output :: extent.ids
      right := max extent.right right
      bottom := max extent.bottom bottom }
  | _, _ => .error .rootSizeExceeded

def validate (snapshot : OutputTopologySnapshot) : Except OutputTopologyError Size :=
  if snapshot.generation = 0 then .error .invalidGeneration
  else if snapshot.outputs.isEmpty then .error .empty
  else if maxOutputTopologyEntries < snapshot.outputs.length then .error .capacityExceeded
  else do
    let extent ← snapshot.outputs.foldlM checkEntry {}
    if snapshot.primary ∉ extent.ids then .error .invalidPrimary
    else if extent.right ≤ 0 || extent.bottom ≤ 0 || 65535 < extent.right ||
        65535 < extent.bottom then .error .rootSizeExceeded
    else .ok ⟨extent.right, extent.bottom⟩

/-- What the loop has checked of the outputs behind it. -/
structure Checked (before : List OutputTopologyEntry) (extent : Extent) : Prop where
  ids : ∀ output, output ∈ extent.ids ↔ output ∈ before.map (·.output)
  distinct : (before.map (·.output)).Nodup
  width : ∀ entry ∈ before, 0 < entry.logical.width.toInt ∧
    entry.logical.width.toInt ≤ extent.right.toInt
  height : ∀ entry ∈ before, 0 < entry.logical.height.toInt ∧
    entry.logical.height.toInt ≤ extent.bottom.toInt

variable {extent extent' : Extent} {entry : OutputTopologyEntry}
  {before : List OutputTopologyEntry}

/-- All that an output the loop lets through does. -/
theorem checkEntry_cases (h : checkEntry extent entry = .ok extent') :
    entry.output ∉ extent.ids ∧ entry.logical.isEmpty = false ∧
      extent'.ids = entry.output :: extent.ids ∧
      (extent.right.toInt ≤ extent'.right.toInt ∧
        entry.logical.width.toInt ≤ extent'.right.toInt) ∧
      extent.bottom.toInt ≤ extent'.bottom.toInt ∧
        entry.logical.height.toInt ≤ extent'.bottom.toInt := by
  rw [checkEntry] at h
  split at h
  · cases h
  split at h
  · cases h
  rename_i hfresh
  split at h
  · cases h
  rename_i hgeometry
  split at h
  · cases h
  split at h
  · rename_i right bottom hright hbottom
    cases h
    rw [checkedAddInt32_eq_some] at hright hbottom
    simp only [Bool.or_eq_true, decide_eq_true_eq, not_or, Bool.not_eq_true,
      Int32.lt_iff_toInt_lt] at hgeometry
    obtain ⟨⟨hempty, hx⟩, hy⟩ := hgeometry
    change ¬ _ < 0 at hx
    change ¬ _ < 0 at hy
    refine ⟨hfresh, hempty, rfl, ?_⟩
    rw [I32.toInt_max, I32.toInt_max]
    omega
  · cases h

theorem Checked.checkEntry (hc : checkEntry extent entry = .ok extent')
    (h : Checked before extent) : Checked (before ++ [entry]) extent' := by
  obtain ⟨hfresh, hempty, hids, ⟨hright, hwidth⟩, hbottom, hheight⟩ := checkEntry_cases hc
  obtain ⟨hw, hh⟩ := Rect.isEmpty_eq_false.mp hempty
  refine ⟨fun output => ?_, ?_, fun e he => ?_, fun e he => ?_⟩
  · rw [hids, List.map_append, List.mem_append, List.mem_cons, h.ids output]
    simp [or_comm]
  · rw [List.map_append, List.nodup_append]
    refine ⟨h.distinct, by simp, fun output hmem other hother he => hfresh ?_⟩
    rw [List.map_singleton, List.mem_singleton] at hother
    exact (h.ids _).mpr (by rwa [← hother, ← he])
  · rcases List.mem_append.mp he with he | he
    · have hbefore := h.width e he
      omega
    · rw [List.mem_singleton.mp he]
      exact ⟨hw, hwidth⟩
  · rcases List.mem_append.mp he with he | he
    · have hbefore := h.height e he
      omega
    · rw [List.mem_singleton.mp he]
      exact ⟨hh, hheight⟩

/-- The outputs of a snapshot that passes have ids of their own and sizes of sixteen bits. -/
theorem validate_spec {snapshot : OutputTopologySnapshot} {root : Size}
    (h : snapshot.validate = .ok root) :
    (snapshot.outputs.map (·.output)).Nodup ∧ ∀ entry ∈ snapshot.outputs,
      (0 < entry.logical.width.toInt ∧ entry.logical.width.toInt ≤ 65535) ∧
        0 < entry.logical.height.toInt ∧ entry.logical.height.toInt ≤ 65535 := by
  rw [validate] at h
  split at h
  · cases h
  split at h
  · cases h
  split at h
  · cases h
  obtain ⟨extent, hloop, h⟩ := bind_eq_ok.mp h
  split at h
  · cases h
  split at h
  · cases h
  rename_i hroot
  simp only [Bool.or_eq_true, decide_eq_true_eq, not_or, Int32.not_lt,
    Int32.le_iff_toInt_le] at hroot
  obtain ⟨⟨-, hright⟩, hbottom⟩ := hroot
  change _ ≤ (65535 : ℤ) at hright
  change _ ≤ (65535 : ℤ) at hbottom
  have hall : Checked ([] ++ snapshot.outputs) extent :=
    foldlM_history (fun _ _ _ _ => Checked.checkEntry) hloop ⟨by simp, by simp, by simp, by simp⟩
  refine ⟨hall.distinct, fun entry he => ?_⟩
  have hwidth := hall.width entry he
  have hheight := hall.height entry he
  omega

end OutputTopologySnapshot
end Sophia.Protocol
