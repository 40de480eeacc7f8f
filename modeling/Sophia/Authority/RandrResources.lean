import Mathlib.Data.List.Nodup
import Sophia.Lib.Numbers
import Sophia.Protocol.Output

/-! The RandR resources that clients see of the outputs, and when their ids tell the outputs
apart. -/
namespace Sophia.Authority

open Protocol Fallible

structure XRandrModeInfo where
  id : UInt32
  width : UInt16
  height : UInt16
  refreshMillihz : UInt32
  name : List UInt8
  deriving DecidableEq, Repr

structure XRandrResources where
  timestamp : UInt32
  crtcs : List UInt32
  outputs : List UInt32
  modes : List XRandrModeInfo
  deriving DecidableEq, Repr

def stableRandrIdentity (raw : UInt64) : UInt32 :=
  let folded := raw ^^^ (raw >>> 32)
  max (folded &&& 0x0fffffff).toUInt32 1

def stableRandrModeId (width height : Int32) (refreshMillihz : UInt32) : UInt32 :=
  let hash := [width.toUInt32, height.toUInt32, refreshMillihz].foldl
    (fun hash value => (hash ^^^ value) * 0x01000193) 0x811c9dc5
  0x30000000 ||| max (hash &&& 0x0fffffff) 1

/-- `u16::try_from`, or a panic. -/
def u16Of (value : Int32) : Except I32.Panic UInt16 :=
  if 0 ≤ value.toInt ∧ value.toInt < 2 ^ 16 then .ok (UInt16.ofNat value.toInt.toNat)
  else .error .overflow

def randrCrtc (entry : OutputTopologyEntry) : UInt32 :=
  0x10000000 ||| stableRandrIdentity entry.output.raw

def randrOutput (entry : OutputTopologyEntry) : UInt32 :=
  0x20000000 ||| stableRandrIdentity entry.output.raw

def randrModeId (entry : OutputTopologyEntry) : UInt32 :=
  stableRandrModeId entry.logical.width entry.logical.height entry.refreshMillihz

def randrMode (entry : OutputTopologyEntry) : Except I32.Panic XRandrModeInfo := do
  let width ← u16Of entry.logical.width
  let height ← u16Of entry.logical.height
  return {
    id := randrModeId entry
    width
    height
    refreshMillihz := entry.refreshMillihz
    name := (toString entry.logical.width ++ "x" ++ toString entry.logical.height ++ "@" ++
      toString (entry.refreshMillihz / 1000)).toUTF8.toList }

def randrResources (snapshot : OutputTopologySnapshot) : Except I32.Panic XRandrResources := do
  let modes ← snapshot.outputs.mapM randrMode
  return {
    timestamp := max (if snapshot.generation.toNat < UInt32.size then snapshot.generation.toUInt32
      else 0xffffffff) 1
    crtcs := snapshot.outputs.map randrCrtc
    outputs := snapshot.outputs.map randrOutput
    modes }

section Ids

theorem toNat_max_uint32 (a b : UInt32) : (max a b).toNat = max a.toNat b.toNat := by
  show (if a ≤ b then b else a).toNat = _
  by_cases h : a ≤ b
  · rw [if_pos h, Nat.max_eq_right (UInt32.le_iff_toNat_le.mp h)]
  · rw [if_neg h, Nat.max_eq_left (UInt32.lt_iff_toNat_lt.mp (UInt32.not_le.mp h)).le]

theorem toNat_cut (a : UInt32) : (max (a &&& 0x0fffffff) 1).toNat = Folded.cut 28 a.toNat := by
  rw [toNat_max_uint32, UInt32.toNat_and]
  exact congrArg (max · 1) (Nat.and_two_pow_sub_one_eq_mod a.toNat 28)

theorem toNat_stableRandrIdentity (raw : UInt64) : (stableRandrIdentity raw).toNat =
    Folded.cut 28 (raw.toNat ^^^ raw.toNat / 2 ^ 32) := by
  have hmask : ((raw ^^^ (raw >>> 32)) &&& 0x0fffffff).toNat =
      (raw.toNat ^^^ raw.toNat / 2 ^ 32) % 2 ^ 28 := by
    rw [UInt64.toNat_and, UInt64.toNat_xor, UInt64.toNat_shiftRight]
    exact (Nat.and_two_pow_sub_one_eq_mod _ 28).trans (by rw [Nat.shiftRight_eq_div_pow]; rfl)
  have hlt : (raw.toNat ^^^ raw.toNat / 2 ^ 32) % 2 ^ 28 < 2 ^ 28 :=
    Nat.mod_lt _ (Nat.two_pow_pos 28)
  rw [stableRandrIdentity, toNat_max_uint32, UInt64.toNat_toUInt32, hmask,
    Nat.mod_eq_of_lt (by omega)]
  rfl

theorem tag_eq_iff {tag : UInt32} {k : ℕ} (htag : tag.toNat = 2 ^ 28 * k) {a b : UInt32}
    {m n : ℕ} (ha : a.toNat = Folded.cut 28 m) (hb : b.toNat = Folded.cut 28 n) :
    tag ||| a = tag ||| b ↔ Folded.cut 28 m = Folded.cut 28 n := by
  rw [← UInt32.toNat_inj, UInt32.toNat_or, UInt32.toNat_or, htag, ha, hb]
  exact Folded.tag_inj (Folded.cut_lt (by decide)) (Folded.cut_lt (by decide))

/-- The low bits of the id agree with those folded onto them, but for the lowest. -/
def Slight (raw : UInt64) : Prop := raw.toNat % 2 ^ 28 / 2 = raw.toNat / 2 ^ 32 % 2 ^ 28 / 2

/-- Two ids that differ in their low bits as in the bits folded onto them, or that both fold to
next to nothing. -/
def FoldsAlike (a b : UInt64) : Prop :=
  (a.toNat ^^^ b.toNat) % 2 ^ 28 = (a.toNat ^^^ b.toNat) / 2 ^ 32 % 2 ^ 28 ∨ Slight a ∧ Slight b

theorem fold_le_one_iff (raw : UInt64) :
    (raw.toNat ^^^ raw.toNat / 2 ^ 32) % 2 ^ 28 ≤ 1 ↔ Slight raw := by
  rw [Nat.xor_mod_two_pow]
  exact Folded.xor_le_one_iff

theorem foldsAlike_iff (a b : UInt64) :
    Folded.cut 28 (a.toNat ^^^ a.toNat / 2 ^ 32) = Folded.cut 28 (b.toNat ^^^ b.toNat / 2 ^ 32) ↔
      FoldsAlike a b := by
  rw [Folded.cut_eq_iff, Folded.xor_mod_eq_iff, ← Nat.xor_div_two_pow, fold_le_one_iff,
    fold_le_one_iff]
  rfl

/-- One round of the hash, in unbounded numbers. -/
def mix (hash value : ℕ) : ℕ := (hash ^^^ value) * 0x01000193

/-- What a mode is hashed to before the last factor. -/
def modeWord (entry : OutputTopologyEntry) : ℕ :=
  mix (mix 0x811c9dc5 entry.logical.width.toUInt32.toNat) entry.logical.height.toUInt32.toNat ^^^
    entry.refreshMillihz.toNat

/-- The word whose multiple ends in zero, or in one. -/
def Faint (entry : OutputTopologyEntry) : Prop :=
  modeWord entry % 2 ^ 28 = 0 ∨ modeWord entry % 2 ^ 28 = 94127259

/-- Two modes whose words agree in their low bits, or are both faint. -/
def HashesAlike (entry other : OutputTopologyEntry) : Prop :=
  modeWord entry % 2 ^ 28 = modeWord other % 2 ^ 28 ∨ Faint entry ∧ Faint other

theorem coprime_factor : Nat.Coprime (2 ^ 28) 0x01000193 := by decide

theorem toNat_round (hash value : UInt32) :
    ((hash ^^^ value) * 0x01000193).toNat % 2 ^ 28 = mix hash.toNat value.toNat % 2 ^ 28 := by
  rw [UInt32.toNat_mul, Nat.mod_mod_of_dvd _ (by decide), UInt32.toNat_xor]
  rfl

theorem toNat_offset : (0x811c9dc5 : UInt32).toNat = 0x811c9dc5 := by decide

theorem mix_congr {a b : ℕ} (h : a % 2 ^ 28 = b % 2 ^ 28) (value : ℕ) :
    mix a value % 2 ^ 28 = mix b value % 2 ^ 28 :=
  (Folded.mul_mod_eq_iff coprime_factor).mpr (Folded.xor_mod_congr h)

/-- The rounds of the machine end in the same bits as those in unbounded numbers. -/
theorem randrModeId_eq (entry : OutputTopologyEntry) : ∃ word : UInt32,
    randrModeId entry = 0x30000000 ||| word ∧
      word.toNat = Folded.cut 28 (modeWord entry * 0x01000193) := by
  refine ⟨_, rfl, ?_⟩
  rw [toNat_cut]
  refine Folded.cut_congr ?_
  rw [List.foldl_cons, List.foldl_cons, List.foldl_cons, List.foldl_nil, toNat_round]
  refine mix_congr ?_ _
  rw [toNat_round]
  refine mix_congr ?_ _
  rw [toNat_round, toNat_offset]

/-- The inverse of the factor in the low bits. -/
theorem factor_inverse : 94127259 * 0x01000193 % 2 ^ 28 = 1 := by decide

theorem faint_iff (entry : OutputTopologyEntry) :
    modeWord entry * 0x01000193 % 2 ^ 28 ≤ 1 ↔ Faint entry := by
  have hzero := Folded.mul_mod_eq_iff (a := modeWord entry) (b := 0) coprime_factor
  have hone := Folded.mul_mod_eq_iff (a := modeWord entry) (b := 94127259) coprime_factor
  rw [Nat.zero_mul, Nat.zero_mod] at hzero
  rw [factor_inverse, Nat.mod_eq_of_lt (a := 94127259) (by decide)] at hone
  rw [Nat.le_one_iff_eq_zero_or_eq_one, hzero, hone]
  rfl

theorem randrModeId_eq_iff (entry other : OutputTopologyEntry) :
    randrModeId entry = randrModeId other ↔ HashesAlike entry other := by
  obtain ⟨word, he, hword⟩ := randrModeId_eq entry
  obtain ⟨word', he', hword'⟩ := randrModeId_eq other
  rw [he, he', tag_eq_iff (k := 3) (by decide) hword hword', Folded.cut_eq_iff,
    Folded.mul_mod_eq_iff coprime_factor, faint_iff, faint_iff]
  rfl

theorem randrCrtc_eq_iff (entry other : OutputTopologyEntry) :
    randrCrtc entry = randrCrtc other ↔ FoldsAlike entry.output.raw other.output.raw := by
  rw [randrCrtc, randrCrtc, ← foldsAlike_iff]
  exact tag_eq_iff (k := 1) (by decide) (toNat_stableRandrIdentity _) (toNat_stableRandrIdentity _)

theorem randrOutput_eq_iff (entry other : OutputTopologyEntry) :
    randrOutput entry = randrOutput other ↔ FoldsAlike entry.output.raw other.output.raw := by
  rw [randrOutput, randrOutput, ← foldsAlike_iff]
  exact tag_eq_iff (k := 2) (by decide) (toNat_stableRandrIdentity _) (toNat_stableRandrIdentity _)

end Ids

section Resources

variable {snapshot : OutputTopologySnapshot} {resources : XRandrResources} {root : Size}

theorem randrMode_id {entry : OutputTopologyEntry} {mode : XRandrModeInfo}
    (h : randrMode entry = .ok mode) : randrModeId entry = mode.id := by
  obtain ⟨width, -, h⟩ := bind_eq_ok.mp h
  obtain ⟨height, -, h⟩ := bind_eq_ok.mp h
  cases h
  rfl

/-- Every id is made of its output alone. -/
theorem randrResources_ids (h : randrResources snapshot = .ok resources) :
    resources.crtcs = snapshot.outputs.map randrCrtc ∧
      resources.outputs = snapshot.outputs.map randrOutput ∧
      resources.modes.map (·.id) = snapshot.outputs.map randrModeId := by
  obtain ⟨modes, hmodes, h⟩ := bind_eq_ok.mp h
  cases h
  refine ⟨rfl, rfl, ?_⟩
  have hall : List.Forall₂ Eq (snapshot.outputs.map randrModeId) (modes.map (·.id)) := by
    rw [List.forall₂_map_left_iff, List.forall₂_map_right_iff]
    exact (mapM_eq_ok_iff.mp hmodes).imp fun _ _ => randrMode_id
  exact (List.forall₂_eq_eq_eq ▸ hall).symm

/-- A snapshot that passes has resources: no size stops the program. -/
theorem randrResources_of_valid (h : snapshot.validate = .ok root) :
    ∃ resources, randrResources snapshot = .ok resources := by
  cases hmodes : snapshot.outputs.mapM randrMode with
  | ok modes => exact ⟨_, bind_eq_ok.mpr ⟨modes, hmodes, rfl⟩⟩
  | error panic =>
    obtain ⟨entry, hmem, he⟩ := mapM_eq_error hmodes
    obtain ⟨⟨hw, hw'⟩, hh, hh'⟩ := (OutputTopologySnapshot.validate_spec h).2 entry hmem
    rw [randrMode, u16Of, u16Of, if_pos ⟨hw.le, by omega⟩, if_pos ⟨hh.le, by omega⟩] at he
    cases he

/-- The two outputs show the same mode. -/
def SameMode (entry other : OutputTopologyEntry) : Prop :=
  entry.logical.width = other.logical.width ∧ entry.logical.height = other.logical.height ∧
    entry.refreshMillihz = other.refreshMillihz

/-- The ids tell the outputs and their modes apart, and stay what they are in any other topology. -/
structure Identifies (snapshot : OutputTopologySnapshot) (resources : XRandrResources) : Prop where
  crtcs : resources.crtcs.Nodup
  outputs : resources.outputs.Nodup
  modes : ∀ (i j : ℕ) (entry other : OutputTopologyEntry), snapshot.outputs[i]? = some entry →
    snapshot.outputs[j]? = some other →
    (resources.modes.map (·.id))[i]? = (resources.modes.map (·.id))[j]? → SameMode entry other
  stable : ∀ (after : OutputTopologySnapshot) (root : Size) (resources' : XRandrResources),
    after.validate = .ok root → randrResources after = .ok resources' →
    ∀ (i j : ℕ) (entry other : OutputTopologyEntry), snapshot.outputs[i]? = some entry →
      after.outputs[j]? = some other →
      (entry.output = other.output → resources.crtcs[i]? = resources'.crtcs[j]? ∧
        resources.outputs[i]? = resources'.outputs[j]?) ∧
      (SameMode entry other →
        (resources.modes.map (·.id))[i]? = (resources'.modes.map (·.id))[j]?)

theorem nodup_map_iff {f : OutputTopologyEntry → UInt32}
    (hf : ∀ entry other, f entry = f other ↔ FoldsAlike entry.output.raw other.output.raw)
    (hdistinct : (snapshot.outputs.map (·.output)).Nodup) :
    (snapshot.outputs.map f).Nodup ↔
      ∀ entry ∈ snapshot.outputs, ∀ other ∈ snapshot.outputs,
        entry.output ≠ other.output → ¬ FoldsAlike entry.output.raw other.output.raw := by
  rw [List.nodup_map_iff_inj_on hdistinct.of_map]
  have hinj := List.inj_on_of_nodup_map hdistinct
  constructor
  · intro h entry he other ho hne halike
    exact hne (congrArg _ (h entry he other ho ((hf entry other).mpr halike)))
  · intro h entry he other ho hsame
    by_contra hne
    exact h entry he other ho (fun hout => hne (hinj he ho hout)) ((hf entry other).mp hsame)

/-- Where the ids of all outputs and modes are known, so are those at one place. -/
theorem getElem?_of_map {β : Type} {f : OutputTopologyEntry → β} {ids : List β}
    (h : ids = snapshot.outputs.map f) {i : ℕ} {entry : OutputTopologyEntry}
    (he : snapshot.outputs[i]? = some entry) : ids[i]? = some (f entry) := by
  rw [h, List.getElem?_map, he]
  rfl

/-- The ids of a valid topology tell its outputs and modes apart exactly when no two outputs fold
alike and no two different modes hash alike. -/
theorem randr_identifies_iff (snapshot : OutputTopologySnapshot) (root : Size)
    (h : snapshot.validate = .ok root) :
    ∃ resources, randrResources snapshot = .ok resources ∧
      (Identifies snapshot resources ↔
        (∀ entry ∈ snapshot.outputs, ∀ other ∈ snapshot.outputs,
          entry.output ≠ other.output → ¬ FoldsAlike entry.output.raw other.output.raw) ∧
        ∀ entry ∈ snapshot.outputs, ∀ other ∈ snapshot.outputs,
          ¬ SameMode entry other → ¬ HashesAlike entry other) := by
  obtain ⟨resources, hresources⟩ := randrResources_of_valid h
  obtain ⟨hcrtcs, houtputs, hmodes⟩ := randrResources_ids hresources
  have hdistinct := (OutputTopologySnapshot.validate_spec h).1
  refine ⟨resources, hresources, fun hids => ⟨?_, ?_⟩, fun ⟨hfolds, hhashes⟩ => ?_⟩
  · exact (nodup_map_iff randrCrtc_eq_iff hdistinct).mp (hcrtcs ▸ hids.crtcs)
  · intro entry he other ho hdiffer halike
    obtain ⟨i, hi⟩ := List.mem_iff_getElem?.mp he
    obtain ⟨j, hj⟩ := List.mem_iff_getElem?.mp ho
    refine hdiffer (hids.modes i j entry other hi hj ?_)
    rw [getElem?_of_map hmodes hi, getElem?_of_map hmodes hj,
      (randrModeId_eq_iff entry other).mpr halike]
  · refine ⟨?_, ?_, fun i j entry other hi hj hsame => ?_, ?_⟩
    · rw [hcrtcs]
      exact (nodup_map_iff randrCrtc_eq_iff hdistinct).mpr hfolds
    · rw [houtputs]
      exact (nodup_map_iff randrOutput_eq_iff hdistinct).mpr hfolds
    · by_contra hdiffer
      rw [getElem?_of_map hmodes hi, getElem?_of_map hmodes hj, Option.some.injEq] at hsame
      exact hhashes entry (List.mem_of_getElem? hi) other (List.mem_of_getElem? hj) hdiffer
        ((randrModeId_eq_iff entry other).mp hsame)
    · rintro after root' resources' - hafter i j entry other hi hj
      obtain ⟨hcrtcs', houtputs', hmodes'⟩ := randrResources_ids hafter
      rw [getElem?_of_map hcrtcs hi, getElem?_of_map houtputs hi, getElem?_of_map hmodes hi,
        getElem?_of_map hcrtcs' hj, getElem?_of_map houtputs' hj, getElem?_of_map hmodes' hj]
      refine ⟨fun hout => ?_, fun ⟨hwidth, hheight, hrefresh⟩ => ?_⟩
      · rw [randrCrtc, randrCrtc, randrOutput, randrOutput, hout]
        exact ⟨rfl, rfl⟩
      · rw [randrModeId, randrModeId, hwidth, hheight, hrefresh]

/-- An output of the given id, size and refresh rate. -/
def outputAt (id : UInt64) (x width height : Int32) (refreshMillihz : UInt32) :
    OutputTopologyEntry :=
  ⟨⟨id⟩, ⟨x, 0, width, height⟩, ⟨width, height⟩, 1, refreshMillihz⟩

/-- One output of the common size. -/
theorem randr_identifies_iff_single :
    ∃ resources, randrResources ⟨1, ⟨1⟩, [outputAt 1 0 1280 720 60000]⟩ = .ok resources ∧
      Identifies ⟨1, ⟨1⟩, [outputAt 1 0 1280 720 60000]⟩ resources := by
  obtain ⟨resources, hresources, hiff⟩ :=
    randr_identifies_iff ⟨1, ⟨1⟩, [outputAt 1 0 1280 720 60000]⟩ ⟨1280, 720⟩ (by decide +kernel)
  refine ⟨resources, hresources, hiff.mpr ⟨?_, ?_⟩⟩
  · simp
  · simp [SameMode]

/-- Two outputs of their own ids and modes, which clients cannot tell apart. -/
theorem outputs_collide :
    OutputTopologySnapshot.validate ⟨1, ⟨1⟩,
        [outputAt 1 0 1600 800 100000, outputAt 0x10000001 1600 1600 768 120000]⟩ =
      .ok ⟨3200, 800⟩ ∧
    ∃ resources, randrResources ⟨1, ⟨1⟩,
        [outputAt 1 0 1600 800 100000, outputAt 0x10000001 1600 1600 768 120000]⟩ =
      .ok resources ∧ ¬ resources.crtcs.Nodup ∧ ¬ resources.outputs.Nodup ∧
        ¬ (resources.modes.map (·.id)).Nodup := by
  refine ⟨by decide +kernel, _, rfl, by decide +kernel, by decide +kernel, by decide +kernel⟩

end Resources
end Sophia.Authority
