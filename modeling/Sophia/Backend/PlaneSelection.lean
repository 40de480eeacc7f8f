import Sophia.Lib.Fallible
import Sophia.Lib.Pick
import Sophia.Lib.Greedy
import Sophia.Protocol

/-! Which CRTC and which primary plane each connected connector of a device gets. -/
namespace Sophia.Backend

open Protocol

def liveRenderedOutputCapacity : ℕ := 16

inductive PlaneType where
  | overlay
  | primary
  | cursor
  deriving DecidableEq, Repr

structure LibdrmNativeConnectorSnapshot (Mode : Type) where
  connected : Bool
  currentEncoder : Option UInt32
  encoders : List UInt32
  modeSize : Option Size
  nativeMode : Option Mode

/-- The current encoder first, and none twice. -/
def LibdrmNativeConnectorSnapshot.orderedEncoders {Mode : Type}
    (snapshot : LibdrmNativeConnectorSnapshot Mode) : List UInt32 :=
  Firsts.firsts (snapshot.currentEncoder.toList ++ snapshot.encoders)

/-- The size of the mode, unless it has no pixels. -/
def LibdrmNativeConnectorSnapshot.usableSize {Mode : Type}
    (snapshot : LibdrmNativeConnectorSnapshot Mode) : Option Size :=
  snapshot.modeSize.filter fun size => 0 < size.width ∧ 0 < size.height

structure LibdrmNativeEncoderSnapshot where
  currentCrtc : Option UInt32
  compatibleCrtcs : List UInt32

def LibdrmNativeEncoderSnapshot.orderedCrtcs (snapshot : LibdrmNativeEncoderSnapshot) :
    List UInt32 :=
  Firsts.firsts (snapshot.currentCrtc.toList ++ snapshot.compatibleCrtcs)

structure LibdrmNativePlaneSnapshot where
  compatibleCrtcs : List UInt32

def LibdrmNativePlaneSnapshot.supportsCrtc (snapshot : LibdrmNativePlaneSnapshot)
    (crtc : UInt32) : Bool :=
  snapshot.compatibleCrtcs.contains crtc

/-- What a device answers when it is asked; a read that fails has no answer. -/
structure LibdrmNativeKmsSelectionDevice (Mode : Type) where
  connectorHandles : Option (List UInt32)
  crtcHandles : Option (List UInt32)
  planeHandles : Option (List UInt32)
  connectorSnapshot : UInt32 → Option (LibdrmNativeConnectorSnapshot Mode)
  encoderSnapshot : UInt32 → Option LibdrmNativeEncoderSnapshot
  planeSnapshot : UInt32 → Option LibdrmNativePlaneSnapshot
  planeType : UInt32 → Option (Option PlaneType)

structure LibdrmNativePrimaryPlaneSelection (Mode : Type) where
  connector : UInt32
  crtc : UInt32
  plane : UInt32
  size : Size
  mode : Option Mode

inductive LibdrmNativePrimaryPlaneSelectionSetStatus where
  | selectedAll
  | partialSelection
  | readFailed
  | noConnectedConnector
  | capacityExceeded
  | noDisjointAssignment
  deriving DecidableEq, Repr

structure LibdrmNativePrimaryPlaneSelectionSetResult (Mode : Type) where
  status : LibdrmNativePrimaryPlaneSelectionSetStatus
  connectedConnectors : ℕ
  selections : List (LibdrmNativePrimaryPlaneSelection Mode)

/-- What the loop over the connectors carries along. -/
structure SelectionProgress (Mode : Type) where
  connectedConnectors : ℕ
  selections : List (LibdrmNativePrimaryPlaneSelection Mode)
  usedCrtcs : List UInt32
  usedPlanes : List UInt32

variable {Mode : Type}

def SelectionProgress.start : SelectionProgress Mode := ⟨0, [], [], []⟩

def SelectionProgress.select (progress : SelectionProgress Mode)
    (selection : LibdrmNativePrimaryPlaneSelection Mode) : SelectionProgress Mode :=
  { progress with
    selections := progress.selections ++ [selection]
    usedCrtcs := progress.usedCrtcs ++ [selection.crtc]
    usedPlanes := progress.usedPlanes ++ [selection.plane] }

def selectionSetFailure (status : LibdrmNativePrimaryPlaneSelectionSetStatus)
    (connectedConnectors : ℕ) : LibdrmNativePrimaryPlaneSelectionSetResult Mode :=
  ⟨status, connectedConnectors, []⟩

/-- The status once every connector has been seen. -/
def SelectionProgress.finish (progress : SelectionProgress Mode) :
    LibdrmNativePrimaryPlaneSelectionSetResult Mode :=
  let status :=
    if progress.connectedConnectors = 0 then .noConnectedConnector
    else if progress.selections.length = progress.connectedConnectors then .selectedAll
    else if progress.selections.isEmpty then .noDisjointAssignment
    else .partialSelection
  ⟨status, progress.connectedConnectors, progress.selections⟩

namespace LibdrmNativeKmsSelectionDevice

variable (device : LibdrmNativeKmsSelectionDevice Mode)

/-- One turn of the innermost loop: the plane, if it is free, supports the CRTC and is primary. -/
def tryPlane (usedPlanes : List UInt32) (crtc plane : UInt32) : Option (Option UInt32) :=
  if plane ∈ usedPlanes then some none
  else do
    let snapshot ← device.planeSnapshot plane
    if !snapshot.supportsCrtc crtc then return none
    let planeType ← device.planeType plane
    return if planeType = some .primary then some plane else none

/-- One turn of the loop over the CRTCs of an encoder. -/
def tryCrtc (crtcs planes : List UInt32) (progress : SelectionProgress Mode) (crtc : UInt32) :
    Option (Option (UInt32 × UInt32)) :=
  if crtc ∉ crtcs ∨ crtc ∈ progress.usedCrtcs then some none
  else do
    let plane ← planes.findSomeM? (device.tryPlane progress.usedPlanes crtc)
    return plane.map fun plane => (crtc, plane)

def tryEncoder (crtcs planes : List UInt32) (progress : SelectionProgress Mode)
    (encoder : UInt32) : Option (Option (UInt32 × UInt32)) := do
  let encoder ← device.encoderSnapshot encoder
  encoder.orderedCrtcs.findSomeM? (device.tryCrtc crtcs planes progress)

def selectTarget (crtcs planes : List UInt32) (progress : SelectionProgress Mode)
    (snapshot : LibdrmNativeConnectorSnapshot Mode) : Option (Option (UInt32 × UInt32)) :=
  snapshot.orderedEncoders.findSomeM? (device.tryEncoder crtcs planes progress)

def selectTargets (crtcs planes : List UInt32) :
    List UInt32 → SelectionProgress Mode → LibdrmNativePrimaryPlaneSelectionSetResult Mode
  | [], progress => progress.finish
  | connector :: connectors, progress =>
    match device.connectorSnapshot connector with
    | none => selectionSetFailure .readFailed progress.connectedConnectors
    | some snapshot =>
      if !snapshot.connected then selectTargets crtcs planes connectors progress
      else
        let progress := { progress with connectedConnectors := progress.connectedConnectors + 1 }
        if liveRenderedOutputCapacity < progress.connectedConnectors then
          ⟨.capacityExceeded, progress.connectedConnectors, progress.selections⟩
        else
          match snapshot.usableSize with
          | none => selectTargets crtcs planes connectors progress
          | some size => match device.selectTarget crtcs planes progress snapshot with
            | none => selectionSetFailure .readFailed progress.connectedConnectors
            | some none => selectTargets crtcs planes connectors progress
            | some (some (crtc, plane)) =>
              selectTargets crtcs planes connectors
                (progress.select ⟨connector, crtc, plane, size, snapshot.nativeMode⟩)

end LibdrmNativeKmsSelectionDevice

def selectNativePrimaryPlaneTargets (device : LibdrmNativeKmsSelectionDevice Mode) :
    LibdrmNativePrimaryPlaneSelectionSetResult Mode :=
  match device.connectorHandles, device.crtcHandles, device.planeHandles with
  | some connectors, some crtcs, some planes =>
    device.selectTargets (crtcs.mergeSort fun a b => a ≤ b) (planes.mergeSort fun a b => a ≤ b)
      (connectors.mergeSort fun a b => a ≤ b) .start
  | _, _, _ => selectionSetFailure .readFailed 0

namespace LibdrmNativeKmsSelectionDevice

variable (device : LibdrmNativeKmsSelectionDevice Mode)

def connected (connector : UInt32) : Bool :=
  (device.connectorSnapshot connector).any LibdrmNativeConnectorSnapshot.connected

/-- The connector is connected and has a mode with pixels. -/
def usable (connector : UInt32) : Bool :=
  (device.connectorSnapshot connector).any fun snapshot =>
    snapshot.connected && snapshot.usableSize.isSome

/-- One of the connector's encoders can drive the CRTC. -/
def Reaches (connector crtc : UInt32) : Prop :=
  ∃ snapshot, device.connectorSnapshot connector = some snapshot ∧
    ∃ encoder, (snapshot.currentEncoder = some encoder ∨ encoder ∈ snapshot.encoders) ∧
      ∃ own, device.encoderSnapshot encoder = some own ∧
        (own.currentCrtc = some crtc ∨ crtc ∈ own.compatibleCrtcs)

/-- The plane is a primary one and supports the CRTC. -/
def Serves (plane crtc : UInt32) : Prop :=
  (∃ snapshot, device.planeSnapshot plane = some snapshot ∧ crtc ∈ snapshot.compatibleCrtcs) ∧
    device.planeType plane = some (some .primary)

/-- The connector can be shown through the CRTC with the plane. -/
def Target (crtcs planes : List UInt32) (connector : UInt32) (target : UInt32 × UInt32) : Prop :=
  (target.1 ∈ crtcs ∧ device.Reaches connector target.1) ∧
    target.2 ∈ planes ∧ device.Serves target.2 target.1

/-- Every read the selection may make succeeds. -/
structure Readable (connectors planes : List UInt32) : Prop where
  connector : ∀ connector ∈ connectors, (device.connectorSnapshot connector).isSome
  encoder : ∀ connector ∈ connectors, ∀ snapshot,
    device.connectorSnapshot connector = some snapshot → snapshot.connected →
      ∀ encoder ∈ snapshot.orderedEncoders, (device.encoderSnapshot encoder).isSome
  plane : ∀ plane ∈ planes,
    (device.planeSnapshot plane).isSome ∧ (device.planeType plane).isSome

end LibdrmNativeKmsSelectionDevice

theorem LibdrmNativeConnectorSnapshot.mem_orderedEncoders
    {snapshot : LibdrmNativeConnectorSnapshot Mode} {encoder : UInt32} :
    encoder ∈ snapshot.orderedEncoders ↔
      snapshot.currentEncoder = some encoder ∨ encoder ∈ snapshot.encoders := by
  rw [orderedEncoders, (Firsts.firstOccurrences_firsts _).mem_iff, List.mem_append,
    Option.mem_toList]

theorem LibdrmNativeEncoderSnapshot.mem_orderedCrtcs
    {snapshot : LibdrmNativeEncoderSnapshot} {crtc : UInt32} :
    crtc ∈ snapshot.orderedCrtcs ↔
      snapshot.currentCrtc = some crtc ∨ crtc ∈ snapshot.compatibleCrtcs := by
  rw [orderedCrtcs, (Firsts.firstOccurrences_firsts _).mem_iff, List.mem_append,
    Option.mem_toList]

namespace LibdrmNativeKmsSelectionDevice

section Loops

variable {device : LibdrmNativeKmsSelectionDevice Mode} {crtcs planes usedPlanes : List UInt32}
  {progress : SelectionProgress Mode} {snapshot : LibdrmNativeConnectorSnapshot Mode}
  {connector crtc plane : UInt32} {target : UInt32 × UInt32}

theorem tryPlane_eq_some {found : Option UInt32}
    (h : device.tryPlane usedPlanes crtc plane = some found) :
    plane ∉ usedPlanes ∧ device.Serves plane crtc ∧ found = some plane ∨
      (device.Serves plane crtc → plane ∈ usedPlanes) ∧ found = none := by
  rw [tryPlane] at h
  split at h
  · rename_i hused
    cases h
    exact .inr ⟨fun _ => hused, rfl⟩
  rename_i hfree
  obtain ⟨snapshot, hsnapshot, h⟩ := Option.bind_eq_some_iff.mp h
  split at h
  · rename_i hnot
    cases h
    refine .inr ⟨?_, rfl⟩
    rintro ⟨⟨other, hother, hmem⟩, -⟩
    cases hsnapshot.symm.trans hother
    simp [LibdrmNativePlaneSnapshot.supportsCrtc, hmem] at hnot
  rename_i hsupports
  obtain ⟨planeType, htype, h⟩ := Option.bind_eq_some_iff.mp h
  have hmem : crtc ∈ snapshot.compatibleCrtcs := by
    simpa [LibdrmNativePlaneSnapshot.supportsCrtc] using hsupports
  cases h
  by_cases hprimary : planeType = some .primary
  · subst hprimary
    exact .inl ⟨hfree, ⟨⟨snapshot, hsnapshot, hmem⟩, htype⟩, if_pos rfl⟩
  · refine .inr ⟨?_, if_neg hprimary⟩
    rintro ⟨-, hserves⟩
    cases htype.symm.trans hserves
    exact absurd rfl hprimary

theorem tryCrtc_found (h : device.tryCrtc crtcs planes progress crtc = some (some target)) :
    (target.1 = crtc ∧ crtc ∈ crtcs ∧ crtc ∉ progress.usedCrtcs) ∧
      (target.2 ∈ planes ∧ device.Serves target.2 target.1) ∧ target.2 ∉ progress.usedPlanes := by
  rw [tryCrtc] at h
  split at h
  · cases h
  rename_i hfree
  rw [not_or, not_not] at hfree
  obtain ⟨found, hplane, h⟩ := Option.bind_eq_some_iff.mp h
  cases found with
  | none => cases h
  | some plane =>
    cases h
    obtain ⟨own, hmem, hfound⟩ := Fallible.exists_of_findSomeM? hplane
    rcases tryPlane_eq_some hfound with ⟨hunused, hserves, he⟩ | ⟨-, he⟩
    · cases he
      exact ⟨⟨rfl, hfree⟩, ⟨hmem, hserves⟩, hunused⟩
    · cases he

theorem tryCrtc_missing (h : device.tryCrtc crtcs planes progress crtc = some none)
    (hcrtc : crtc ∈ crtcs) : crtc ∈ progress.usedCrtcs ∨
      ∀ plane ∈ planes, device.Serves plane crtc → plane ∈ progress.usedPlanes := by
  rw [tryCrtc] at h
  split at h
  · rename_i hused
    exact .inl (hused.resolve_left (not_not.mpr hcrtc))
  obtain ⟨found, hplane, h⟩ := Option.bind_eq_some_iff.mp h
  cases found with
  | some plane => cases h
  | none =>
    right
    intro plane hmem hserves
    have hmissing := Fallible.findSomeM?_eq_none hplane plane hmem
    rcases tryPlane_eq_some hmissing with ⟨-, -, he⟩ | ⟨hall, -⟩
    · cases he
    · exact hall hserves

/-- What is found for a connector is free and within its reach. -/
theorem selectTarget_found (hsnapshot : device.connectorSnapshot connector = some snapshot)
    (h : device.selectTarget crtcs planes progress snapshot = some (some target)) :
    device.Target crtcs planes connector target ∧
      target.1 ∉ progress.usedCrtcs ∧ target.2 ∉ progress.usedPlanes := by
  obtain ⟨encoder, hencoder, h⟩ := Fallible.exists_of_findSomeM? h
  obtain ⟨own, hown, h⟩ := Option.bind_eq_some_iff.mp h
  obtain ⟨crtc, hcrtc, h⟩ := Fallible.exists_of_findSomeM? h
  obtain ⟨⟨rfl, hmem, hunused⟩, hplane, hfree⟩ := tryCrtc_found h
  have hreaches : device.Reaches connector target.1 := ⟨snapshot, hsnapshot, encoder,
    LibdrmNativeConnectorSnapshot.mem_orderedEncoders.mp hencoder, own, hown,
    LibdrmNativeEncoderSnapshot.mem_orderedCrtcs.mp hcrtc⟩
  exact ⟨⟨⟨hmem, hreaches⟩, hplane⟩, hunused, hfree⟩

/-- Where nothing is found, everything within reach is in use. -/
theorem selectTarget_missing (hsnapshot : device.connectorSnapshot connector = some snapshot)
    (h : device.selectTarget crtcs planes progress snapshot = some none)
    (htarget : device.Target crtcs planes connector target) :
    target.1 ∈ progress.usedCrtcs ∨ target.2 ∈ progress.usedPlanes := by
  obtain ⟨⟨hcrtc, other, hother, encoder, hencoder, own, hown, hdrives⟩, hplane, hserves⟩ := htarget
  cases hsnapshot.symm.trans hother
  have hencoder' := Fallible.findSomeM?_eq_none h encoder
    (LibdrmNativeConnectorSnapshot.mem_orderedEncoders.mpr hencoder)
  obtain ⟨again, hagain, hcrtcs⟩ := Option.bind_eq_some_iff.mp hencoder'
  cases hown.symm.trans hagain
  have htry := Fallible.findSomeM?_eq_none hcrtcs target.1
    (LibdrmNativeEncoderSnapshot.mem_orderedCrtcs.mpr hdrives)
  exact (tryCrtc_missing htry hcrtc).imp_right fun hall => hall target.2 hplane hserves

theorem selectTarget_isSome {connectors : List UInt32} (crtcs : List UInt32)
    (progress : SelectionProgress Mode) (hreads : device.Readable connectors planes)
    (hconnector : connector ∈ connectors)
    (hsnapshot : device.connectorSnapshot connector = some snapshot)
    (hconnected : snapshot.connected) :
    (device.selectTarget crtcs planes progress snapshot).isSome := by
  refine Fallible.findSomeM?_isSome fun encoder hencoder => ?_
  obtain ⟨own, hown⟩ := Option.isSome_iff_exists.mp
    (hreads.encoder connector hconnector snapshot hsnapshot hconnected encoder hencoder)
  rw [tryEncoder, hown]
  refine Fallible.findSomeM?_isSome fun crtc _ => ?_
  rw [tryCrtc]
  split
  · rfl
  have hplanes : (planes.findSomeM? (device.tryPlane progress.usedPlanes crtc)).isSome := by
    refine Fallible.findSomeM?_isSome fun plane hplane => ?_
    obtain ⟨hsnapshots, htypes⟩ := hreads.plane plane hplane
    obtain ⟨planeSnapshot, hplaneSnapshot⟩ := Option.isSome_iff_exists.mp hsnapshots
    obtain ⟨planeType, htype⟩ := Option.isSome_iff_exists.mp htypes
    rw [tryPlane, hplaneSnapshot, htype]
    split
    · rfl
    · dsimp only [Option.bind_eq_bind, Option.bind_some]
      split <;> rfl
  obtain ⟨found, hfound⟩ := Option.isSome_iff_exists.mp hplanes
  rw [hfound]
  rfl

end Loops

end LibdrmNativeKmsSelectionDevice

end Sophia.Backend
