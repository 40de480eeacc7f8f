import Sophia.Backend.PlaneSelection

/-! The selection is greedy: what it hands out is disjoint, and what it leaves out was blocked. -/
namespace Sophia.Backend

open Protocol

variable {Mode : Type}

/-- The CRTC and the plane of a target, which no two targets may share. -/
def resources (target : UInt32 × UInt32) : List (UInt32 ⊕ UInt32) :=
  [.inl target.1, .inr target.2]

/-- The connector of a selection and what it gets. -/
def LibdrmNativePrimaryPlaneSelection.entry (selection : LibdrmNativePrimaryPlaneSelection Mode) :
    UInt32 × UInt32 × UInt32 :=
  (selection.connector, selection.crtc, selection.plane)

/-- What the loop carries along after some connectors. -/
structure SelectionProgress.Tracks (device : LibdrmNativeKmsSelectionDevice Mode)
    (crtcs planes done : List UInt32) (progress : SelectionProgress Mode) : Prop where
  count : progress.connectedConnectors = (done.filter device.connected).length
  heldCrtcs : progress.usedCrtcs = progress.selections.map LibdrmNativePrimaryPlaneSelection.crtc
  heldPlanes : progress.usedPlanes = progress.selections.map LibdrmNativePrimaryPlaneSelection.plane
  allocated : Greedy.Allocated (device.Target crtcs planes) resources (done.filter device.usable)
    (progress.selections.map LibdrmNativePrimaryPlaneSelection.entry)
  modes : ∀ selection ∈ progress.selections, ∃ snapshot,
    device.connectorSnapshot selection.connector = some snapshot ∧
      snapshot.usableSize = some selection.size ∧ selection.mode = snapshot.nativeMode

section Progress

variable {device : LibdrmNativeKmsSelectionDevice Mode} {crtcs planes done : List UInt32}
  {progress : SelectionProgress Mode} {snapshot : LibdrmNativeConnectorSnapshot Mode}
  {selections : List (LibdrmNativePrimaryPlaneSelection Mode)}
  {connector : UInt32} {target : UInt32 × UInt32} {size : Size}

theorem free_iff :
    Greedy.Free resources
        (Greedy.held resources (selections.map LibdrmNativePrimaryPlaneSelection.entry)) target ↔
      target.1 ∉ selections.map LibdrmNativePrimaryPlaneSelection.crtc ∧
        target.2 ∉ selections.map LibdrmNativePrimaryPlaneSelection.plane := by
  simp [Greedy.Free, Greedy.mem_held, resources, LibdrmNativePrimaryPlaneSelection.entry, eq_comm]

theorem tracks_start : SelectionProgress.start.Tracks device crtcs planes [] where
  count := rfl
  heldCrtcs := rfl
  heldPlanes := rfl
  allocated := Greedy.allocated_nil
  modes := by simp [SelectionProgress.start]

theorem connected_of_snapshot (hsnapshot : device.connectorSnapshot connector = some snapshot) :
    device.connected connector = snapshot.connected := by
  simp [LibdrmNativeKmsSelectionDevice.connected, hsnapshot]

theorem usable_of_snapshot (hsnapshot : device.connectorSnapshot connector = some snapshot) :
    device.usable connector = (snapshot.connected && snapshot.usableSize.isSome) := by
  simp [LibdrmNativeKmsSelectionDevice.usable, hsnapshot]

/-- A connector that is not connected changes nothing. -/
theorem SelectionProgress.Tracks.pass (h : progress.Tracks device crtcs planes done)
    (hconnected : device.connected connector = false) (husable : device.usable connector = false) :
    progress.Tracks device crtcs planes (done ++ [connector]) where
  count := by simp [h.count, hconnected]
  heldCrtcs := h.heldCrtcs
  heldPlanes := h.heldPlanes
  allocated := by simpa [husable] using h.allocated
  modes := h.modes

theorem SelectionProgress.Tracks.unusable (h : progress.Tracks device crtcs planes done)
    (hconnected : device.connected connector) (husable : device.usable connector = false) :
    SelectionProgress.Tracks device crtcs planes (done ++ [connector])
      { progress with connectedConnectors := progress.connectedConnectors + 1 } where
  count := by simp [h.count, hconnected]
  heldCrtcs := h.heldCrtcs
  heldPlanes := h.heldPlanes
  allocated := by simpa [husable] using h.allocated
  modes := h.modes

theorem SelectionProgress.Tracks.skip (h : progress.Tracks device crtcs planes done)
    (hconnected : device.connected connector) (husable : device.usable connector)
    (hnone : ∀ target, device.Target crtcs planes connector target →
      target.1 ∈ progress.usedCrtcs ∨ target.2 ∈ progress.usedPlanes) :
    SelectionProgress.Tracks device crtcs planes (done ++ [connector])
      { progress with connectedConnectors := progress.connectedConnectors + 1 } where
  count := by simp [h.count, hconnected]
  heldCrtcs := h.heldCrtcs
  heldPlanes := h.heldPlanes
  allocated := by
    rw [List.filter_append, List.filter_singleton, husable]
    refine h.allocated.skip fun target htarget hfree => ?_
    rw [free_iff, ← h.heldCrtcs, ← h.heldPlanes] at hfree
    exact (hnone target htarget).elim hfree.1 hfree.2
  modes := h.modes

theorem SelectionProgress.Tracks.select (h : progress.Tracks device crtcs planes done)
    (hsnapshot : device.connectorSnapshot connector = some snapshot)
    (hconnected : snapshot.connected) (hsize : snapshot.usableSize = some size)
    (htarget : device.Target crtcs planes connector target)
    (hcrtc : target.1 ∉ progress.usedCrtcs) (hplane : target.2 ∉ progress.usedPlanes) :
    SelectionProgress.Tracks device crtcs planes (done ++ [connector])
      (SelectionProgress.select
        { progress with connectedConnectors := progress.connectedConnectors + 1 }
        ⟨connector, target.1, target.2, size, snapshot.nativeMode⟩) where
  count := by simp [SelectionProgress.select, h.count, connected_of_snapshot hsnapshot, hconnected]
  heldCrtcs := by simp [SelectionProgress.select, h.heldCrtcs]
  heldPlanes := by simp [SelectionProgress.select, h.heldPlanes]
  allocated := by
    have husable : device.usable connector := by
      simp [usable_of_snapshot hsnapshot, hconnected, hsize]
    rw [List.filter_append, List.filter_singleton, husable]
    have hfree := free_iff.mpr ⟨h.heldCrtcs ▸ hcrtc, h.heldPlanes ▸ hplane⟩
    simpa [SelectionProgress.select, LibdrmNativePrimaryPlaneSelection.entry] using
      h.allocated.take htarget hfree
  modes := by
    intro selection hselection
    rcases List.mem_append.mp hselection with hselection | hselection
    · exact h.modes selection hselection
    · rw [List.mem_singleton.mp hselection]
      exact ⟨snapshot, hsnapshot, hsize, rfl⟩

/-- How the selection can end. -/
inductive SelectionOutcome (device : LibdrmNativeKmsSelectionDevice Mode)
    (crtcs planes connectors : List UInt32) :
    LibdrmNativePrimaryPlaneSelectionSetResult Mode → Prop
  | readFailed (count : ℕ) :
      SelectionOutcome device crtcs planes connectors (selectionSetFailure .readFailed count)
  | capacityExceeded {served : List UInt32} {last : SelectionProgress Mode} (count : ℕ)
      (hserved : served.Sublist connectors) (h : last.Tracks device crtcs planes served)
      (hmany : liveRenderedOutputCapacity < (connectors.filter device.connected).length) :
      SelectionOutcome device crtcs planes connectors ⟨.capacityExceeded, count, last.selections⟩
  | finished {last : SelectionProgress Mode} (h : last.Tracks device crtcs planes connectors) :
      SelectionOutcome device crtcs planes connectors last.finish

theorem selectTargets_outcome (connectors : List UInt32)
    (h : progress.Tracks device crtcs planes done) :
    SelectionOutcome device crtcs planes (done ++ connectors)
      (device.selectTargets crtcs planes connectors progress) := by
  induction connectors generalizing done progress with
  | nil =>
    rw [List.append_nil]
    exact .finished h
  | cons connector rest ih =>
    have hsplit : done ++ connector :: rest = done ++ [connector] ++ rest := by simp
    rw [LibdrmNativeKmsSelectionDevice.selectTargets]
    cases hsnapshot : device.connectorSnapshot connector with
    | none => exact .readFailed _
    | some snapshot =>
      have hconnected := connected_of_snapshot hsnapshot
      have husable := usable_of_snapshot hsnapshot
      dsimp only
      split
      · rename_i hnot
        rw [Bool.not_eq_true'] at hnot
        rw [hnot] at hconnected husable
        rw [hsplit]
        exact ih (h.pass hconnected husable)
      rename_i hyes
      rw [Bool.not_eq_true', Bool.not_eq_false] at hyes
      rw [hyes] at hconnected husable
      rw [Bool.true_and] at husable
      split
      · rename_i hmany
        refine .capacityExceeded _ (List.sublist_append_left done _) h ?_
        rw [List.filter_append, List.length_append, List.filter_cons_of_pos hconnected,
          List.length_cons]
        have hcount := h.count
        omega
      rw [hsplit]
      cases hsize : snapshot.usableSize with
      | none =>
        rw [hsize] at husable
        exact ih (h.unusable hconnected husable)
      | some size =>
        rw [hsize] at husable
        cases hselected : device.selectTarget crtcs planes
          { progress with connectedConnectors := progress.connectedConnectors + 1 } snapshot with
        | none => exact .readFailed _
        | some selected =>
          cases selected with
          | none =>
            refine ih (h.skip hconnected husable fun target htarget => ?_)
            exact LibdrmNativeKmsSelectionDevice.selectTarget_missing hsnapshot hselected htarget
          | some target =>
            obtain ⟨htarget, hcrtc, hplane⟩ :=
              LibdrmNativeKmsSelectionDevice.selectTarget_found hsnapshot hselected
            exact ih (h.select hsnapshot hyes hsize htarget hcrtc hplane)

theorem selectTargets_reads {connectors : List UInt32} (all : List UInt32)
    (hreads : device.Readable all planes)
    (hall : ∀ connector ∈ connectors, connector ∈ all) (progress : SelectionProgress Mode) :
    (device.selectTargets crtcs planes connectors progress).status ≠ .readFailed := by
  induction connectors generalizing progress with
  | nil =>
    simp only [LibdrmNativeKmsSelectionDevice.selectTargets, SelectionProgress.finish]
    split
    · simp
    split
    · simp
    split <;> simp
  | cons connector rest ih =>
    obtain ⟨hconnector, hrest⟩ := List.forall_mem_cons.mp hall
    obtain ⟨snapshot, hsnapshot⟩ :=
      Option.isSome_iff_exists.mp (hreads.connector connector hconnector)
    rw [LibdrmNativeKmsSelectionDevice.selectTargets, hsnapshot]
    dsimp only
    split
    · exact ih hrest progress
    rename_i hconnected
    rw [Bool.not_eq_true', Bool.not_eq_false] at hconnected
    split
    · simp
    cases snapshot.usableSize with
    | none => exact ih hrest _
    | some size =>
      have hdone := LibdrmNativeKmsSelectionDevice.selectTarget_isSome crtcs
        { progress with connectedConnectors := progress.connectedConnectors + 1 } hreads
        hconnector hsnapshot hconnected
      obtain ⟨selected, hselected⟩ := Option.isSome_iff_exists.mp hdone
      dsimp only
      rw [hselected]
      cases selected with
      | none => exact ih hrest _
      | some target => exact ih hrest _

end Progress

/-- No connector, CRTC or plane is selected twice, and each selection is within reach and has the
mode of its connector. -/
structure SelectionsSound (device : LibdrmNativeKmsSelectionDevice Mode)
    (connectors crtcs planes : List UInt32)
    (selections : List (LibdrmNativePrimaryPlaneSelection Mode)) : Prop where
  connectorsOnce : (selections.map LibdrmNativePrimaryPlaneSelection.connector).Nodup
  crtcsOnce : (selections.map LibdrmNativePrimaryPlaneSelection.crtc).Nodup
  planesOnce : (selections.map LibdrmNativePrimaryPlaneSelection.plane).Nodup
  reached : ∀ selection ∈ selections, selection.connector ∈ connectors ∧
    device.usable selection.connector ∧
    device.Target crtcs planes selection.connector (selection.crtc, selection.plane)
  modes : ∀ selection ∈ selections, ∃ snapshot,
    device.connectorSnapshot selection.connector = some snapshot ∧
      snapshot.usableSize = some selection.size ∧ selection.mode = snapshot.nativeMode

/-- A usable connector is left out only where each of its targets has its CRTC or plane in use. -/
def NoneFree (device : LibdrmNativeKmsSelectionDevice Mode)
    (connectors crtcs planes : List UInt32)
    (selections : List (LibdrmNativePrimaryPlaneSelection Mode)) : Prop :=
  ∀ connector ∈ connectors, device.usable connector →
    connector ∈ selections.map LibdrmNativePrimaryPlaneSelection.connector ∨
      ∀ target, device.Target crtcs planes connector target →
        target.1 ∈ selections.map LibdrmNativePrimaryPlaneSelection.crtc ∨
          target.2 ∈ selections.map LibdrmNativePrimaryPlaneSelection.plane

section Outcomes

variable {device : LibdrmNativeKmsSelectionDevice Mode}
  {connectors crtcs planes served : List UInt32} {last : SelectionProgress Mode}
  {result : LibdrmNativePrimaryPlaneSelectionSetResult Mode}

theorem SelectionProgress.Tracks.sound (h : last.Tracks device crtcs planes served)
    (hserved : served.Sublist connectors) (honce : connectors.Nodup) :
    SelectionsSound device connectors crtcs planes last.selections where
  connectorsOnce := by
    have horder := h.allocated.order
    rw [List.map_map] at horder
    exact ((honce.sublist hserved).filter _).sublist horder
  crtcsOnce := by
    refine List.pairwise_map.mpr ((List.pairwise_map.mp h.allocated.apart).imp ?_)
    intro selection other hapart he
    exact hapart (.inl other.crtc) (by simp [resources, LibdrmNativePrimaryPlaneSelection.entry])
      (by simp [resources, LibdrmNativePrimaryPlaneSelection.entry, he])
  planesOnce := by
    refine List.pairwise_map.mpr ((List.pairwise_map.mp h.allocated.apart).imp ?_)
    intro selection other hapart he
    exact hapart (.inr other.plane) (by simp [resources, LibdrmNativePrimaryPlaneSelection.entry])
      (by simp [resources, LibdrmNativePrimaryPlaneSelection.entry, he])
  reached := by
    intro selection hselection
    have hentry := List.mem_map_of_mem (f := LibdrmNativePrimaryPlaneSelection.entry) hselection
    obtain ⟨hmem, husable⟩ := List.mem_filter.mp
      (h.allocated.order.subset (List.mem_map_of_mem (f := Prod.fst) hentry))
    exact ⟨hserved.subset hmem, husable, h.allocated.offered _ hentry⟩
  modes := h.modes

theorem SelectionProgress.Tracks.noneFree (h : last.Tracks device crtcs planes connectors) :
    NoneFree device connectors crtcs planes last.selections := by
  intro connector hconnector husable
  rcases h.allocated.stuck connector (List.mem_filter.mpr ⟨hconnector, husable⟩) with
    ⟨target, htarget⟩ | hnone
  · obtain ⟨selection, hselection, he⟩ := List.mem_map.mp htarget
    cases he
    exact .inl (List.mem_map_of_mem hselection)
  · refine .inr fun target htarget => ?_
    have hheld := hnone target htarget
    rw [free_iff, not_and_or, not_not, not_not] at hheld
    exact hheld

theorem SelectionOutcome.sound (h : SelectionOutcome device crtcs planes connectors result)
    (honce : connectors.Nodup) :
    SelectionsSound device connectors crtcs planes result.selections := by
  cases h with
  | readFailed count => exact ⟨.nil, .nil, .nil, by simp [selectionSetFailure],
      by simp [selectionSetFailure]⟩
  | capacityExceeded count hserved h hmany => exact h.sound hserved honce
  | finished h => exact h.sound (.refl _) honce

def AllUsable (device : LibdrmNativeKmsSelectionDevice Mode) (connectors : List UInt32) : Prop :=
  ∀ connector ∈ connectors, device.connected connector → device.usable connector

/-- Where every connected connector is usable the two are the same. -/
theorem filter_usable (husable : AllUsable device connectors) :
    connectors.filter device.usable = connectors.filter device.connected := by
  refine List.filter_congr fun connector hconnector => ?_
  have hforward := husable connector hconnector
  cases hsnapshot : device.connectorSnapshot connector with
  | none =>
    simp [LibdrmNativeKmsSelectionDevice.usable, LibdrmNativeKmsSelectionDevice.connected,
      hsnapshot]
  | some snapshot =>
    rw [connected_of_snapshot hsnapshot, usable_of_snapshot hsnapshot] at *
    cases hconnected : snapshot.connected with
    | false => simp
    | true => simpa [hconnected] using hforward hconnected

/-- One in three of the connected connectors is served, if all of them could be. -/
theorem SelectionProgress.Tracks.third (h : last.Tracks device crtcs planes connectors)
    (honce : connectors.Nodup)
    (husable : AllUsable device connectors)
    {assigned : UInt32 → UInt32 × UInt32}
    (hassigned : Greedy.Assignment (device.Target crtcs planes) resources
      (connectors.filter device.connected) assigned) :
    (connectors.filter device.connected).length ≤ 3 * last.selections.length := by
  have hallocated := h.allocated
  rw [filter_usable husable] at hallocated
  have hle := hallocated.length_le (honce.filter _) (k := 2) (fun _ => Nat.le_refl 2) hassigned
  rwa [List.length_map] at hle

/-- The CRTC and the plane a connector is assigned are within reach of no other. -/
def Exclusive (device : LibdrmNativeKmsSelectionDevice Mode) (connectors crtcs planes : List UInt32)
    (assigned : UInt32 → UInt32 × UInt32) : Prop :=
  ∀ connector ∈ connectors, device.connected connector → ∀ other ∈ connectors,
    ∀ target, device.Target crtcs planes other target →
      target.1 = (assigned connector).1 ∨ target.2 = (assigned connector).2 → other = connector

theorem SelectionProgress.Tracks.selectedAll (h : last.Tracks device crtcs planes connectors)
    (honce : connectors.Nodup) (husable : AllUsable device connectors)
    (hsome : ∃ connector ∈ connectors, device.connected connector)
    {assigned : UInt32 → UInt32 × UInt32}
    (hassigned : Greedy.Assignment (device.Target crtcs planes) resources
      (connectors.filter device.connected) assigned)
    (hexclusive : Exclusive device connectors crtcs planes assigned) :
    last.finish.status = .selectedAll := by
  have hallocated := h.allocated
  rw [filter_usable husable] at hallocated
  have hall := hallocated.complete (honce.filter _) hassigned.offered
    fun connector hmem u hu other hother target htarget hshared => by
      obtain ⟨hconnector, hconnected⟩ := List.mem_filter.mp hmem
      refine hexclusive connector hconnector hconnected other (List.mem_filter.mp hother).1 target
        htarget ?_
      simp only [resources, List.mem_cons, List.not_mem_nil, or_false] at hu hshared
      rcases hu with rfl | rfl
      · exact .inl (by simpa [eq_comm] using hshared)
      · exact .inr (by simpa [eq_comm] using hshared)
  rw [List.length_map, ← h.count] at hall
  obtain ⟨connector, hconnector, hconnected⟩ := hsome
  have hpositive := List.length_pos_of_mem (List.mem_filter.mpr ⟨hconnector, hconnected⟩)
  rw [← h.count] at hpositive
  simp only [SelectionProgress.finish]
  rw [if_neg (Nat.ne_of_gt hpositive), if_pos hall]

end Outcomes

section Selection

variable {device : LibdrmNativeKmsSelectionDevice Mode} {connectors crtcs planes : List UInt32}

theorem target_mergeSort :
    device.Target (crtcs.mergeSort fun a b => a ≤ b) (planes.mergeSort fun a b => a ≤ b) =
      device.Target crtcs planes := by
  funext connector target
  simp only [LibdrmNativeKmsSelectionDevice.Target, List.mem_mergeSort]

theorem select_outcome (hconnectors : device.connectorHandles = some connectors)
    (hcrtcs : device.crtcHandles = some crtcs) (hplanes : device.planeHandles = some planes) :
    SelectionOutcome device (crtcs.mergeSort fun a b => a ≤ b) (planes.mergeSort fun a b => a ≤ b)
      (connectors.mergeSort fun a b => a ≤ b) (selectNativePrimaryPlaneTargets device) := by
  rw [selectNativePrimaryPlaneTargets, hconnectors, hcrtcs, hplanes]
  exact selectTargets_outcome _ tracks_start

/-- The selection on any device that lists each connector once. What it selects is disjoint and
within reach. Where the reads succeed and the connected connectors are not too many, a usable one is
left out only when each of its targets is in use; and where all of them could be shown at once, one
in three is, and all of them are if what each is assigned is of use to no other. -/
theorem selects_disjoint_targets (hconnectors : device.connectorHandles = some connectors)
    (hcrtcs : device.crtcHandles = some crtcs) (hplanes : device.planeHandles = some planes)
    (honce : connectors.Nodup) :
    SelectionsSound device connectors crtcs planes
        (selectNativePrimaryPlaneTargets device).selections ∧
      (device.Readable connectors planes →
        (connectors.filter device.connected).length ≤ liveRenderedOutputCapacity →
        NoneFree device connectors crtcs planes
            (selectNativePrimaryPlaneTargets device).selections ∧
          ∀ assigned, AllUsable device connectors →
            Greedy.Assignment (device.Target crtcs planes) resources
              (connectors.filter device.connected) assigned →
            (connectors.filter device.connected).length ≤
                3 * (selectNativePrimaryPlaneTargets device).selections.length ∧
              (Exclusive device connectors crtcs planes assigned →
                (∃ connector ∈ connectors, device.connected connector) →
                  (selectNativePrimaryPlaneTargets device).status = .selectedAll)) := by
  have hperm := List.mergeSort_perm connectors fun a b => a ≤ b
  have honce' := hperm.nodup_iff.mpr honce
  have hlength := (hperm.filter device.connected).length_eq
  have hreads' (hreads : device.Readable connectors planes) :
      (selectNativePrimaryPlaneTargets device).status ≠ .readFailed := by
    rw [selectNativePrimaryPlaneTargets, hconnectors, hcrtcs, hplanes]
    refine selectTargets_reads connectors ⟨hreads.connector, hreads.encoder, ?_⟩ ?_ _
    · exact fun plane hplane => hreads.plane plane (List.mem_mergeSort.mp hplane)
    · exact fun connector hconnector => hperm.mem_iff.mp hconnector
  have houtcome := select_outcome hconnectors hcrtcs hplanes
  refine ⟨?_, fun hreads hcapacity => ?_⟩
  · obtain ⟨hc, hr, hp, hreached, hmodes⟩ := houtcome.sound honce'
    refine ⟨hc, hr, hp, fun selection hselection => ?_, hmodes⟩
    rw [← target_mergeSort, ← hperm.mem_iff]
    exact hreached selection hselection
  have hfine := hreads' hreads
  generalize selectNativePrimaryPlaneTargets device = result at houtcome hfine ⊢
  cases houtcome with
  | readFailed count => exact absurd rfl hfine
  | capacityExceeded count hserved h hmany =>
    rw [hlength] at hmany
    exact absurd hcapacity (Nat.not_le.mpr hmany)
  | finished h =>
    refine ⟨?_, fun assigned husable hassigned => ?_⟩
    · intro connector hconnector
      rw [← target_mergeSort]
      exact h.noneFree connector (hperm.mem_iff.mpr hconnector)
    have husable' : AllUsable device (connectors.mergeSort fun a b => a ≤ b) :=
      fun connector hconnector => husable connector (hperm.mem_iff.mp hconnector)
    have hassigned' := hassigned.subset (hperm.filter device.connected).subset
    rw [← target_mergeSort] at hassigned'
    constructor
    · rw [← hlength]
      exact h.third honce' husable' hassigned'
    · rintro hexclusive ⟨connector, hconnector, hconnected⟩
      refine h.selectedAll honce' husable' ⟨connector, hperm.mem_iff.mpr hconnector, hconnected⟩
        hassigned' ?_
      intro connector hconnector hconnected other hother
      rw [target_mergeSort]
      exact hexclusive connector (hperm.mem_iff.mp hconnector) hconnected other
        (hperm.mem_iff.mp hother)

/-- A device whose connectors reach one CRTC each, served by one plane each. -/
def straight : LibdrmNativeKmsSelectionDevice Unit where
  connectorHandles := some [1, 2]
  crtcHandles := some [11, 12]
  planeHandles := some [21, 22]
  connectorSnapshot connector := some ⟨true, none, [connector], some ⟨800, 600⟩, none⟩
  encoderSnapshot encoder := some ⟨none, [encoder + 10]⟩
  planeSnapshot plane := some ⟨[plane - 10]⟩
  planeType _ := some (some .primary)

theorem straight_target {connector : UInt32} {target : UInt32 × UInt32} :
    straight.Target [11, 12] [21, 22] connector target ↔
      (target.1 ∈ [11, 12] ∧ target.1 = connector + 10) ∧
        target.2 ∈ [21, 22] ∧ target.1 = target.2 - 10 := by
  simp [LibdrmNativeKmsSelectionDevice.Target, LibdrmNativeKmsSelectionDevice.Reaches,
    LibdrmNativeKmsSelectionDevice.Serves, straight]

theorem selects_disjoint_targets_straight :
    (selectNativePrimaryPlaneTargets straight).status = .selectedAll := by
  have hreads : straight.Readable [1, 2] [21, 22] :=
    ⟨fun _ _ => rfl, fun _ _ _ _ _ _ _ => rfl, fun _ _ => ⟨rfl, rfl⟩⟩
  have hassigned : Greedy.Assignment (straight.Target [11, 12] [21, 22]) resources
      ([1, 2].filter straight.connected) fun connector => (connector + 10, connector + 20) := by
    refine ⟨fun connector hconnector => straight_target.mpr ?_, ?_⟩
    · have hlisted : connector = 1 ∨ connector = 2 := by
        simpa using (List.mem_filter.mp hconnector).1
      rcases hlisted with rfl | rfl <;> decide
    · intro connector _ other _ hne u hu
      simp only [resources] at hu ⊢
      grind
  have hexclusive : Exclusive straight [1, 2] [11, 12] [21, 22] fun connector =>
      (connector + 10, connector + 20) := by
    intro connector hconnector _ other hother target htarget hshared
    obtain ⟨⟨-, hcrtc⟩, -, hplane⟩ := straight_target.mp htarget
    rcases hshared with hshared | hshared
    · grind
    · grind
  exact (((selects_disjoint_targets rfl rfl rfl (by decide)).2 hreads (by decide)).2 _
    (fun _ _ _ => rfl) hassigned).2 hexclusive ⟨1, by decide, rfl⟩

/-- The same, but the first connector can be driven by either CRTC. -/
def crossed : LibdrmNativeKmsSelectionDevice Unit :=
  { straight with
    encoderSnapshot := fun encoder => some ⟨none, if encoder = 1 then [11, 12] else [11]⟩
    planeSnapshot := fun _ => some ⟨[11, 12]⟩ }

/-- Lists sorted by their ids are taken as they are. -/
theorem select_of_sorted (hconnectors : device.connectorHandles = some connectors)
    (hcrtcs : device.crtcHandles = some crtcs) (hplanes : device.planeHandles = some planes)
    (hsorted : (connectors.Pairwise fun a b => a ≤ b) ∧ (crtcs.Pairwise fun a b => a ≤ b) ∧
      planes.Pairwise fun a b => a ≤ b) :
    selectNativePrimaryPlaneTargets device =
      device.selectTargets crtcs planes connectors .start := by
  obtain ⟨hfirst, hsecond, hthird⟩ := hsorted
  rw [selectNativePrimaryPlaneTargets, hconnectors, hcrtcs, hplanes]
  dsimp only
  rw [List.mergeSort_of_pairwise (by simpa using hsecond),
    List.mergeSort_of_pairwise (by simpa using hthird),
    List.mergeSort_of_pairwise (by simpa using hfirst)]

theorem crossed_target {connector : UInt32} {target : UInt32 × UInt32} :
    crossed.Target [11, 12] [21, 22] connector target ↔
      (target.1 ∈ [11, 12] ∧ (connector = 1 ∨ target.1 = 11) ∧ target.1 ∈ [11, 12]) ∧
        target.2 ∈ [21, 22] ∧ target.1 ∈ [11, 12] := by
  have hdrives : target.1 ∈ (if connector = 1 then [11, 12] else [11] : List UInt32) ↔
      (connector = 1 ∨ target.1 = 11) ∧ target.1 ∈ [11, 12] := by
    grind
  simp [LibdrmNativeKmsSelectionDevice.Target, LibdrmNativeKmsSelectionDevice.Reaches,
    LibdrmNativeKmsSelectionDevice.Serves, crossed, straight, hdrives]

/-- Both connectors could be shown, but the first takes what the second needs. A connector that is
listed twice is selected twice, and where there is none the status says so. -/
theorem crossed_left_out :
    ((∃ assigned, Greedy.Assignment (crossed.Target [11, 12] [21, 22]) resources [1, 2] assigned) ∧
      AllUsable crossed [1, 2] ∧
      (selectNativePrimaryPlaneTargets crossed).status = .partialSelection) ∧
    ¬ ((selectNativePrimaryPlaneTargets { crossed with
      connectorHandles := some [1, 1] }).selections.map
        LibdrmNativePrimaryPlaneSelection.connector).Nodup ∧
    (selectNativePrimaryPlaneTargets { crossed with
      connectorHandles := some [] }).status = .noConnectedConnector := by
  refine ⟨⟨⟨fun connector => if connector = 1 then (12, 21) else (11, 22), ?_, ?_⟩, ?_, ?_⟩, ?_, ?_⟩
  · intro connector hconnector
    rw [crossed_target]
    have hlisted : connector = 1 ∨ connector = 2 := by simpa using hconnector
    rcases hlisted with rfl | rfl <;> decide
  · intro connector hconnector other hother hne u hu
    simp only [resources] at hu ⊢
    grind
  · exact fun _ _ _ => rfl
  · rw [select_of_sorted rfl rfl rfl (by decide)]
    decide +kernel
  · rw [select_of_sorted rfl rfl rfl (by decide)]
    decide +kernel
  · rw [select_of_sorted rfl rfl rfl (by decide)]
    decide +kernel

end Selection

end Sophia.Backend
