import Sophia.Authority.RuntimeRefinement

/-! What each call does to the base, the records and the tables. -/
namespace Sophia.Authority

open Std Sophia.Protocol Ordered

namespace FullRuntime

variable {runtime next last : FullRuntime} {ns : NamespaceId} {ready whole : Prop}

section Release

variable {id : XResourceId} {record : XResourceRecord} {state state' : Releasing}
  {done : Result Unit × Releasing} {f : Releasing → Result Unit × Releasing}

theorem Refines.keyed (h : runtime.Refines next)
    (hkeyed : KeyedBy XResourceRecord.id runtime.resources.records) :
    KeyedBy XResourceRecord.id next.resources.records := by
  obtain ⟨ops, hops⟩ := h
  rw [hops]
  exact Run.invariant
    (P := fun base : XAuthorityRuntime => KeyedBy XResourceRecord.id base.resources.records)
    hkeyed (fun base op _ hbase => XAuthorityRuntime.keyedBy_step hbase op) Run.guarded_true

/-- A record that is dropped goes with the thing in the table of its kind. -/
theorem moves_dropped (hbase : next.toXAuthorityRuntime = runtime.dropResource record.id)
    (hkind : ready → ∀ found, runtime.resources.records[record.id]? = some found →
      found.kind = record.kind) (hwindow : record.kind ≠ .window)
    (htables : ∀ kind id', kind ≠ .window → next.tabled id' kind =
      if id' = record.id ∧ kind = record.kind then none else runtime.tabled id' kind) :
    Moves ready whole runtime next := by
  refine .removed (.one (.dropResource record.id) hbase) hkind (by rw [hbase]; rfl) ?_
  intro kind id'
  by_cases hkind : kind = .window
  · subst hkind
    rw [if_neg fun h => hwindow h.2.symm]
    simp only [tabled, hbase, XAuthorityRuntime.dropResource]
  · exact htables kind id' hkind

theorem moves_releaseRecord (hkind : ready → ∀ found,
      state.2.resources.records[record.id]? = some found → found.kind = record.kind)
    (h : releaseRecord ns state record = .ok state') : Moves ready whole state.2 state'.2 := by
  obtain ⟨release, runtime⟩ := state
  cases hk : record.kind with
  | window =>
    simp only [releaseRecord, hk] at h
    obtain ⟨⟨surface, next⟩, hdestroyed, rfl⟩ := Fallible.map_eq_ok.mp h
    exact (quiet_destroyWindow hdestroyed).toMoves
  | pixmap =>
    simp only [releaseRecord, hk] at h
    obtain ⟨freed, hfreed, rfl⟩ := Fallible.map_eq_ok.mp h
    exact moves_freePixmap hfreed
  | font =>
    simp only [releaseRecord, hk] at h
    obtain ⟨next, hclosed, rfl⟩ := Fallible.map_eq_ok.mp h
    exact (quiet_closeFont hclosed).toMoves
  | cursor =>
    simp only [releaseRecord, hk] at h
    obtain ⟨next, hfreed, rfl⟩ := Fallible.map_eq_ok.mp h
    exact (quiet_freeCursor hfreed).toMoves
  | fence =>
    simp only [releaseRecord, hk] at h
    cases h
    refine moves_dropped rfl hkind (by simp [hk]) fun kind id' hwindow => ?_
    cases kind with
    | window => exact absurd rfl hwindow
    | fence =>
      refine entry_erase.trans ?_
      simp [hk, tabled]
    | _ => exact (if_neg (by simp [hk])).symm
  | region =>
    simp only [releaseRecord, hk] at h
    cases h
    refine moves_dropped rfl hkind (by simp [hk]) fun kind id' hwindow => ?_
    cases kind with
    | window => exact absurd rfl hwindow
    | region =>
      refine entry_erase.trans ?_
      simp [hk, tabled]
    | _ => exact (if_neg (by simp [hk])).symm
  | _ =>
    simp only [releaseRecord, hk] at h
    cases h
    refine moves_dropped rfl hkind (by simp [hk]) fun kind id' hwindow => ?_
    cases kind <;> simp [hk, tabled, withBase, XAuthorityRuntime.dropResource]

/-- A loop of the release that reaches no recorded thing. -/
theorem moves_tryEach {body : Releasing → XResourceId → Result Releasing}
    (hbody : ∀ state x state', body state x = .ok state' → Moves ready whole state.2 state'.2)
    (xs : List XResourceId) (state : Releasing) :
    Moves ready whole state.2 (Run.tryEach body xs state).2.2 :=
  Run.tryEach_invariant body (fun last => Moves ready whole state.2 last.2)
    (fun middle x last hlast hmiddle => hmiddle.trans (hbody middle x last hlast)) xs (Quiet.refl _).toMoves

/-- The loop over the records meets each record as it was when the loop began. -/
theorem moves_releaseRecords (range : XWireClientResourceRange)
    (hkeyed : ready → KeyedBy XResourceRecord.id state.2.resources.records) :
    Moves ready whole state.2 (Run.tryEach (releaseRecord ns)
      (state.2.resources.recordsForNamespaceInClientRange ns range) state).2.2 := by
  refine (Run.tryEach_invariant_mem (P := fun last : Releasing => Moves ready whole state.2 last.2 ∧
    ∀ (id : XResourceId) found, last.2.resources.records[id]? = some found →
      state.2.resources.records[id]? = some found) ?_ ⟨(Quiet.refl _).toMoves, fun _ _ h => h⟩).1
  rintro middle record hrecord last hlast ⟨hmoves, hshrunk⟩
  have hreleased := released_one hlast
  refine ⟨hmoves.trans (moves_releaseRecord (fun hready found hfound => ?_) hlast), ?_⟩
  · obtain ⟨hvalue, -⟩ := List.mem_filter.mp hrecord
    have hget := (hkeyed hready).mem_values_iff.mp hvalue
    rw [hshrunk _ _ hfound] at hget
    cases hget
    rfl
  · intro id found hfound
    exact hshrunk id found ((hreleased.resources id found).mp hfound).1

theorem moves_andThen (h : Moves ready whole runtime done.2.2)
    (hf : ∀ state : Releasing, Moves ready whole runtime state.2 →
      Moves ready whole runtime (f state).2.2) : Moves ready whole runtime (andThen done f).2.2 := by
  obtain ⟨result, state⟩ := done
  cases result with
  | error error => exact h
  | ok u => exact hf state h

theorem quiet_freeGraphicsContext {gc : XResourceId}
    (h : runtime.freeGraphicsContext ns gc = .ok next) : Quiet ready whole runtime next := by
  simp only [freeGraphicsContext, Fallible.mapError_eq_ok, Fallible.map_eq_ok] at h
  obtain ⟨table, -, rfl⟩ := h
  exact .beside rfl ⟨rfl, rfl, rfl, rfl⟩ rfl

theorem quiet_detachShmSegment {segment : XResourceId}
    (h : runtime.detachShmSegment ns segment = .ok next) : Quiet ready whole runtime next := by
  simp only [detachShmSegment, Fallible.mapError_eq_ok, Fallible.map_eq_ok] at h
  obtain ⟨table, -, rfl⟩ := h
  exact .beside rfl ⟨rfl, rfl, rfl, rfl⟩ rfl

theorem moves_release (range : XWireClientResourceRange)
    (hkeyed : ready → KeyedBy XResourceRecord.id runtime.resources.records) :
    Moves ready whole runtime (runtime.releaseClientResourceRange ns range).2 := by
  have hglx : Quiet ready whole runtime (runtime.releaseGlx ns range).2 :=
    .beside rfl ⟨rfl, rfl, rfl, rfl⟩ rfl
  unfold releaseClientResourceRange
  split
  · exact (Quiet.refl runtime).toMoves
  refine moves_andThen (hglx.toMoves.trans (moves_tryEach (fun state gc state' h => ?_) _ _))
    fun state hstate => ?_
  · obtain ⟨next, hfreed, rfl⟩ := Fallible.map_eq_ok.mp h
    exact (quiet_freeGraphicsContext hfreed).toMoves
  refine moves_andThen (hstate.trans (moves_tryEach (fun state segment state' h => ?_) _ _))
    fun state hstate => ?_
  · obtain ⟨next, hdetached, rfl⟩ := Fallible.map_eq_ok.mp h
    exact (quiet_detachShmSegment hdetached).toMoves
  · exact hstate.trans
      (moves_releaseRecords range fun hready => hstate.refines.keyed (hkeyed hready))

end Release

/-- The id a call enters a resource under. -/
def RuntimeCall.creates : RuntimeCall → Option XResourceId
  | .plain op _ => op.creates
  | .createDri3Pixmap _ pixmap .. => some pixmap
  | .createDri3PixmapFromBuffers _ pixmap .. => some pixmap
  | .createXfixesRegion _ region .. => some region
  | .createDri3Fence _ fence _ => some fence
  | _ => none

/-- The call takes over no recorded id. -/
def Fresh (runtime : FullRuntime) (call : RuntimeCall) : Prop :=
  ∀ id ∈ call.creates, runtime.resources.records[id]? = none

instance (runtime : FullRuntime) (call : RuntimeCall) : Decidable (runtime.Fresh call) :=
  inferInstanceAs (Decidable (∀ id ∈ call.creates, runtime.resources.records[id]? = none))

section Imports

variable {sizeBytes : UInt32} {width height stride : UInt16} {depth bitsPerPixel numBuffers : UInt8}
  {pixmap : XResourceId} {generation modifier : UInt64}
  {strides offsets : Vector UInt32 dmaBufMaxPlanes}

theorem size_onePlane (stride : UInt16) :
    #[some ({ offset := 0, stride := stride.toUInt32 } : DmaBufPlaneDescriptor), none, none,
      none].size = dmaBufMaxPlanes :=
  rfl

/-- The buffer that a pixmap is imported from, or why it is refused. -/
def dri3Import (runtime : FullRuntime) (sizeBytes : UInt32) (width height stride : UInt16)
    (depth bitsPerPixel : UInt8) : Result DmaBufDescriptor := do
  let format ← dri3Format depth bitsPerPixel
  let descriptor : DmaBufDescriptor :=
    { handle := .fromRaw (max runtime.nextDmaBufHandle 1)
      size := { width := .ofNat width.toNat, height := .ofNat height.toNat }
      format
      modifier := drmFormatModInvalid
      planeCount := 1
      planes := ⟨#[some { offset := 0, stride := stride.toUInt32 }, none, none, none],
        size_onePlane stride⟩ }
  descriptor.validate.mapError fun _ => .invalidResource
  if sizeBytes.toNat < stride.toNat * height.toNat then throw .invalidResource
  return descriptor

/-- The same for a pixmap imported from several planes. -/
def dri3ImportFromBuffers (runtime : FullRuntime) (numBuffers : UInt8) (width height : UInt16)
    (strides offsets : Vector UInt32 dmaBufMaxPlanes) (depth bitsPerPixel : UInt8)
    (modifier : UInt64) : Result DmaBufDescriptor := do
  let format ← dri3Format depth bitsPerPixel
  if numBuffers = 0 ∨ dmaBufMaxPlanes < numBuffers.toNat then throw .invalidResource
  let descriptor : DmaBufDescriptor :=
    { handle := .fromRaw (max runtime.nextDmaBufHandle 1)
      size := { width := .ofNat width.toNat, height := .ofNat height.toNat }
      format
      modifier
      planeCount := numBuffers
      planes := Vector.ofFn fun index =>
        if index.val < numBuffers.toNat then
          some { offset := offsets.get index, stride := strides.get index }
        else none }
  descriptor.validate.mapError fun _ => .invalidResource
  return descriptor

theorem createDri3Pixmap_eq_ok {created : DmaBufDescriptor × FullRuntime} :
    runtime.createDri3Pixmap ns pixmap generation sizeBytes width height stride depth bitsPerPixel =
        .ok created ↔
      ∃ descriptor,
        runtime.dri3Import sizeBytes width height stride depth bitsPerPixel = .ok descriptor ∧
        runtime.installDri3Pixmap ns pixmap generation descriptor = .ok created := by
  simp only [createDri3Pixmap, dri3Import, Fallible.bind_eq_ok, Fallible.throw_if_eq_ok,
    Fallible.pure_eq_ok]
  constructor
  · rintro ⟨format, hformat, u, hvalid, hsize, h⟩
    exact ⟨_, ⟨format, hformat, u, hvalid, hsize, rfl⟩, h⟩
  · rintro ⟨_, ⟨format, hformat, u, hvalid, hsize, rfl⟩, h⟩
    exact ⟨format, hformat, u, hvalid, hsize, h⟩

theorem createDri3PixmapFromBuffers_eq_ok {created : DmaBufDescriptor × FullRuntime} :
    runtime.createDri3PixmapFromBuffers ns pixmap generation numBuffers width height strides offsets
        depth bitsPerPixel modifier = .ok created ↔
      ∃ descriptor, runtime.dri3ImportFromBuffers numBuffers width height strides offsets depth
          bitsPerPixel modifier = .ok descriptor ∧
        runtime.installDri3Pixmap ns pixmap generation descriptor = .ok created := by
  simp only [createDri3PixmapFromBuffers, dri3ImportFromBuffers, Fallible.bind_eq_ok,
    Fallible.throw_if_eq_ok, Fallible.pure_eq_ok]
  constructor
  · rintro ⟨format, hformat, hplanes, u, hvalid, h⟩
    exact ⟨_, ⟨format, hformat, hplanes, u, hvalid, rfl⟩, h⟩
  · rintro ⟨_, ⟨format, hformat, hplanes, u, hvalid, rfl⟩, h⟩
    exact ⟨format, hformat, hplanes, u, hvalid, h⟩

end Imports

/-- The record a call enters. -/
def RuntimeCall.enters : RuntimeCall → Option XResourceRecord
  | .plain op _ => op.enters
  | .createDri3Pixmap ns pixmap generation .. =>
    some { id := pixmap, kind := .pixmap, ownerNamespace := ns, generation }
  | .createDri3PixmapFromBuffers ns pixmap generation .. =>
    some { id := pixmap, kind := .pixmap, ownerNamespace := ns, generation }
  | .createXfixesRegion ns region _ generation =>
    some { id := region, kind := .region, ownerNamespace := ns, generation }
  | .createDri3Fence ns fence generation =>
    some { id := fence, kind := .fence, ownerNamespace := ns, generation }
  | _ => none

/-- The creation of a window that the window table refuses, after its record was entered. -/
def RuntimeCall.half : RuntimeCall → Bool
  | .plain op _ => op.half
  | _ => false

/-- The checks of the buffer an import brings: its format, its planes and its size. -/
def importable (runtime : FullRuntime) : RuntimeCall → Bool
  | .createDri3Pixmap _ _ _ sizeBytes width height stride depth bitsPerPixel =>
    (runtime.dri3Import sizeBytes width height stride depth bitsPerPixel).isOk
  | .createDri3PixmapFromBuffers _ _ _ numBuffers width height strides offsets depth bitsPerPixel
      modifier =>
    (runtime.dri3ImportFromBuffers numBuffers width height strides offsets depth bitsPerPixel
      modifier).isOk
  | _ => true

/-- The call passes every check that does not look at what is already there. -/
def WellFormed (runtime : FullRuntime) (call : RuntimeCall) : Prop :=
  runtime.importable call ∧
    ∀ record ∈ call.enters, record.id.isValid ∧ record.ownerNamespace.isValid

/-- No record is replaced by another one. -/
def Settled (runtime : FullRuntime) (call : RuntimeCall) : Prop :=
  runtime.WellFormed call → ∀ record ∈ call.enters,
    ∀ found, runtime.resources.records[record.id]? = some found → found = record

/-- A creation that is refused for nothing else names an id that is not recorded. One that is left
half made must find the record it enters. -/
def Untaken (runtime : FullRuntime) (call : RuntimeCall) : Prop :=
  runtime.WellFormed call → ∀ record ∈ call.enters,
    runtime.resources.records[record.id]? = if call.half then some record else none

theorem RuntimeCall.creates_of_enters {call : RuntimeCall} {record : XResourceRecord}
    (h : call.enters = some record) : call.creates = some record.id := by
  cases call with
  | plain op hplain => exact RuntimeOp.creates_of_enters h
  | createDri3Pixmap | createDri3PixmapFromBuffers | createXfixesRegion | createDri3Fence =>
    cases h
    rfl
  | _ => cases h

theorem Untaken.settled {call : RuntimeCall} (h : runtime.Untaken call) : runtime.Settled call := by
  intro hwell record henters found hfound
  have hget := h hwell record henters
  rw [hfound] at hget
  split at hget
  · exact Option.some.inj hget
  · cases hget

theorem Fresh.settled {call : RuntimeCall} (h : runtime.Fresh call) : runtime.Settled call := by
  intro _ record henters found hfound
  have hnone := h record.id (RuntimeCall.creates_of_enters henters)
  rw [hnone] at hfound
  cases hfound

/-- The calls that neither import nor release a buffer or a fence. -/
def RuntimeCall.quiet : RuntimeCall → Bool
  | .createDri3Pixmap .. | .createDri3PixmapFromBuffers .. | .freePixmap .. | .createDri3Fence ..
  | .destroyDri3Fence .. | .releaseClientResourceRange .. => false
  | _ => true

theorem quiet_createXfixesRegion {region : XResourceId} {rectangles : List Rect}
    {generation : UInt64} (hfresh : ready → ∀ found, runtime.resources.records[region]? = some found →
      found = ⟨region, .region, ns, generation⟩)
    (h : runtime.createXfixesRegion ns region rectangles generation = .ok next) :
    Quiet ready whole runtime next := by
  obtain ⟨base, hbase, rfl⟩ := Fallible.map_eq_ok.mp h
  refine ⟨moves_createResource hbase rfl hfresh fun kind id hwindow => ?_, ⟨rfl, rfl, rfl, rfl⟩⟩
  cases kind with
  | window => exact absurd rfl hwindow
  | region =>
    refine entry_insert.trans ?_
    simp [XAuthorityRuntime.AuxiliaryKind.resourceKind, tabled, XResourceKind.tabled]
  | _ => exact (if_neg (by simp [XAuthorityRuntime.AuxiliaryKind.resourceKind])).symm

theorem quiet_destroyXfixesRegion {region : XResourceId}
    (h : runtime.destroyXfixesRegion ns region = .ok next) : Quiet ready whole runtime next := by
  obtain ⟨base, hbase, rfl⟩ := Fallible.map_eq_ok.mp h
  refine ⟨moves_freeResource hbase rfl fun kind id hwindow => ?_, ⟨rfl, rfl, rfl, rfl⟩⟩
  cases kind with
  | window => exact absurd rfl hwindow
  | region =>
    refine entry_erase.trans ?_
    simp [XAuthorityRuntime.AuxiliaryKind.resourceKind, tabled]
  | _ => exact (if_neg (by simp [XAuthorityRuntime.AuxiliaryKind.resourceKind])).symm

theorem moves_createDri3Fence {fence : XResourceId} {generation : UInt64}
    {created : FenceHandle × FullRuntime}
    (hfresh : ready → ∀ found, runtime.resources.records[fence]? = some found →
      found = ⟨fence, .fence, ns, generation⟩)
    (h : runtime.createDri3Fence ns fence generation = .ok created) :
    Moves ready whole runtime created.2 := by
  obtain ⟨base, hbase, rfl⟩ := Fallible.map_eq_ok.mp h
  refine moves_createResource hbase rfl hfresh fun kind id hwindow => ?_
  cases kind with
  | window => exact absurd rfl hwindow
  | fence =>
    refine entry_insert.trans ?_
    simp [XAuthorityRuntime.AuxiliaryKind.resourceKind, tabled, XResourceKind.tabled]
  | _ => exact (if_neg (by simp [XAuthorityRuntime.AuxiliaryKind.resourceKind])).symm

theorem moves_destroyDri3Fence {fence : XResourceId} :
    Moves ready whole runtime (runtime.destroyDri3Fence ns fence).2 := by
  unfold destroyDri3Fence
  split
  · exact (Quiet.refl runtime).toMoves
  · rename_i base hbase
    refine moves_freeResource hbase rfl fun kind id hwindow => ?_
    cases kind with
    | window => exact absurd rfl hwindow
    | fence =>
      refine entry_erase.trans ?_
      simp [XAuthorityRuntime.AuxiliaryKind.resourceKind, tabled]
    | _ => exact (if_neg (by simp [XAuthorityRuntime.AuxiliaryKind.resourceKind])).symm

theorem createResource_valid {aux : XAuthorityRuntime.AuxiliaryKind} {base base' : XAuthorityRuntime}
    {id : XResourceId} {generation : UInt64}
    (h : XAuthorityRuntime.createResource aux base ns id generation = .ok base') :
    id.isValid ∧ ns.isValid := by
  simp only [XAuthorityRuntime.createResource, Fallible.bind_eq_ok, Fallible.mapError_eq_ok] at h
  obtain ⟨resources, hinsert, -⟩ := h
  exact (XAuthorityRuntime.insert_eq_ok hinsert).1

section WellFormed

variable {id : XResourceId} {generation modifier : UInt64} {sizeBytes : UInt32}
  {width height stride : UInt16} {depth bitsPerPixel numBuffers : UInt8}
  {strides offsets : Vector UInt32 dmaBufMaxPlanes} {rectangles : List Rect}

theorem installDri3Pixmap_valid {descriptor : DmaBufDescriptor}
    {installed : DmaBufDescriptor × FullRuntime}
    (h : runtime.installDri3Pixmap ns id generation descriptor = .ok installed) :
    id.isValid ∧ ns.isValid := by
  obtain ⟨created, hcreated, -⟩ := Fallible.map_eq_ok.mp h
  obtain ⟨base, hbase, -⟩ := Fallible.map_eq_ok.mp hcreated
  exact createResource_valid hbase

theorem wellFormed_createDri3Pixmap {created : DmaBufDescriptor × FullRuntime}
    (h : runtime.createDri3Pixmap ns id generation sizeBytes width height stride depth
      bitsPerPixel = .ok created) :
    runtime.WellFormed
      (.createDri3Pixmap ns id generation sizeBytes width height stride depth bitsPerPixel) := by
  obtain ⟨descriptor, himport, hinstalled⟩ := createDri3Pixmap_eq_ok.mp h
  refine ⟨?_, ?_⟩
  · simp only [importable, himport]
    rfl
  · rintro _ ⟨⟩
    exact installDri3Pixmap_valid hinstalled

theorem wellFormed_createDri3PixmapFromBuffers {created : DmaBufDescriptor × FullRuntime}
    (h : runtime.createDri3PixmapFromBuffers ns id generation numBuffers width height strides
      offsets depth bitsPerPixel modifier = .ok created) :
    runtime.WellFormed (.createDri3PixmapFromBuffers ns id generation numBuffers width height
      strides offsets depth bitsPerPixel modifier) := by
  obtain ⟨descriptor, himport, hinstalled⟩ := createDri3PixmapFromBuffers_eq_ok.mp h
  refine ⟨?_, ?_⟩
  · simp only [importable, himport]
    rfl
  · rintro _ ⟨⟩
    exact installDri3Pixmap_valid hinstalled

theorem wellFormed_createXfixesRegion
    (h : runtime.createXfixesRegion ns id rectangles generation = .ok next) :
    runtime.WellFormed (.createXfixesRegion ns id rectangles generation) := by
  obtain ⟨base, hbase, -⟩ := Fallible.map_eq_ok.mp h
  refine ⟨rfl, ?_⟩
  rintro _ ⟨⟩
  exact createResource_valid hbase

theorem wellFormed_createDri3Fence {created : FenceHandle × FullRuntime}
    (h : runtime.createDri3Fence ns id generation = .ok created) :
    runtime.WellFormed (.createDri3Fence ns id generation) := by
  obtain ⟨base, hbase, -⟩ := Fallible.map_eq_ok.mp h
  refine ⟨rfl, ?_⟩
  rintro _ ⟨⟩
  exact createResource_valid hbase

end WellFormed

/-- A quiet call keeps every imported buffer and fence. -/
theorem quiet_step (runtime : FullRuntime) (call : RuntimeCall) (h : call.quiet) :
    Quiet (runtime.Settled call) (runtime.Untaken call) runtime (runtime.step call) := by
  cases call with
  | plain op hplain =>
    refine quiet_plain hplain (fun hsettled record henters hvalid => ?_)
      fun huntaken hhalf record henters hvalid => ?_
    · exact hsettled ⟨rfl, fun other hother => Option.some.inj (henters.symm.trans hother) ▸ hvalid⟩
        record henters
    · have hget := huntaken
        ⟨rfl, fun other hother => Option.some.inj (henters.symm.trans hother) ▸ hvalid⟩ record henters
      rwa [RuntimeCall.half, if_pos hhalf] at hget
  | configureWindowSizeFromEngine ns window size =>
    refine quiet_after? fun configured h => ?_
    simp only [configureWindowSizeFromEngine, Fallible.throw_if_eq_ok, Fallible.bind_eq_ok,
      Fallible.pure_eq_ok] at h
    obtain ⟨-, current, -, next, hnext, rfl⟩ := h
    exact quiet_configureWindowGeometry hnext
  | destroyWindow ns window => exact quiet_after? fun _ h => quiet_destroyWindow h
  | presentStandardPixmap transaction ns window pixmap =>
    simp only [step, presentStandardPixmap]
    split
    · exact .refl runtime
    split
    · exact .refl runtime
    · exact quiet_finishDrawingUpdate _
  | createXfixesRegion ns region rectangles generation =>
    refine quiet_after? fun created h => ?_
    exact quiet_createXfixesRegion
      (fun hsettled => hsettled (wellFormed_createXfixesRegion h) _ rfl) h
  | destroyXfixesRegion ns region => exact quiet_after? fun next h => quiet_destroyXfixesRegion h
  | copyArea transaction ns source destination damage =>
    simp only [step, applyCopyArea]
    split
    · exact .refl runtime
    split
    · exact .refl runtime
    · exact quiet_coreDraw
  | draw call => exact quiet_draw call
  | takeCpuBufferUpdate => exact .beside rfl ⟨rfl, rfl, rfl, rfl⟩ rfl
  | setWindowVisual window depth visual colormap => exact .beside rfl ⟨rfl, rfl, rfl, rfl⟩ rfl
  | setXfixesRegion ns region rectangles =>
    refine quiet_after? fun next h => ?_
    obtain ⟨u, hvalid, rfl⟩ := Fallible.map_eq_ok.mp h
    exact quiet_setXfixesRegion hvalid
  | setWindowBackgroundPixel ns window pixel =>
    refine quiet_after? fun next h => ?_
    obtain ⟨-, -, rfl⟩ := Fallible.map_eq_ok.mp h
    exact .beside rfl ⟨rfl, rfl, rfl, rfl⟩ rfl
  | attachShmSegment ns segment shmid readOnly generation =>
    refine quiet_after? fun next h => ?_
    simp only [attachShmSegment, Fallible.mapError_eq_ok, Fallible.map_eq_ok] at h
    obtain ⟨table, -, rfl⟩ := h
    exact .beside rfl ⟨rfl, rfl, rfl, rfl⟩ rfl
  | detachShmSegment ns segment => exact quiet_after? fun next h => quiet_detachShmSegment h
  | createGraphicsContext ns gc drawable values =>
    refine quiet_after? fun next h => ?_
    simp only [createGraphicsContext, Fallible.bind_eq_ok, Fallible.pure_eq_ok] at h
    obtain ⟨-, -, -, -, table, -, rfl⟩ := h
    exact .beside rfl ⟨rfl, rfl, rfl, rfl⟩ rfl
  | changeGraphicsContext ns gc mask values =>
    refine quiet_after? fun next h => ?_
    unfold changeGraphicsContext at h
    split at h
    · simp only [Fallible.bind_eq_ok, Fallible.pure_eq_ok] at h
      obtain ⟨-, -, table, -, rfl⟩ := h
      exact .beside rfl ⟨rfl, rfl, rfl, rfl⟩ rfl
    · simp only [Fallible.bind_eq_ok, Fallible.pure_eq_ok] at h
      obtain ⟨table, -, rfl⟩ := h
      exact .beside rfl ⟨rfl, rfl, rfl, rfl⟩ rfl
  | setGraphicsContextClipRectangles ns gc rectangles =>
    refine quiet_after? fun next h => ?_
    simp only [setGraphicsContextClipRectangles, Fallible.mapError_eq_ok, Fallible.map_eq_ok] at h
    obtain ⟨table, -, rfl⟩ := h
    exact .beside rfl ⟨rfl, rfl, rfl, rfl⟩ rfl
  | freeGraphicsContext ns gc => exact quiet_after? fun next h => quiet_freeGraphicsContext h
  | createGlxContext ns context fbconfig direct =>
    refine quiet_after? fun next h => ?_
    unfold createGlxContext at h
    split at h
    · cases h
    · cases h
      exact .beside rfl ⟨rfl, rfl, rfl, rfl⟩ rfl
  | destroyGlxContext ns context =>
    refine quiet_after? fun next h => ?_
    obtain ⟨-, -, rfl⟩ := Fallible.map_eq_ok.mp h
    exact .beside rfl ⟨rfl, rfl, rfl, rfl⟩ rfl
  | createGlxWindow ns glxWindow window fbconfig =>
    refine quiet_after? fun next h => ?_
    simp only [createGlxWindow, Fallible.throw_if_eq_ok, Fallible.bind_eq_ok,
      Fallible.pure_eq_ok] at h
    obtain ⟨-, -, -, rfl⟩ := h
    exact .beside rfl ⟨rfl, rfl, rfl, rfl⟩ rfl
  | destroyGlxWindow ns glxWindow =>
    refine quiet_after? fun next h => ?_
    obtain ⟨-, -, rfl⟩ := Fallible.map_eq_ok.mp h
    exact .beside rfl ⟨rfl, rfl, rfl, rfl⟩ rfl
  | setInputFocus ns focus revertTo =>
    refine quiet_after? fun next h => ?_
    simp only [setInputFocus, Fallible.throw_if_eq_ok] at h
    obtain ⟨-, h⟩ := h
    split at h
    · simp only [Fallible.bind_eq_ok, Fallible.pure_eq_ok] at h
      obtain ⟨-, -, rfl⟩ := h
      exact .beside rfl ⟨rfl, rfl, rfl, rfl⟩ rfl
    · cases h
      exact .beside rfl ⟨rfl, rfl, rfl, rfl⟩ rfl
  | _ => cases h

/-- Every call is a run of the base, and one that replaces no record keeps the tables recorded. -/
theorem moves_step (runtime : FullRuntime) (call : RuntimeCall) :
    Moves (KeyedBy XResourceRecord.id runtime.resources.records ∧ runtime.Settled call)
      (runtime.Untaken call) runtime (runtime.step call) := by
  by_cases hquiet : call.quiet
  · have hmoves := (quiet_step runtime call hquiet).toMoves
    exact ⟨hmoves.refines, fun hready => hmoves.recorded hready.2, hmoves.backed⟩
  cases call with
  | freePixmap ns pixmap => exact moves_after? fun freed h => moves_freePixmap h
  | createDri3Pixmap ns pixmap generation sizeBytes width height stride depth bitsPerPixel =>
    refine moves_after? fun created h => ?_
    obtain ⟨descriptor, -, hinstalled⟩ := createDri3Pixmap_eq_ok.mp h
    exact moves_installDri3Pixmap
      (fun hready => hready.2 (wellFormed_createDri3Pixmap h) _ rfl) hinstalled
  | createDri3PixmapFromBuffers ns pixmap generation numBuffers width height strides offsets depth
      bitsPerPixel modifier =>
    refine moves_after? fun created h => ?_
    obtain ⟨descriptor, -, hinstalled⟩ := createDri3PixmapFromBuffers_eq_ok.mp h
    exact moves_installDri3Pixmap
      (fun hready => hready.2 (wellFormed_createDri3PixmapFromBuffers h) _ rfl) hinstalled
  | createDri3Fence ns fence generation =>
    refine moves_after? fun created h => ?_
    exact moves_createDri3Fence (fun hready => hready.2 (wellFormed_createDri3Fence h) _ rfl) h
  | destroyDri3Fence ns fence => exact moves_destroyDri3Fence
  | releaseClientResourceRange ns range => exact moves_release range And.left
  | _ => exact absurd rfl hquiet

/-- The base in every run of the whole runtime is in a run of its own. -/
theorem refines_after (calls : List RuntimeCall) : new.Refines (after calls) :=
  Run.invariant (P := new.Refines) (.same rfl)
    (fun runtime call _ h => h.trans (moves_step runtime call).refines) Run.guarded_true

theorem keyed_after (calls : List RuntimeCall) :
    KeyedBy XResourceRecord.id (after calls).resources.records :=
  (refines_after calls).keyed keyedBy_empty

/-- While no creation takes over an id, everything in the tables is recorded. -/
theorem recorded_after {calls : List RuntimeCall} (h : Run.Guarded step Fresh new calls) :
    (after calls).Recorded := by
  refine (Run.invariant (P := fun runtime : FullRuntime => runtime.Recorded ∧
    KeyedBy XResourceRecord.id runtime.resources.records) ⟨?_, keyedBy_empty⟩ ?_ h).1
  · intro kind id owner hnew
    cases kind <;> simp [tabled, new, XAuthorityRuntime.new, XWindowTable.get] at hnew
  · rintro runtime call hfresh ⟨hrecorded, hkeyed⟩
    have hmoves := moves_step runtime call
    exact ⟨hmoves.recorded ⟨hkeyed, hfresh.settled⟩ hrecorded, hmoves.refines.keyed hkeyed⟩

end FullRuntime
end Sophia.Authority
