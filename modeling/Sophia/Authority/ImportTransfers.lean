import Sophia.Authority.PresentDispatch
import Sophia.Authority.ReleaseReports
import Sophia.Lib.Counted
import Sophia.Lib.Handles

/-! What each call takes into the imports and out of them. -/
namespace Sophia.Authority

open Std Sophia.Protocol Ordered

namespace FullRuntime

variable {runtime next last : FullRuntime} {ns : NamespaceId} {range : XWireClientResourceRange}
  {state state' : Releasing} {record : XResourceRecord} {id : XResourceId}
  {buffers moreBuffers : List BufferHandle} {fences moreFences : List FenceHandle}

/-- The buffer an imported pixmap shows. -/
def bufferOf (runtime : FullRuntime) (pixmap : XResourceId) : Option BufferHandle :=
  (runtime.dri3Pixmaps[pixmap]?).map (·.handle)

def fenceOf (runtime : FullRuntime) (fence : XResourceId) : Option FenceHandle :=
  runtime.dri3Fences[fence]?

/-- The call imports nothing, and what it reports has lost its pixmap or its fence. -/
structure Drops (runtime next : FullRuntime) (buffers : List BufferHandle)
    (fences : List FenceHandle) : Prop where
  buffers : Loses runtime.bufferOf next.bufferOf buffers
  fences : Loses runtime.fenceOf next.fenceOf fences
  nextDmaBuf : next.nextDmaBufHandle = runtime.nextDmaBufHandle
  nextFence : next.nextFenceHandle = runtime.nextFenceHandle

theorem SameImports.bufferOf (h : SameImports runtime next) : next.bufferOf = runtime.bufferOf := by
  funext id
  simp only [FullRuntime.bufferOf, h.pixmaps]

theorem SameImports.fenceOf (h : SameImports runtime next) : next.fenceOf = runtime.fenceOf := by
  funext id
  simp only [FullRuntime.fenceOf, h.fences]

theorem SameImports.drops (h : SameImports runtime next) : Drops runtime next [] [] where
  buffers := .of_eq h.bufferOf
  fences := .of_eq h.fenceOf
  nextDmaBuf := h.nextDmaBuf
  nextFence := h.nextFence

theorem Drops.trans (h : Drops runtime next buffers fences)
    (h' : Drops next last moreBuffers moreFences) :
    Drops runtime last (buffers ++ moreBuffers) (fences ++ moreFences) where
  buffers := h.buffers.trans h'.buffers
  fences := h.fences.trans h'.fences
  nextDmaBuf := h'.nextDmaBuf.trans h.nextDmaBuf
  nextFence := h'.nextFence.trans h.nextFence

theorem bufferOf_erase (h : next.dri3Pixmaps = runtime.dri3Pixmaps.erase id) (other : XResourceId) :
    next.bufferOf other = if other = id then none else runtime.bufferOf other := by
  simp only [bufferOf, h]
  rw [getElem?_erase_eq]
  split <;> rfl

theorem fenceOf_erase (h : next.dri3Fences = runtime.dri3Fences.erase id) (other : XResourceId) :
    next.fenceOf other = if other = id then none else runtime.fenceOf other := by
  simp only [fenceOf, h]
  rw [getElem?_erase_eq]

/-- The handle of a fence is found exactly where the fence may be used and has one. -/
theorem dri3FenceHandle_eq_ok {handle : FenceHandle} :
    runtime.dri3FenceHandle ns id = .ok handle ↔
      runtime.validateDri3FenceAccess ns id = .ok () ∧ runtime.fenceOf id = some handle := by
  simp only [dri3FenceHandle, fenceOf, Fallible.bind_eq_ok]
  cases runtime.dri3Fences[id]? <;> simp [Unique.exists_iff]

theorem dri3PixmapDescriptor_eq_ok {descriptor : DmaBufDescriptor} :
    runtime.dri3PixmapDescriptor ns id = .ok descriptor ↔
      runtime.validatePixmapAccess ns id = .ok () ∧ runtime.dri3Pixmaps[id]? = some descriptor := by
  simp only [dri3PixmapDescriptor, Fallible.bind_eq_ok]
  cases runtime.dri3Pixmaps[id]? <;> simp [Unique.exists_iff]

theorem access_eq_ok {α : Type} {result : Except XAuthorityAccessError α} {u : Unit} :
    access result = .ok u ↔ ∃ a, result = .ok a := by
  cases result <;> simp [access, Except.map, Except.mapError]

/-- What is looked up for its owner can be freed by it. -/
theorem freeResource_succeeds (kind : XAuthorityRuntime.AuxiliaryKind) {found : XResourceRecord}
    (h : runtime.resources.lookup ns id kind.resourceKind = .ok found) :
    XAuthorityRuntime.freeResource kind runtime.toXAuthorityRuntime ns id =
      .ok (runtime.dropResource id) := by
  unfold XAuthorityRuntime.freeResource
  rw [h]
  rfl

/-- The buffer a worker reports for a pixmap it is about to free. -/
theorem drops_freePixmap (runtime : FullRuntime) (ns : NamespaceId) (id : XResourceId) :
    Drops runtime (runtime.after? Prod.snd (runtime.freePixmap ns id))
      ((runtime.dri3PixmapDescriptor ns id).toOption.map (·.handle)).toList [] := by
  cases hfree : runtime.freePixmap ns id with
  | error error =>
    have hnone : ((runtime.dri3PixmapDescriptor ns id).toOption.map (·.handle)).toList = [] := by
      cases hget : runtime.dri3PixmapDescriptor ns id with
      | error error => rfl
      | ok descriptor =>
        obtain ⟨found, hfound⟩ := access_eq_ok.mp (dri3PixmapDescriptor_eq_ok.mp hget).1
        have hsucceeds := freeResource_succeeds .pixmap hfound
        simp only [freePixmap, XAuthorityRuntime.freePixmap, hsucceeds] at hfree
        cases hfree
    rw [hnone]
    exact (SameImports.refl runtime).drops
  | ok freed =>
    obtain ⟨base, -, rfl⟩ := Fallible.map_eq_ok.mp hfree
    refine ⟨(Loses.of_erased (bufferOf_erase rfl)).fewer fun handle hmem => ?_, .of_eq rfl, rfl, rfl⟩
    rw [Option.mem_toList, Option.map_eq_some_iff] at hmem
    obtain ⟨descriptor, hget, rfl⟩ := hmem
    have hfound := (dri3PixmapDescriptor_eq_ok.mp (Fallible.toOption_eq_some.mp hget)).2
    simp [bufferOf, hfound]

theorem drops_destroyDri3Fence (runtime : FullRuntime) (ns : NamespaceId) (id : XResourceId) :
    Drops runtime (runtime.destroyDri3Fence ns id).2 []
      (runtime.dri3FenceHandle ns id).toOption.toList := by
  unfold destroyDri3Fence
  cases hfree : runtime.toXAuthorityRuntime.destroyDri3Fence ns id with
  | error error =>
    have hnone : (runtime.dri3FenceHandle ns id).toOption.toList = [] := by
      cases hget : runtime.dri3FenceHandle ns id with
      | error error => rfl
      | ok handle =>
        obtain ⟨found, hfound⟩ := access_eq_ok.mp (dri3FenceHandle_eq_ok.mp hget).1
        have hsucceeds := freeResource_succeeds .fence hfound
        simp only [XAuthorityRuntime.destroyDri3Fence, hsucceeds] at hfree
        cases hfree
    rw [hnone]
    exact (SameImports.refl runtime).drops
  | ok base =>
    refine ⟨.of_eq rfl, (Loses.of_erased (fenceOf_erase rfl)).fewer fun handle hmem => ?_, rfl, rfl⟩
    rw [Option.mem_toList] at hmem
    have hfound := (dri3FenceHandle_eq_ok.mp (Fallible.toOption_eq_some.mp hmem)).2
    simp [hfound]

section Release

theorem loses_of_swept {buffer : List XResourceId}
    (h : Swept (fun id _ => id ∈ buffer) runtime.dri3Pixmaps next.dri3Pixmaps) :
    Loses runtime.bufferOf next.bufferOf
      (buffer.filterMap fun id => (runtime.dri3Pixmaps[id]?).map (·.handle)) := by
  constructor
  · intro id handle hget
    obtain ⟨descriptor, hdescriptor, rfl⟩ := Option.map_eq_some_iff.mp hget
    exact Option.map_eq_some_iff.mpr ⟨descriptor, ((h id descriptor).mp hdescriptor).1, rfl⟩
  · intro handle hmem
    obtain ⟨id, hid, hget⟩ := List.mem_filterMap.mp hmem
    exact ⟨id, hget, by rw [bufferOf, h.getElem?_none fun _ => hid]; rfl⟩

theorem losesFences_of_swept {fence : List XResourceId}
    (h : Swept (fun id _ => id ∈ fence) runtime.dri3Fences next.dri3Fences) :
    Loses runtime.fenceOf next.fenceOf (fence.filterMap fun id => runtime.dri3Fences[id]?) := by
  constructor
  · exact fun id handle hget => ((h id handle).mp hget).1
  · intro handle hmem
    obtain ⟨id, hid, hget⟩ := List.mem_filterMap.mp hmem
    exact ⟨id, hget, h.getElem?_none fun _ => hid⟩

/-- What a release has reported so far is what it has taken out. -/
def Reports (state state' : Releasing) : Prop :=
  ∃ buffers fences, state'.1.releasedDmaBufs = state.1.releasedDmaBufs ++ buffers ∧
    state'.1.releasedFences = state.1.releasedFences ++ fences ∧
    Drops state.2 state'.2 buffers fences

theorem Reports.refl (state : Releasing) : Reports state state :=
  ⟨[], [], by simp, by simp, (SameImports.refl state.2).drops⟩

theorem Reports.trans {last : Releasing} (h : Reports state state') (h' : Reports state' last) :
    Reports state last := by
  obtain ⟨buffers, fences, hbuffers, hfences, hdrops⟩ := h
  obtain ⟨moreBuffers, moreFences, hmoreBuffers, hmoreFences, hmore⟩ := h'
  refine ⟨buffers ++ moreBuffers, fences ++ moreFences, ?_, ?_, hdrops.trans hmore⟩
  · rw [hmoreBuffers, hbuffers, List.append_assoc]
  · rw [hmoreFences, hfences, List.append_assoc]

/-- The counters of the handles stand still while records are released. -/
theorem counters_releaseRecord (h : releaseRecord ns state record = .ok state') :
    state'.2.nextDmaBufHandle = state.2.nextDmaBufHandle ∧
      state'.2.nextFenceHandle = state.2.nextFenceHandle := by
  obtain ⟨release, runtime⟩ := state
  cases hkind : record.kind with
  | window =>
    simp only [releaseRecord, hkind] at h
    obtain ⟨⟨surface, next⟩, hdestroyed, rfl⟩ := Fallible.map_eq_ok.mp h
    have hquiet : Quiet True True runtime next := quiet_destroyWindow hdestroyed
    exact ⟨hquiet.nextDmaBuf, hquiet.nextFence⟩
  | pixmap =>
    simp only [releaseRecord, hkind] at h
    obtain ⟨freed, hfreed, rfl⟩ := Fallible.map_eq_ok.mp h
    obtain ⟨base, -, rfl⟩ := Fallible.map_eq_ok.mp hfreed
    exact ⟨rfl, rfl⟩
  | font =>
    simp only [releaseRecord, hkind] at h
    obtain ⟨next, hclosed, rfl⟩ := Fallible.map_eq_ok.mp h
    have hquiet : Quiet True True runtime next := quiet_closeFont hclosed
    exact ⟨hquiet.nextDmaBuf, hquiet.nextFence⟩
  | cursor =>
    simp only [releaseRecord, hkind] at h
    obtain ⟨next, hfreed, rfl⟩ := Fallible.map_eq_ok.mp h
    have hquiet : Quiet True True runtime next := quiet_freeCursor hfreed
    exact ⟨hquiet.nextDmaBuf, hquiet.nextFence⟩
  | _ =>
    simp only [releaseRecord, hkind] at h
    cases h
    exact ⟨rfl, rfl⟩

theorem reports_releaseRecord (h : releaseRecord ns state record = .ok state') :
    Reports state state' := by
  have hreleased := released_one h
  obtain ⟨hdmaBuf, hfence⟩ := counters_releaseRecord h
  exact ⟨_, _, hreleased.releasedDmaBufs, hreleased.releasedFences,
    ⟨loses_of_swept hreleased.pixmaps, losesFences_of_swept hreleased.fences, hdmaBuf, hfence⟩⟩

theorem reports_tryEach {β : Type} {body : Releasing → β → Result Releasing}
    (hbody : ∀ state x state', body state x = .ok state' → Reports state state') (xs : List β)
    (state : Releasing) : Reports state (Run.tryEach body xs state).2 :=
  Run.tryEach_invariant body (Reports state)
    (fun middle x last hlast hmiddle => hmiddle.trans (hbody middle x last hlast)) xs (.refl state)

theorem reports_andThen {done : Result Unit × Releasing}
    {f : Releasing → Result Unit × Releasing} (h : Reports state done.2)
    (hf : ∀ state, Reports state (f state).2) : Reports state (andThen done f).2 := by
  obtain ⟨result, middle⟩ := done
  cases result with
  | error error => exact h
  | ok u => exact h.trans (hf middle)

theorem reports_releaseOwned (ns : NamespaceId) (range : XWireClientResourceRange)
    (state : Releasing) :
    Reports state (releaseOwned ns range state).2 := by
  refine reports_andThen (reports_tryEach (fun state gc state' h => ?_) _ state) fun state => ?_
  · obtain ⟨next, hfreed, rfl⟩ := Fallible.map_eq_ok.mp h
    have hquiet : Quiet True True state.2 next := quiet_freeGraphicsContext hfreed
    exact ⟨[], [], by simp, by simp, hquiet.toSameImports.drops⟩
  refine reports_andThen (reports_tryEach (fun state segment state' h => ?_) _ state) fun state => ?_
  · obtain ⟨next, hdetached, rfl⟩ := Fallible.map_eq_ok.mp h
    have hquiet : Quiet True True state.2 next := quiet_detachShmSegment hdetached
    exact ⟨[], [], by simp, by simp, hquiet.toSameImports.drops⟩
  · exact reports_tryEach (fun state record state' => reports_releaseRecord) _ state

/-- What a teardown reports is gone; one that fails half way reports nothing. -/
theorem drops_release (runtime : FullRuntime) (ns : NamespaceId)
    (range : XWireClientResourceRange) :
    let released := runtime.releaseClientResourceRange ns range
    Drops runtime released.2 (released.1.toOption.getD {}).releasedDmaBufs
      (released.1.toOption.getD {}).releasedFences := by
  dsimp only
  unfold releaseClientResourceRange
  split
  · exact (SameImports.refl runtime).drops
  obtain ⟨buffers, fences, hbuffers, hfences, hdrops⟩ :=
    reports_releaseOwned ns range (runtime.releaseGlx ns range)
  have hglx : SameImports runtime (runtime.releaseGlx ns range).2 := ⟨rfl, rfl, rfl, rfl⟩
  have hall := hglx.drops.trans hdrops
  simp only [List.nil_append] at hall
  dsimp only
  cases hresult : (releaseOwned ns range (runtime.releaseGlx ns range)).1 with
  | error error =>
    exact ⟨hall.buffers.fewer fun _ hmem => absurd hmem List.not_mem_nil,
      hall.fences.fewer fun _ hmem => absurd hmem List.not_mem_nil, hall.nextDmaBuf, hall.nextFence⟩
  | ok u =>
    have hbuffers' : buffers = (releaseOwned ns range (runtime.releaseGlx ns range)).2.1.releasedDmaBufs :=
      hbuffers.symm
    have hfences' : fences = (releaseOwned ns range (runtime.releaseGlx ns range)).2.1.releasedFences :=
      hfences.symm
    rw [hbuffers', hfences'] at hall
    exact hall

end Release

section Imports

/-- What an import enters: the buffer under the number of the counter, which moves on. -/
structure Imports (runtime next : FullRuntime) (ns : NamespaceId) (id : XResourceId)
    (descriptor : DmaBufDescriptor) : Prop where
  number : descriptor.handle = .fromRaw (max runtime.nextDmaBufHandle 1)
  valid : descriptor.validate = .ok ()
  buffers : ∀ other, next.bufferOf other =
    if other = id then some descriptor.handle else runtime.bufferOf other
  fences : next.fenceOf = runtime.fenceOf
  nextDmaBuf : next.nextDmaBufHandle = max (saturatingAdd (max runtime.nextDmaBufHandle 1) 1) 1
  nextFence : next.nextFenceHandle = runtime.nextFenceHandle
  found : next.dri3PixmapDescriptor ns id = .ok descriptor

theorem lookup_created {base base' : XAuthorityRuntime} {generation : UInt64}
    {kind : XAuthorityRuntime.AuxiliaryKind}
    (h : XAuthorityRuntime.createResource kind base ns id generation = .ok base') :
    base'.resources.lookup ns id kind.resourceKind =
      .ok { id, kind := kind.resourceKind, ownerNamespace := ns, generation } := by
  have hvalid := createResource_valid h
  simp only [XAuthorityRuntime.createResource, Fallible.bind_eq_ok, Fallible.mapError_eq_ok,
    Fallible.pure_eq_ok] at h
  obtain ⟨resources, hinsert, rfl⟩ := h
  obtain ⟨-, hrecords⟩ := XAuthorityRuntime.insert_eq_ok hinsert
  unfold XResourceTable.lookup
  simp [hrecords, hvalid.2]

theorem imports_installDri3Pixmap {generation : UInt64} {descriptor : DmaBufDescriptor}
    {installed : DmaBufDescriptor × FullRuntime}
    (hhandle : descriptor.handle = .fromRaw (max runtime.nextDmaBufHandle 1))
    (hvalid : descriptor.validate = .ok ())
    (h : runtime.installDri3Pixmap ns id generation descriptor = .ok installed) :
    installed.1 = descriptor ∧ Imports runtime installed.2 ns id descriptor := by
  obtain ⟨created, hcreated, rfl⟩ := Fallible.map_eq_ok.mp h
  obtain ⟨base, hbase, rfl⟩ := Fallible.map_eq_ok.mp hcreated
  refine ⟨rfl, hhandle, hvalid, fun other => ?_, rfl, ?_, rfl, ?_⟩
  · simp only [bufferOf]
    rw [getElem?_insert_eq]
    split <;> rfl
  · rw [hhandle]
    rfl
  · refine dri3PixmapDescriptor_eq_ok.mpr ⟨access_eq_ok.mpr ⟨_, lookup_created hbase⟩, ?_⟩
    exact ExtTreeMap.getElem?_insert_self

variable {sizeBytes : UInt32} {width height stride : UInt16} {depth bitsPerPixel numBuffers : UInt8}
  {generation modifier : UInt64} {strides offsets : Vector UInt32 dmaBufMaxPlanes}
  {created : DmaBufDescriptor × FullRuntime}

theorem imports_createDri3Pixmap
    (h : runtime.createDri3Pixmap ns id generation sizeBytes width height stride depth bitsPerPixel =
      .ok created) : Imports runtime created.2 ns id created.1 ∧ created.1.planeCount = 1 := by
  obtain ⟨descriptor, himport, hinstalled⟩ := createDri3Pixmap_eq_ok.mp h
  simp only [dri3Import, Fallible.bind_eq_ok, Fallible.throw_if_eq_ok, Fallible.pure_eq_ok,
    Fallible.mapError_eq_ok] at himport
  obtain ⟨format, -, u, hvalid, -, rfl⟩ := himport
  obtain ⟨hsame, himports⟩ := imports_installDri3Pixmap rfl hvalid hinstalled
  rw [hsame]
  exact ⟨himports, rfl⟩

theorem imports_createDri3PixmapFromBuffers
    (h : runtime.createDri3PixmapFromBuffers ns id generation numBuffers width height strides offsets
      depth bitsPerPixel modifier = .ok created) :
    Imports runtime created.2 ns id created.1 ∧ created.1.planeCount = numBuffers := by
  obtain ⟨descriptor, himport, hinstalled⟩ := createDri3PixmapFromBuffers_eq_ok.mp h
  simp only [dri3ImportFromBuffers, Fallible.bind_eq_ok, Fallible.throw_if_eq_ok,
    Fallible.pure_eq_ok, Fallible.mapError_eq_ok] at himport
  obtain ⟨format, -, -, u, hvalid, rfl⟩ := himport
  obtain ⟨hsame, himports⟩ := imports_installDri3Pixmap rfl hvalid hinstalled
  rw [hsame]
  exact ⟨himports, rfl⟩

/-- What the creation of a fence enters. -/
structure ImportsFence (runtime next : FullRuntime) (ns : NamespaceId) (id : XResourceId)
    (handle : FenceHandle) : Prop where
  number : handle = .fromRaw (max runtime.nextFenceHandle 1)
  buffers : next.bufferOf = runtime.bufferOf
  fences : ∀ other, next.fenceOf other = if other = id then some handle else runtime.fenceOf other
  nextDmaBuf : next.nextDmaBufHandle = runtime.nextDmaBufHandle
  nextFence : next.nextFenceHandle = max (saturatingAdd (max runtime.nextFenceHandle 1) 1) 1
  found : next.dri3FenceHandle ns id = .ok handle

theorem imports_createDri3Fence {made : FenceHandle × FullRuntime}
    (h : runtime.createDri3Fence ns id generation = .ok made) :
    ImportsFence runtime made.2 ns id made.1 := by
  obtain ⟨base, hbase, rfl⟩ := Fallible.map_eq_ok.mp h
  refine ⟨rfl, rfl, fun other => getElem?_insert_eq other, rfl, rfl, ?_⟩
  refine dri3FenceHandle_eq_ok.mpr ⟨access_eq_ok.mpr ⟨_, lookup_created hbase⟩, ?_⟩
  exact ExtTreeMap.getElem?_insert_self

end Imports

section Presents

variable {request : XPresentPixmap} {result : XDispatchResult} {context : XDispatchContext}

/-- What the backend is handed is what the answer shows. -/
theorem presentSubmission_eq_some {submission : XAuthorityPresentSubmission}
    (h : runtime.presentSubmission ns request result = some submission) :
    ∃ response built, result.response = some response ∧ response.transactions.head? = some built ∧
      built.targetBuffer = .dmaBuf submission.buffer.raw ∧
      submission.transaction = response.transaction ∧ submission.surface = built.surface ∧
      (∀ fence ∈ submission.acquireFence, fence ∈ request.waitFence.bind runtime.fenceOf) ∧
      (∀ fence ∈ submission.idleFence, fence ∈ request.idleFence.bind runtime.fenceOf) := by
  have hfence (named : Option XResourceId) : ∀ fence ∈ named.bind (fun fence =>
      (runtime.dri3FenceHandle ns fence).toOption), fence ∈ named.bind runtime.fenceOf := by
    intro fence hmem
    obtain ⟨id, hid, hget⟩ := Option.bind_eq_some_iff.mp hmem
    exact Option.bind_eq_some_iff.mpr
      ⟨id, hid, (dri3FenceHandle_eq_ok.mp (Fallible.toOption_eq_some.mp hget)).2⟩
  simp only [presentSubmission, Option.bind_eq_bind, Option.bind_eq_some_iff] at h
  obtain ⟨response, hresponse, built, hbuilt, h⟩ := h
  split at h
  · rename_i handle htarget
    cases h
    exact ⟨response, built, hresponse, hbuilt, htarget, rfl, rfl, hfence _, hfence _⟩
  · cases h

/-- The buffer an accepted Present shows is the one its pixmap was imported from. -/
theorem presentStandardPixmap_shows {transaction : TransactionId} {window pixmap : XResourceId}
    {built : SurfaceTransaction} {handle : UInt64}
    (h : (runtime.presentStandardPixmap transaction ns window pixmap).1.transactions.head? =
      some built) (hbuffer : built.targetBuffer = .dmaBuf handle) :
    runtime.bufferOf pixmap = some (.fromRaw handle) := by
  unfold presentStandardPixmap at h
  split at h
  · cases h
  split at h
  · cases h
  rename_i record _ _ _ _
  have hshown (buffer : BufferSource) (update : XDrawingUpdate) (hupdate : update.buffer = buffer)
      (hhead : (runtime.finishDrawingUpdate update).1.transactions.head? = some built) :
      built.targetBuffer = buffer := by
    rcases finishDrawingUpdate_cases runtime update with ⟨error, hrejected⟩ |
      ⟨other, windows, hother, -, haccepted⟩
    · rw [hrejected] at hhead
      cases hhead
    · rw [haccepted] at hhead
      cases hhead
      rw [← hupdate]
      exact (surfaceTransaction_eq_ok hother).2.2.2.1
  have htarget := hshown _ _ rfl h
  rw [hbuffer] at htarget
  dsimp only at htarget
  unfold bufferOf
  cases hget : runtime.dri3Pixmaps[pixmap]? with
  | none =>
    rw [hget] at htarget
    cases htarget
  | some descriptor =>
    rw [hget] at htarget
    cases htarget
    rfl

end Presents

end FullRuntime
end Sophia.Authority
