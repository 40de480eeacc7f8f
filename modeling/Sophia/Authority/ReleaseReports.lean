import Sophia.Authority.ClientTeardown

/-! No buffer and no fence goes without being reported. -/
namespace Sophia.Authority

open Std Sophia.Protocol Ordered

namespace FullRuntime

variable {runtime next : FullRuntime} {ns : NamespaceId} {range : XWireClientResourceRange}
  {state state' : Releasing} {record : XResourceRecord} {ready whole : Prop}

/-- The buffers a call reports as released. -/
def releasedBuffers (runtime : FullRuntime) : RuntimeCall → List BufferHandle
  | .freePixmap ns pixmap => match runtime.freePixmap ns pixmap with
    | .ok (handle, _) => handle.toList
    | .error _ => []
  | .releaseClientResourceRange ns range => match (runtime.releaseClientResourceRange ns range).1 with
    | .ok release => release.releasedDmaBufs
    | .error _ => []
  | _ => []

/-- The fences a call reports as released. -/
def releasedFences (runtime : FullRuntime) : RuntimeCall → List FenceHandle
  | .destroyDri3Fence ns fence => match (runtime.destroyDri3Fence ns fence).1 with
    | .ok handle => [handle]
    | .error _ => []
  | .releaseClientResourceRange ns range => match (runtime.releaseClientResourceRange ns range).1 with
    | .ok release => release.releasedFences
    | .error _ => []
  | _ => []

/-- Every buffer and every fence is still there after the call, or reported as released. -/
structure Accounted (runtime : FullRuntime) (call : RuntimeCall) : Prop where
  buffers : ∀ (id : XResourceId) descriptor, runtime.dri3Pixmaps[id]? = some descriptor →
    (runtime.step call).dri3Pixmaps[id]? = some descriptor ∨
      descriptor.handle ∈ runtime.releasedBuffers call
  fences : ∀ (id : XResourceId) handle, runtime.dri3Fences[id]? = some handle →
    (runtime.step call).dri3Fences[id]? = some handle ∨ handle ∈ runtime.releasedFences call

theorem SameImports.accounted {call : RuntimeCall} (h : SameImports runtime (runtime.step call)) :
    runtime.Accounted call where
  buffers id descriptor hget := .inl (by rwa [h.pixmaps])
  fences id handle hget := .inl (by rwa [h.fences])

section Release

/-- What a record stands for is there to be released. -/
structure Releasable (ns : NamespaceId) (runtime : FullRuntime) (record : XResourceRecord) :
    Prop where
  recorded : runtime.resources.records[record.id]? = some record
  owned : record.ownerNamespace = ns
  window : record.kind = .window → (runtime.windows.get record.id).isSome

theorem Releasable.lookup (h : Releasable ns runtime record) (hns : ns.isValid) :
    runtime.resources.lookup ns record.id record.kind = .ok record := by
  unfold XResourceTable.lookup
  rw [h.recorded]
  simp [hns, h.owned]

theorem Releasable.freeResource (aux : XAuthorityRuntime.AuxiliaryKind)
    (h : Releasable ns runtime record) (hns : ns.isValid) (hkind : record.kind = aux.resourceKind) :
    XAuthorityRuntime.freeResource aux runtime.toXAuthorityRuntime ns record.id =
      .ok (runtime.dropResource record.id) := by
  have hlookup := h.lookup hns
  rw [hkind] at hlookup
  unfold XAuthorityRuntime.freeResource
  rw [hlookup]
  rfl

theorem releaseRecord_succeeds (h : Releasable ns state.2 record) (hns : ns.isValid) :
    ∃ state', releaseRecord ns state record = .ok state' := by
  obtain ⟨release, runtime⟩ := state
  cases hkind : record.kind with
  | window =>
    obtain ⟨window, hwindow⟩ := Option.isSome_iff_exists.mp (h.window hkind)
    have hlookup := h.lookup hns
    rw [hkind] at hlookup
    simp only [releaseRecord, hkind, destroyWindow, XAuthorityRuntime.destroyWindow, hlookup, hwindow]
    exact ⟨_, rfl⟩
  | pixmap =>
    have hfree := h.freeResource .pixmap hns hkind
    simp only [releaseRecord, hkind, freePixmap, XAuthorityRuntime.freePixmap, hfree]
    exact ⟨_, rfl⟩
  | font =>
    have hfree := h.freeResource .font hns hkind
    simp only [releaseRecord, hkind, closeFont, XAuthorityRuntime.closeFont, hfree]
    exact ⟨_, rfl⟩
  | cursor =>
    have hfree := h.freeResource .cursor hns hkind
    simp only [releaseRecord, hkind, freeCursor, XAuthorityRuntime.freeCursor, hfree]
    exact ⟨_, rfl⟩
  | _ =>
    simp only [releaseRecord, hkind]
    exact ⟨_, rfl⟩

/-- Releasing one record leaves what the others stand for. -/
theorem Releasable.after {other : XResourceRecord} (h : Releasable ns state.2 other)
    (hne : other.id ≠ record.id) (hone : releaseRecord ns state record = .ok state') :
    Releasable ns state'.2 other := by
  have hreleased := released_one hone
  refine ⟨(hreleased.resources other.id other).mpr ⟨h.recorded, by simpa using hne⟩, h.owned, ?_⟩
  intro hkind
  obtain ⟨window, hwindow⟩ := Option.isSome_iff_exists.mp (h.window hkind)
  refine Option.isSome_iff_exists.mpr ⟨window, ?_⟩
  refine (hreleased.windows other.id window).mpr ⟨hwindow, ?_⟩
  by_cases hwindow : record.kind = .window
  · have hids : idsOf .window [record] = [record.id] := hwindow ▸ idsOf_self
    simpa [hids] using hne
  · simp [idsOf_of_ne hwindow]

theorem releaseRecords_succeed {records : List XResourceRecord} (hns : ns.isValid)
    (hnodup : (records.map (·.id)).Nodup) (h : ∀ record ∈ records, Releasable ns state.2 record) :
    (Run.tryEach (releaseRecord ns) records state).1 = .ok () := by
  induction records generalizing state with
  | nil => rfl
  | cons record records ih =>
    obtain ⟨state', hone⟩ := releaseRecord_succeeds (h record List.mem_cons_self) hns
    rw [List.map_cons, List.nodup_cons] at hnodup
    rw [Run.tryEach, hone]
    refine ih hnodup.2 fun other hother => ?_
    refine (h other (List.mem_cons_of_mem record hother)).after ?_ hone
    intro he
    exact hnodup.1 (List.mem_map.mpr ⟨other, hother, he⟩)

theorem quiet_tryEach {body : Releasing → XResourceId → Result Releasing}
    (hbody : ∀ state x state', body state x = .ok state' → Quiet ready whole state.2 state'.2)
    (xs : List XResourceId) (state : Releasing) :
    Quiet ready whole state.2 (Run.tryEach body xs state).2.2 :=
  Run.tryEach_invariant body (fun last => Quiet ready whole state.2 last.2)
    (fun middle x last hlast hmiddle => hmiddle.trans (hbody middle x last hlast)) xs (.refl _)

/-- The loops before the records reach no import, and leave the records and the windows alone. -/
theorem releaseOwned_succeeds (range : XWireClientResourceRange) (state : Releasing)
    (hns : ns.isValid)
    (hnodup : ((state.2.resources.recordsForNamespaceInClientRange ns range).map (·.id)).Nodup)
    (h : ∀ record ∈ state.2.resources.recordsForNamespaceInClientRange ns range,
      Releasable ns state.2 record) :
    (releaseOwned ns range state).1 = .ok () ∨
      SameImports state.2 (releaseOwned ns range state).2.2 := by
  have hcontexts : ∀ ids, Quiet True True state.2
      (Run.tryEach (releaseGraphicsContext ns) ids state).2.2 := fun ids => by
    refine quiet_tryEach (fun state gc state' h => ?_) ids state
    obtain ⟨next, hfreed, rfl⟩ := Fallible.map_eq_ok.mp h
    exact quiet_freeGraphicsContext hfreed
  unfold releaseOwned
  cases hgc : Run.tryEach (releaseGraphicsContext ns)
    (state.2.graphicsContexts.idsForNamespaceInClientRange ns range) state with
  | mk result contexts =>
  have hquiet := hcontexts (state.2.graphicsContexts.idsForNamespaceInClientRange ns range)
  rw [hgc] at hquiet
  cases result with
  | error error => exact .inr hquiet.toSameImports
  | ok u =>
  obtain ⟨-, hcontextsRuntime, -⟩ := released_graphicsContexts (congrArg Prod.fst hgc)
  rw [hgc] at hcontextsRuntime
  have hsegments : ∀ ids, Quiet True True contexts.2
      (Run.tryEach (releaseShmSegment ns) ids contexts).2.2 := fun ids => by
    refine quiet_tryEach (fun state segment state' h => ?_) ids contexts
    obtain ⟨next, hdetached, rfl⟩ := Fallible.map_eq_ok.mp h
    exact quiet_detachShmSegment hdetached
  simp only [andThen]
  cases hshm : Run.tryEach (releaseShmSegment ns)
    (contexts.2.shmSegments.idsForNamespaceInClientRange ns range) contexts with
  | mk result segments =>
  have hquiet' := hsegments (contexts.2.shmSegments.idsForNamespaceInClientRange ns range)
  rw [hshm] at hquiet'
  cases result with
  | error error => exact .inr (hquiet.trans hquiet').toSameImports
  | ok u =>
  obtain ⟨-, hsegmentsRuntime, -⟩ := released_shmSegments (congrArg Prod.fst hshm)
  rw [hshm] at hsegmentsRuntime
  left
  have hresources : segments.2.resources = state.2.resources := by
    rw [hsegmentsRuntime, hcontextsRuntime]
  have hwindows : segments.2.windows = state.2.windows := by
    rw [hsegmentsRuntime, hcontextsRuntime]
  simp only [hresources]
  refine releaseRecords_succeed hns hnodup fun record hrecord => ?_
  obtain ⟨hrecorded, howned, hwindow⟩ := h record hrecord
  exact ⟨hresources ▸ hrecorded, howned, hwindows ▸ hwindow⟩

/-- Where the tables agree with the records, a release gets to its end or reaches no import. -/
theorem release_succeeds (ns : NamespaceId) (range : XWireClientResourceRange)
    (hkeyed : KeyedBy XResourceRecord.id runtime.resources.records)
    (hbacked : runtime.Backed) :
    (∃ release next, runtime.releaseClientResourceRange ns range = (.ok release, next)) ∨
      SameImports runtime (runtime.releaseClientResourceRange ns range).2 := by
  unfold releaseClientResourceRange
  by_cases hns : ns.isValid
  · have howned := releaseOwned_succeeds range (runtime.releaseGlx ns range) hns
      (nodup_recorded_ids hkeyed) ?_
    · simp only [hns, Bool.not_true, Bool.false_eq_true, if_false]
      refine howned.imp (fun hok => ⟨_, _, by rw [hok]; rfl⟩) fun hsame => ?_
      exact ⟨hsame.pixmaps, hsame.fences, hsame.nextDmaBuf, hsame.nextFence⟩
    · intro record hrecord
      obtain ⟨hvalue, hown⟩ := List.mem_filter.mp hrecord
      have hget := hkeyed.mem_values_iff.mp hvalue
      refine ⟨hget, (of_decide_eq_true hown).1, fun hkind => ?_⟩
      have htabled := hbacked record.id record hget (by rw [hkind]; rfl)
      rw [hkind] at htabled
      have hwindow : (runtime.windows.get record.id).isSome := by simpa [tabled] using htabled
      exact hwindow
  · right
    simp only [hns, Bool.not_false, if_true]
    exact .refl runtime

theorem accounted_release (hkeyed : KeyedBy XResourceRecord.id runtime.resources.records)
    (hrecorded : runtime.Recorded) (hbacked : runtime.Backed) :
    runtime.Accounted (.releaseClientResourceRange ns range) := by
  rcases release_succeeds ns range hkeyed hbacked with ⟨release, next, h⟩ | h
  · have hdown := tornDown hkeyed h
    constructor
    · intro id descriptor hget
      obtain ⟨record, hrecord, hkind, -⟩ := hrecorded .pixmap id none (by simp [tabled, hget])
      by_cases hreleased : runtime.Released ns range .pixmap id
      · obtain ⟨ids, -, hids, hreport⟩ := hdown.releasedDmaBufs
        right
        simp only [releasedBuffers, h, hreport, List.mem_filterMap]
        exact ⟨id, (hids id).mpr hreleased, by rw [hget]; rfl⟩
      · left
        rw [← hkind] at hreleased
        simp only [step, h]
        rw [hdown.dri3Pixmaps.kept id (beyond_of_not_released hrecord hreleased), hget]
    · intro id handle hget
      obtain ⟨record, hrecord, hkind, -⟩ := hrecorded .fence id none (by simp [tabled, hget])
      by_cases hreleased : runtime.Released ns range .fence id
      · obtain ⟨ids, -, hids, hreport⟩ := hdown.releasedFences
        right
        simp only [releasedFences, h, hreport, List.mem_filterMap]
        exact ⟨id, (hids id).mpr hreleased, hget⟩
      · left
        rw [← hkind] at hreleased
        simp only [step, h]
        rw [hdown.dri3Fences.kept id (beyond_of_not_released hrecord hreleased), hget]
  · exact SameImports.accounted h

end Release
end FullRuntime
end Sophia.Authority
