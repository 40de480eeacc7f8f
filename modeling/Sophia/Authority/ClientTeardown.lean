import Sophia.Authority.Properties
import Sophia.Authority.RuntimeSteps

/-! The release of a disconnected client: complete, exact and reported. -/
namespace Sophia.Authority

open Std Sophia.Protocol Ordered

namespace XPropertyTable

/-- Forget the properties of windows that are gone. -/
def removeWindows (table : XPropertyTable) (ns : NamespaceId) (windows : List XResourceId) :
    XPropertyTable :=
  windows.foldl (·.removeWindow ns ·) table

theorem swept_removeWindows (ns : NamespaceId) (windows : List XResourceId)
    (table : XPropertyTable) :
    Swept (fun key _ => key.namespaceId = ns ∧ key.window ∈ windows) table.records
      (table.removeWindows ns windows).records := by
  induction windows generalizing table with
  | nil => exact .untouched (by simp)
  | cons window windows ih =>
    have hfirst : Swept (fun key _ => key.namespaceId = ns ∧ key.window = window) table.records
        (table.removeWindow ns window).records := by
      refine (swept_filter _).congr ?_
      intro key record _
      simp
    refine (hfirst.trans (ih _)).congr fun key record _ => ?_
    rw [List.mem_cons, and_or_left]

end XPropertyTable

namespace FullRuntime

variable {runtime next : FullRuntime} {ns : NamespaceId} {range : XWireClientResourceRange}
  {state : Releasing} {u : Unit}

section Loops

variable {done : Result Unit × Releasing} {f : Releasing → Result Unit × Releasing}

theorem andThen_eq_ok (h : (andThen done f).1 = .ok u) :
    done.1 = .ok () ∧ (f done.2).1 = .ok u ∧ (andThen done f).2 = (f done.2).2 := by
  obtain ⟨result, state⟩ := done
  cases result with
  | error error => cases h
  | ok u => exact ⟨rfl, h, rfl⟩

/-- The first loop empties the client's part of the table of contexts, and does nothing else. -/
theorem released_graphicsContexts {ids : List XResourceId}
    (h : (Run.tryEach (releaseGraphicsContext ns) ids state).1 = .ok u) :
    let last := (Run.tryEach (releaseGraphicsContext ns) ids state).2
    Swept (fun id _ => id ∈ ids) state.2.graphicsContexts.records last.2.graphicsContexts.records ∧
      last.2 = { state.2 with graphicsContexts := last.2.graphicsContexts } ∧
      last.1 = { state.1 with releasedGraphicsContexts := last.1.releasedGraphicsContexts } := by
  refine Run.tryEach_rel (R := fun ids (state last : Releasing) =>
    Swept (fun id _ => id ∈ ids) state.2.graphicsContexts.records
      last.2.graphicsContexts.records ∧
      last.2 = { state.2 with graphicsContexts := last.2.graphicsContexts } ∧
      last.1 = { state.1 with releasedGraphicsContexts := last.1.releasedGraphicsContexts })
    ?_ ?_ h
  · exact fun state => ⟨.untouched (by simp), rfl, rfl⟩
  · rintro id ids state middle last hone ⟨hswept, hruntime, hrelease⟩
    obtain ⟨freed, hfreed, rfl⟩ := Fallible.map_eq_ok.mp hone
    simp only [freeGraphicsContext, Fallible.mapError_eq_ok, Fallible.map_eq_ok,
      XGraphicsContextTable.remove] at hfreed
    obtain ⟨-, ⟨record, -, rfl⟩, rfl⟩ := hfreed
    refine ⟨((swept_erase id).trans hswept).congr ?_, hruntime, hrelease⟩
    simp

/-- The second loop does the same with the segments. -/
theorem released_shmSegments {ids : List XResourceId}
    (h : (Run.tryEach (releaseShmSegment ns) ids state).1 = .ok u) :
    let last := (Run.tryEach (releaseShmSegment ns) ids state).2
    Swept (fun id _ => id ∈ ids) state.2.shmSegments.records last.2.shmSegments.records ∧
      last.2 = { state.2 with shmSegments := last.2.shmSegments } ∧
      last.1 = { state.1 with releasedShmSegments := last.1.releasedShmSegments } := by
  refine Run.tryEach_rel (R := fun ids (state last : Releasing) =>
    Swept (fun id _ => id ∈ ids) state.2.shmSegments.records last.2.shmSegments.records ∧
      last.2 = { state.2 with shmSegments := last.2.shmSegments } ∧
      last.1 = { state.1 with releasedShmSegments := last.1.releasedShmSegments }) ?_ ?_ h
  · exact fun state => ⟨.untouched (by simp), rfl, rfl⟩
  · rintro id ids state middle last hone ⟨hswept, hruntime, hrelease⟩
    obtain ⟨freed, hfreed, rfl⟩ := Fallible.map_eq_ok.mp hone
    simp only [detachShmSegment, Fallible.mapError_eq_ok, Fallible.map_eq_ok,
      XShmSegmentTable.detach] at hfreed
    obtain ⟨-, ⟨record, -, rfl⟩, rfl⟩ := hfreed
    refine ⟨((swept_erase id).trans hswept).congr ?_, hruntime, hrelease⟩
    simp

end Loops

section Teardown

variable {kind : XResourceKind} {id : XResourceId} {record : XResourceRecord}
  {release : XAuthorityClientResourceRelease}

/-- A resource of the client, recorded as being of this kind. -/
def Released (runtime : FullRuntime) (ns : NamespaceId) (range : XWireClientResourceRange)
    (kind : XResourceKind) (id : XResourceId) : Prop :=
  range.owns id ∧ ∃ record, runtime.resources.records[id]? = some record ∧ record.kind = kind ∧
    record.ownerNamespace = ns

/-- The id is outside the client's range, or recorded for another namespace. -/
def Beyond (runtime : FullRuntime) (ns : NamespaceId) (range : XWireClientResourceRange)
    (id : XResourceId) : Prop :=
  range.owns id = false ∨
    ∃ record, runtime.resources.records[id]? = some record ∧ record.ownerNamespace ≠ ns

/-- The table loses the client's things of this kind, and nothing beyond the client changes. -/
structure Cleared {ν : Type} (runtime : FullRuntime) (ns : NamespaceId)
    (range : XWireClientResourceRange) (kind : XResourceKind)
    (before after : ExtTreeMap XResourceId ν) : Prop where
  gone : ∀ id, runtime.Released ns range kind id → after[id]? = none
  kept : ∀ id, runtime.Beyond ns range id → after[id]? = before[id]?

/-- What the release of a client does, table by table, and what it reports. -/
structure TornDown (runtime next : FullRuntime) (ns : NamespaceId)
    (range : XWireClientResourceRange) (release : XAuthorityClientResourceRelease) : Prop where
  resources : Swept (fun id record => record.ownerNamespace = ns ∧ range.owns id)
    runtime.resources.records next.resources.records
  graphicsContexts : Swept (fun id gc => gc.namespaceId = ns ∧ range.owns id)
    runtime.graphicsContexts.records next.graphicsContexts.records
  shmSegments : Swept (fun id segment => segment.namespaceId = ns ∧ range.owns id)
    runtime.shmSegments.records next.shmSegments.records
  glxContexts : Swept (fun id glx => glx.1 = ns ∧ range.owns id) runtime.glxContexts
    next.glxContexts
  glxWindows : Swept
    (fun id glx => glx.1 = ns ∧ range.owns id ∨ runtime.Released ns range .window glx.2.1)
    runtime.glxWindows next.glxWindows
  windows : Cleared runtime ns range .window runtime.windows.windows next.windows.windows
  buffers : Cleared runtime ns range .window runtime.softwareBuffers.buffers
    next.softwareBuffers.buffers
  backgrounds : Cleared runtime ns range .window runtime.windowBackgroundPixels
    next.windowBackgroundPixels
  visuals : Cleared runtime ns range .window runtime.windowVisuals next.windowVisuals
  focus : Swept (fun own focus => own = ns ∧ runtime.Released ns range .window focus.1)
    runtime.inputFocus next.inputFocus
  dri3Pixmaps : Cleared runtime ns range .pixmap runtime.dri3Pixmaps next.dri3Pixmaps
  dri3Fences : Cleared runtime ns range .fence runtime.dri3Fences next.dri3Fences
  xfixesRegions : Cleared runtime ns range .region runtime.xfixesRegions next.xfixesRegions
  selections : ∀ selection, (∀ window, runtime.Released ns range .window window → ∀ owner,
      runtime.selections.holder selection owner ≠ some window) →
    ∀ owner, next.selections.owner selection owner = runtime.selections.owner selection owner
  properties : ∀ properties : XPropertyTable,
    Swept (fun key _ => key.namespaceId = ns ∧ runtime.Released ns range .window key.window)
      properties.records (properties.removeWindows ns release.destroyedWindows).records
  destroyedWindows : release.destroyedWindows.Nodup ∧
    ∀ id, id ∈ release.destroyedWindows ↔ runtime.Released ns range .window id
  removedSurfaces : release.removedSurfaces.map some =
    release.destroyedWindows.map fun id => (runtime.windows.get id).map (·.surface)
  releasedDmaBufs : ∃ pixmaps : List XResourceId, pixmaps.Nodup ∧
    (∀ id, id ∈ pixmaps ↔ runtime.Released ns range .pixmap id) ∧
    release.releasedDmaBufs = pixmaps.filterMap fun id => (runtime.dri3Pixmaps[id]?).map (·.handle)
  releasedFences : ∃ fences : List XResourceId, fences.Nodup ∧
    (∀ id, id ∈ fences ↔ runtime.Released ns range .fence id) ∧
    release.releasedFences = fences.filterMap fun id => runtime.dri3Fences[id]?

/-- Nothing of the client is left in a table, and what is not the client's is untouched. -/
structure Vacated (runtime next : FullRuntime) (ns : NamespaceId)
    (range : XWireClientResourceRange) : Prop where
  windows : ∀ id window, next.windows.get id = some window ↔
    runtime.windows.get id = some window ∧ ¬ (window.namespaceId = ns ∧ range.owns id)
  dri3Pixmaps : ∀ id buffer, next.dri3Pixmaps[id]? = some buffer ↔
    runtime.dri3Pixmaps[id]? = some buffer ∧ ¬ runtime.Released ns range .pixmap id
  dri3Fences : ∀ id fence, next.dri3Fences[id]? = some fence ↔
    runtime.dri3Fences[id]? = some fence ∧ ¬ runtime.Released ns range .fence id
  xfixesRegions : ∀ id region, next.xfixesRegions[id]? = some region ↔
    runtime.xfixesRegions[id]? = some region ∧ ¬ runtime.Released ns range .region id
  others : ∀ kind id owner, next.tabled id kind = some owner → range.owns id →
    ∃ record, next.resources.records[id]? = some record ∧ record.kind = kind ∧
      record.ownerNamespace ≠ ns

theorem mem_recordsForNamespaceInClientRange
    (hkeyed : KeyedBy XResourceRecord.id runtime.resources.records) :
    record ∈ runtime.resources.recordsForNamespaceInClientRange ns range ↔
      runtime.resources.records[record.id]? = some record ∧ record.ownerNamespace = ns ∧
        range.owns record.id := by
  unfold XResourceTable.recordsForNamespaceInClientRange XWireClientResourceRange.owns
  rw [List.mem_filter]
  refine and_congr hkeyed.mem_values_iff ?_
  simp

theorem mem_recorded_ids (hkeyed : KeyedBy XResourceRecord.id runtime.resources.records)
    (hget : runtime.resources.records[id]? = some record) :
    id ∈ (runtime.resources.recordsForNamespaceInClientRange ns range).map (·.id) ↔
      record.ownerNamespace = ns ∧ range.owns id := by
  have hid := hkeyed id record hget
  constructor
  · intro h
    obtain ⟨found, hfound, rfl⟩ := List.mem_map.mp h
    obtain ⟨hsame, hns, howns⟩ := (mem_recordsForNamespaceInClientRange hkeyed).mp hfound
    rw [hget] at hsame
    cases hsame
    exact ⟨hns, howns⟩
  · rintro ⟨hns, howns⟩
    refine List.mem_map.mpr ⟨record, ?_, hid⟩
    refine (mem_recordsForNamespaceInClientRange hkeyed).mpr ⟨?_, hns, ?_⟩
    · rw [hid]
      exact hget
    · rw [hid]
      exact howns

theorem mem_idsOf_records (hkeyed : KeyedBy XResourceRecord.id runtime.resources.records) :
    id ∈ idsOf kind (runtime.resources.recordsForNamespaceInClientRange ns range) ↔
      runtime.Released ns range kind id := by
  simp only [idsOf, List.mem_map, List.mem_filter, decide_eq_true_eq]
  constructor
  · rintro ⟨record, ⟨hmem, hkind⟩, rfl⟩
    obtain ⟨hget, hns, howns⟩ := (mem_recordsForNamespaceInClientRange hkeyed).mp hmem
    exact ⟨howns, record, hget, hkind, hns⟩
  · rintro ⟨howns, record, hget, hkind, hns⟩
    have hid := hkeyed id record hget
    refine ⟨record, ⟨(mem_recordsForNamespaceInClientRange hkeyed).mpr ⟨?_, hns, ?_⟩, hkind⟩, hid⟩
    · rw [hid]
      exact hget
    · rw [hid]
      exact howns

theorem nodup_recorded_ids (hkeyed : KeyedBy XResourceRecord.id runtime.resources.records) :
    ((runtime.resources.recordsForNamespaceInClientRange ns range).map (·.id)).Nodup :=
  hkeyed.nodup_values.sublist (List.filter_sublist.map _)

theorem nodup_idsOf_records (hkeyed : KeyedBy XResourceRecord.id runtime.resources.records) :
    (idsOf kind (runtime.resources.recordsForNamespaceInClientRange ns range)).Nodup :=
  (nodup_recorded_ids hkeyed).sublist (List.filter_sublist.map _)

theorem Released.not_beyond (h : runtime.Released ns range kind id)
    (hbeyond : runtime.Beyond ns range id) : False := by
  obtain ⟨howns, record, hget, -, hns⟩ := h
  rcases hbeyond with hrange | ⟨other, hother, hne⟩
  · rw [hrange] at howns
    cases howns
  · rw [hget] at hother
    cases hother
    exact hne hns

theorem cleared_of_swept {ν : Type} {before after : ExtTreeMap XResourceId ν}
    (h : Swept (fun id _ => runtime.Released ns range kind id) before after) :
    Cleared runtime ns range kind before after where
  gone _ hreleased := h.getElem?_none fun _ => hreleased
  kept _ hbeyond := h.getElem?_eq fun _ hreleased => hreleased.not_beyond hbeyond

/-- The three loops one after the other: contexts, segments, then every record. -/
theorem releaseOwned_ok (hkeyed : KeyedBy XResourceRecord.id state.2.resources.records)
    (h : (releaseOwned ns range state).1 = .ok u) :
    ∃ (graphicsContexts : XGraphicsContextTable) (shmSegments : XShmSegmentTable)
        (releasedGraphicsContexts releasedShmSegments : ℕ),
      Swept (fun id gc => gc.namespaceId = ns ∧ range.owns id) state.2.graphicsContexts.records
        graphicsContexts.records ∧
      Swept (fun id segment => segment.namespaceId = ns ∧ range.owns id)
        state.2.shmSegments.records shmSegments.records ∧
      RecordsReleased ns (state.2.resources.recordsForNamespaceInClientRange ns range)
        ({ state.1 with releasedGraphicsContexts, releasedShmSegments },
          { state.2 with graphicsContexts, shmSegments }) (releaseOwned ns range state).2 := by
  unfold releaseOwned at h ⊢
  obtain ⟨hgc, h, he⟩ := andThen_eq_ok h
  obtain ⟨hgcSwept, hgcRuntime, hgcRelease⟩ := released_graphicsContexts hgc
  rw [he]
  clear he
  generalize (Run.tryEach (releaseGraphicsContext ns)
    (state.2.graphicsContexts.idsForNamespaceInClientRange ns range) state).2 = contexts
    at h hgcSwept hgcRuntime hgcRelease ⊢
  obtain ⟨hshm, h, he⟩ := andThen_eq_ok h
  obtain ⟨hshmSwept, hshmRuntime, hshmRelease⟩ := released_shmSegments hshm
  rw [he]
  clear he
  generalize (Run.tryEach (releaseShmSegment ns)
    (contexts.2.shmSegments.idsForNamespaceInClientRange ns range) contexts).2 = segments
    at h hshmSwept hshmRuntime hshmRelease ⊢
  have hsegments : contexts.2.shmSegments = state.2.shmSegments := by rw [hgcRuntime]
  have hresources : segments.2.resources = state.2.resources := by rw [hshmRuntime, hgcRuntime]
  have hgcs : segments.2.graphicsContexts = contexts.2.graphicsContexts := by rw [hshmRuntime]
  refine ⟨segments.2.graphicsContexts, segments.2.shmSegments,
    segments.1.releasedGraphicsContexts, segments.1.releasedShmSegments, ?_, ?_, ?_⟩
  · rw [hgcs]
    refine hgcSwept.congr fun id gc hget => ?_
    rw [ObjectTable.mem_idsForNamespaceInClientRange]
    constructor
    · exact fun h => ⟨h.2, gc, hget, h.1⟩
    · rintro ⟨howns, found, hfound, hns⟩
      rw [hget] at hfound
      cases hfound
      exact ⟨hns, howns⟩
  · rw [← hsegments]
    refine hshmSwept.congr fun id segment hget => ?_
    rw [ObjectTable.mem_idsForNamespaceInClientRange]
    constructor
    · exact fun h => ⟨h.2, segment, hget, h.1⟩
    · rintro ⟨howns, found, hfound, hns⟩
      rw [hget] at hfound
      cases hfound
      exact ⟨hns, howns⟩
  · have hmiddle : segments = ({ state.1 with
          releasedGraphicsContexts := segments.1.releasedGraphicsContexts
          releasedShmSegments := segments.1.releasedShmSegments },
        { state.2 with
          graphicsContexts := segments.2.graphicsContexts
          shmSegments := segments.2.shmSegments }) := by
      refine Prod.ext ?_ ?_
      · rw [hshmRelease, hgcRelease]
      · rw [hshmRuntime, hgcRuntime]
    rw [← hmiddle]
    rw [← hresources] at hkeyed ⊢
    exact released_records (nodup_recorded_ids hkeyed) h

theorem releaseClientResourceRange_ok
    (h : runtime.releaseClientResourceRange ns range = (.ok release, next)) :
    (releaseOwned ns range (runtime.releaseGlx ns range)).1 = .ok () ∧
      (releaseOwned ns range (runtime.releaseGlx ns range)).2 = (release, next) := by
  unfold releaseClientResourceRange at h
  split at h
  · cases h
  · simp only [Prod.mk.injEq, Fallible.map_eq_ok] at h
    obtain ⟨⟨u, hok, hrelease⟩, hnext⟩ := h
    exact ⟨hok, Prod.ext hrelease hnext⟩

theorem tornDown (hkeyed : KeyedBy XResourceRecord.id runtime.resources.records)
    (h : runtime.releaseClientResourceRange ns range = (.ok release, next)) :
    TornDown runtime next ns range release := by
  obtain ⟨hok, hlast⟩ := releaseClientResourceRange_ok h
  have hids : ∀ kind id, id ∈ idsOf kind
      (runtime.resources.recordsForNamespaceInClientRange ns range) ↔
        runtime.Released ns range kind id := fun kind id => mem_idsOf_records hkeyed
  have hglxKeyed :
      KeyedBy XResourceRecord.id (runtime.releaseGlx ns range).2.resources.records := hkeyed
  obtain ⟨graphicsContexts, shmSegments, gcs, segments, hgc, hshm, hrecords⟩ :=
    releaseOwned_ok hglxKeyed hok
  rw [hlast] at hrecords
  have hdestroyed : release.destroyedWindows =
      idsOf .window (runtime.resources.recordsForNamespaceInClientRange ns range) :=
    hrecords.destroyedWindows
  refine
    { resources := hrecords.resources.congr fun id record hget =>
        (mem_recorded_ids hkeyed hget).symm
      graphicsContexts := by
        rw [hrecords.graphicsContexts]
        exact hgc
      shmSegments := by
        rw [hrecords.shmSegments]
        exact hshm
      glxContexts := ?_
      glxWindows := ?_
      windows := cleared_of_swept (hrecords.windows.congr fun id _ _ => (hids .window id).symm)
      buffers := cleared_of_swept (hrecords.buffers.congr fun id _ _ => (hids .window id).symm)
      backgrounds :=
        cleared_of_swept (hrecords.backgrounds.congr fun id _ _ => (hids .window id).symm)
      visuals := cleared_of_swept (hrecords.visuals.congr fun id _ _ => (hids .window id).symm)
      focus := hrecords.focus.congr fun own focus _ =>
        and_congr_right fun _ => (hids .window focus.1).symm
      dri3Pixmaps := cleared_of_swept (hrecords.pixmaps.congr fun id _ _ => (hids .pixmap id).symm)
      dri3Fences := cleared_of_swept (hrecords.fences.congr fun id _ _ => (hids .fence id).symm)
      xfixesRegions :=
        cleared_of_swept (hrecords.regions.congr fun id _ _ => (hids .region id).symm)
      selections := fun selection hheld => hrecords.selections selection fun window hwindow =>
        hheld window ((hids .window window).mp hwindow)
      properties := ?_
      destroyedWindows := ?_
      removedSurfaces := ?_
      releasedDmaBufs := ⟨_, nodup_idsOf_records hkeyed, hids .pixmap, hrecords.releasedDmaBufs⟩
      releasedFences := ⟨_, nodup_idsOf_records hkeyed, hids .fence, hrecords.releasedFences⟩ }
  · rw [hrecords.glxContexts]
    exact (swept_filter _).congr (by simp)
  · have hglx : Swept (fun id glx => glx.1 = ns ∧ range.owns id) runtime.glxWindows
        (runtime.releaseGlx ns range).2.glxWindows :=
      (swept_filter _).congr (by simp)
    refine (hglx.trans hrecords.glxWindows).congr fun id glx _ => or_congr_right ?_
    exact (hids .window glx.2.1).symm
  · intro properties
    refine (XPropertyTable.swept_removeWindows ns _ properties).congr fun key _ _ =>
      and_congr_right fun _ => ?_
    rw [hdestroyed]
    exact (hids .window key.window).symm
  · rw [hdestroyed]
    exact ⟨nodup_idsOf_records hkeyed, hids .window⟩
  · rw [hdestroyed]
    exact hrecords.removedSurfaces

theorem beyond_of_not_released (hget : runtime.resources.records[id]? = some record)
    (h : ¬ runtime.Released ns range record.kind id) : runtime.Beyond ns range id := by
  by_cases hns : record.ownerNamespace = ns
  · refine .inl (Bool.eq_false_iff.mpr fun howns => ?_)
    exact h ⟨howns, record, hget, rfl, hns⟩
  · exact .inr ⟨record, hget, hns⟩

/-- Where everything is recorded, a cleared table loses the client's things and no others. -/
theorem Cleared.getElem?_eq_some_iff {ν : Type} {before after : ExtTreeMap XResourceId ν} {v : ν}
    (h : Cleared runtime ns range kind before after)
    (hbefore : before[id]? = some v →
      ∃ record, runtime.resources.records[id]? = some record ∧ record.kind = kind)
    (hafter : after[id]? = some v → runtime.Beyond ns range id) :
    after[id]? = some v ↔ before[id]? = some v ∧ ¬ runtime.Released ns range kind id := by
  constructor
  · intro hv
    have hbeyond := hafter hv
    refine ⟨(h.kept id hbeyond).symm.trans hv, fun hreleased => hreleased.not_beyond hbeyond⟩
  · rintro ⟨hv, hreleased⟩
    obtain ⟨record, hget, rfl⟩ := hbefore hv
    exact (h.kept id (beyond_of_not_released hget hreleased)).trans hv

theorem vacated (h : TornDown runtime next ns range release) (hrecorded : runtime.Recorded)
    (hnext : next.Recorded) : Vacated runtime next ns range := by
  -- What is still recorded afterwards was recorded before, beyond the client.
  have hbeyond : ∀ kind id owner, next.tabled id kind = some owner →
      runtime.Beyond ns range id := by
    intro kind id owner hlast
    obtain ⟨record, hget, rfl, -⟩ := hnext kind id owner hlast
    obtain ⟨hbefore, hother⟩ := (h.resources id record).mp hget
    refine beyond_of_not_released hbefore ?_
    rintro ⟨howns, found, hfound, -, hns⟩
    rw [hbefore] at hfound
    cases hfound
    exact hother ⟨hns, howns⟩
  have hkind : ∀ kind id owner, runtime.tabled id kind = some owner →
      ∃ record, runtime.resources.records[id]? = some record ∧ record.kind = kind := by
    intro kind id owner hfirst
    obtain ⟨record, hget, hkind, -⟩ := hrecorded kind id owner hfirst
    exact ⟨record, hget, hkind⟩
  refine
    { windows := fun id window => ?_
      dri3Pixmaps := fun id buffer => h.dri3Pixmaps.getElem?_eq_some_iff ?_ ?_
      dri3Fences := fun id fence => h.dri3Fences.getElem?_eq_some_iff ?_ ?_
      xfixesRegions := fun id region => h.xfixesRegions.getElem?_eq_some_iff ?_ ?_
      others := fun kind id owner hlast howns => ?_ }
  · have hiff : next.windows.get id = some window ↔
        runtime.windows.get id = some window ∧ ¬ runtime.Released ns range .window id :=
      h.windows.getElem?_eq_some_iff
        (fun hv => hkind .window id _ (Option.map_eq_some_iff.mpr ⟨window, hv, rfl⟩))
        (fun hv => hbeyond .window id _ (Option.map_eq_some_iff.mpr ⟨window, hv, rfl⟩))
    refine hiff.trans (and_congr_right fun hv => not_congr ?_)
    obtain ⟨record, hget, hwindow, hns⟩ :=
      hrecorded .window id _ (Option.map_eq_some_iff.mpr ⟨window, hv, rfl⟩)
    have hns := hns _ rfl
    constructor
    · rintro ⟨howns, found, hfound, -, hfoundNs⟩
      rw [hget] at hfound
      cases hfound
      exact ⟨hns.symm.trans hfoundNs, howns⟩
    · rintro ⟨hwindowNs, howns⟩
      exact ⟨howns, record, hget, hwindow, hns.trans hwindowNs⟩
  · exact fun hv => hkind .pixmap id _ (Option.map_eq_some_iff.mpr ⟨buffer, hv, rfl⟩)
  · exact fun hv => hbeyond .pixmap id _ (Option.map_eq_some_iff.mpr ⟨buffer, hv, rfl⟩)
  · exact fun hv => hkind .fence id _ (Option.map_eq_some_iff.mpr ⟨fence, hv, rfl⟩)
  · exact fun hv => hbeyond .fence id _ (Option.map_eq_some_iff.mpr ⟨fence, hv, rfl⟩)
  · exact fun hv => hkind .region id _ (Option.map_eq_some_iff.mpr ⟨region, hv, rfl⟩)
  · exact fun hv => hbeyond .region id _ (Option.map_eq_some_iff.mpr ⟨region, hv, rfl⟩)
  · obtain ⟨record, hget, hkind, -⟩ := hnext kind id owner hlast
    obtain ⟨-, hother⟩ := (h.resources id record).mp hget
    exact ⟨record, hget, hkind, fun hns => hother ⟨hns, howns⟩⟩

end Teardown

section Session

/-- The range of the first client. -/
def firstRange : XWireClientResourceRange := ⟨0x400000, 0x1fffff⟩

/-- The first client has a window, a buffer and a context; the second draws on the window. -/
def twoClients : List RuntimeCall :=
  [.plain (.apply ⟨⟨1⟩, ⟨1⟩, .createWindow (.new 0x400001 1) ⟨1, 1⟩ ⟨0, 0, 8, 8⟩ ⟨none, none⟩ 1⟩) rfl,
    .createDri3Pixmap ⟨1⟩ (.new 0x400002 1) 1 256 8 8 32 24 32,
    .createGraphicsContext ⟨1⟩ (.new 0x400003 1) (.new 0x400001 1) {},
    .createGlxWindow ⟨1⟩ (.new 0x600001 1) (.new 0x400001 1) 1]

end Session
end FullRuntime
end Sophia.Authority
