import Sophia.Authority.RuntimeCalls

/-! Releasing a client's resources: what goes, what stays and what is reported. -/
namespace Sophia.Authority

open Std Sophia.Protocol

namespace XSelectionMonitor

variable {monitor : XSelectionMonitor} {windows : XWindowTable} {kind : XSelectionChangeKind}
  {window : XResourceId} {selection : UInt32}

/-- Clearing a window's selections leaves alone every selection it does not own. -/
theorem owner_clearWindowOwner (h : ∀ ns, monitor.holder selection ns ≠ some window)
    (ns : Option NamespaceId) :
    (monitor.clearWindowOwner window windows kind).owner selection ns =
      monitor.owner selection ns := by
  have hother : ∀ record ∈ (Ordered.values monitor.owners).filter (·.owner = some window),
      selection ≠ record.selection := by
    rintro record hrecord rfl
    obtain ⟨hmem, howner⟩ := List.mem_filter.mp hrecord
    have hget := monitor.keyed.mem_values_iff.mp hmem
    exact h record.namespaceId (holder_eq_some.mpr ⟨record, hget, by simpa using howner⟩)
  unfold clearWindowOwner
  clear h
  generalize (Ordered.values monitor.owners).filter (·.owner = some window) = released at hother
  induction released generalizing monitor with
  | nil => rfl
  | cons record released ih =>
    rw [List.foldl_cons, ih fun other hmem => hother other (List.mem_cons_of_mem _ hmem)]
    exact owner_applyEvent_of_selection_ne (hother record List.mem_cons_self)

end XSelectionMonitor

namespace FullRuntime

open Ordered XSelectionMonitor

variable {runtime : FullRuntime} {ns : NamespaceId} {range : XWireClientResourceRange}
  {record : XResourceRecord} {records : List XResourceRecord} {kind : XResourceKind}
  {state state' last : Releasing}

/-- The ids of the records of one kind. -/
def idsOf (kind : XResourceKind) (records : List XResourceRecord) : List XResourceId :=
  (records.filter (·.kind = kind)).map (·.id)

theorem idsOf_cons (kind : XResourceKind) (record : XResourceRecord)
    (records : List XResourceRecord) : idsOf kind (record :: records) = idsOf kind [record] ++ idsOf kind records := by
  by_cases h : record.kind = kind <;> simp [idsOf, h]

theorem idsOf_self : idsOf record.kind [record] = [record.id] := by simp [idsOf]

theorem idsOf_of_ne (h : record.kind ≠ kind) : idsOf kind [record] = [] := by simp [idsOf, h]

/-- What releasing records does to the tables and to the report. -/
structure RecordsReleased (ns : NamespaceId) (records : List XResourceRecord)
    (state state' : Releasing) : Prop where
  resources : Swept (fun id _ => id ∈ records.map (·.id)) state.2.resources.records
    state'.2.resources.records
  windows : Swept (fun id _ => id ∈ idsOf .window records) state.2.windows.windows
    state'.2.windows.windows
  buffers : Swept (fun id _ => id ∈ idsOf .window records) state.2.softwareBuffers.buffers
    state'.2.softwareBuffers.buffers
  backgrounds : Swept (fun id _ => id ∈ idsOf .window records) state.2.windowBackgroundPixels
    state'.2.windowBackgroundPixels
  visuals : Swept (fun id _ => id ∈ idsOf .window records) state.2.windowVisuals
    state'.2.windowVisuals
  focus : Swept (fun own focus => own = ns ∧ focus.1 ∈ idsOf .window records) state.2.inputFocus
    state'.2.inputFocus
  pixmaps : Swept (fun id _ => id ∈ idsOf .pixmap records) state.2.dri3Pixmaps
    state'.2.dri3Pixmaps
  fences : Swept (fun id _ => id ∈ idsOf .fence records) state.2.dri3Fences state'.2.dri3Fences
  regions : Swept (fun id _ => id ∈ idsOf .region records) state.2.xfixesRegions
    state'.2.xfixesRegions
  glxWindows : Swept (fun _ glx => glx.2.1 ∈ idsOf .window records) state.2.glxWindows
    state'.2.glxWindows
  selections : ∀ selection, (∀ window ∈ idsOf .window records, ∀ ns,
      state.2.selections.holder selection ns ≠ some window) →
    ∀ ns, state'.2.selections.owner selection ns = state.2.selections.owner selection ns
  glxContexts : state'.2.glxContexts = state.2.glxContexts
  graphicsContexts : state'.2.graphicsContexts = state.2.graphicsContexts
  shmSegments : state'.2.shmSegments = state.2.shmSegments
  destroyedWindows : state'.1.destroyedWindows =
    state.1.destroyedWindows ++ idsOf .window records
  removedSurfaces : state'.1.removedSurfaces.map some = state.1.removedSurfaces.map some ++
    (idsOf .window records).map fun id => (state.2.windows.get id).map (·.surface)
  releasedDmaBufs : state'.1.releasedDmaBufs = state.1.releasedDmaBufs ++
    (idsOf .pixmap records).filterMap fun id => (state.2.dri3Pixmaps[id]?).map (·.handle)
  releasedFences : state'.1.releasedFences = state.1.releasedFences ++
    (idsOf .fence records).filterMap fun id => state.2.dri3Fences[id]?

theorem swept_erase_ids {ν : Type} {m : ExtTreeMap XResourceId ν} (h : record.kind = kind) :
    Swept (fun id _ => id ∈ idsOf kind [record]) m (m.erase record.id) := by
  subst h
  rw [idsOf_self]
  exact (swept_erase record.id).congr (by simp)

theorem swept_no_ids {ν : Type} {m : ExtTreeMap XResourceId ν} (h : record.kind ≠ kind) :
    Swept (fun id _ => id ∈ idsOf kind [record]) m m := by
  rw [idsOf_of_ne h]
  exact .untouched (by simp)

/-- A namespace loses its focus with the window that has it. -/
theorem swept_focus (m : ExtTreeMap NamespaceId (XResourceId × UInt8)) (window : XResourceId) :
    Swept (fun own (focus : XResourceId × UInt8) => own = ns ∧ focus.1 = window) m
      (if (m[ns]?).any (fun focus : XResourceId × UInt8 => focus.1 = window) then m.erase ns
        else m) := by
  split
  · rename_i hfocused
    refine (swept_erase ns).congr fun own focus hfocus => and_iff_left_of_imp ?_
    rintro rfl
    rw [hfocus] at hfocused
    simpa using hfocused
  · rename_i hother
    intro own focus
    refine (and_iff_left_of_imp fun hfocus => ?_).symm
    rintro ⟨rfl, rfl⟩
    exact hother (by simp [hfocus])

theorem destroyWindow_eq_ok {window : XResourceId} {surface : SurfaceId} {next : FullRuntime}
    (h : runtime.destroyWindow ns window = .ok (surface, next)) :
    ∃ record, runtime.windows.get window = some record ∧ surface = record.surface ∧
      next =
        { runtime with
          selections := runtime.selections.clearWindowOwner window runtime.windows
            .selectionWindowDestroyed
          windows := ⟨runtime.windows.windows.erase window⟩
          resources := runtime.resources.remove window
          softwareBuffers := runtime.softwareBuffers.remove window
          windowBackgroundPixels := runtime.windowBackgroundPixels.erase window
          windowVisuals := runtime.windowVisuals.erase window
          glxWindows := runtime.glxWindows.filter fun _ glx => glx.2.1 ≠ window
          inputFocus := if (runtime.inputFocus[ns]?).any (·.1 = window) then
            runtime.inputFocus.erase ns else runtime.inputFocus } := by
  unfold destroyWindow at h
  obtain ⟨destroyed, hdestroyed, he⟩ := Fallible.map_eq_ok.mp h
  simp only [XAuthorityRuntime.destroyWindow, Fallible.bind_eq_ok, Fallible.mapError_eq_ok,
    Fallible.pure_eq_ok] at hdestroyed
  obtain ⟨-, -, record, hrecord, erased, herased, rfl⟩ := hdestroyed
  cases hget : runtime.windows.get window with
  | none =>
    rw [hget] at hrecord
    cases hrecord
  | some found =>
    rw [hget] at hrecord
    cases hrecord
    cases herased
    cases he
    exact ⟨_, rfl, rfl, rfl⟩

theorem freeResource_eq_ok {base base' : XAuthorityRuntime} {id : XResourceId}
    {kind : XAuthorityRuntime.AuxiliaryKind}
    (h : XAuthorityRuntime.freeResource kind base ns id = .ok base') :
    base' = base.dropResource id := by
  simp only [XAuthorityRuntime.freeResource, Fallible.bind_eq_ok, Fallible.pure_eq_ok] at h
  obtain ⟨-, -, rfl⟩ := h
  rfl

theorem released_window (hkind : record.kind = .window)
    (h : releaseRecord ns state record = .ok state') : RecordsReleased ns [record] state state' := by
  obtain ⟨release, runtime⟩ := state
  simp only [releaseRecord, hkind] at h
  obtain ⟨⟨surface, next⟩, hdestroyed, rfl⟩ := Fallible.map_eq_ok.mp h
  obtain ⟨window, hwindow, rfl, rfl⟩ := destroyWindow_eq_ok hdestroyed
  have hids : idsOf .window [record] = [record.id] := hkind ▸ idsOf_self
  have hpixmaps : idsOf .pixmap [record] = [] := idsOf_of_ne (by simp [hkind])
  have hfences : idsOf .fence [record] = [] := idsOf_of_ne (by simp [hkind])
  refine
    { resources := (swept_erase record.id).congr (by simp)
      windows := swept_erase_ids hkind
      buffers := swept_erase_ids hkind
      backgrounds := swept_erase_ids hkind
      visuals := swept_erase_ids hkind
      focus := (swept_focus _ record.id).congr (by simp [hids])
      pixmaps := swept_no_ids (by simp [hkind])
      fences := swept_no_ids (by simp [hkind])
      regions := swept_no_ids (by simp [hkind])
      glxWindows := (swept_filter _).congr (by simp [hids])
      selections := fun selection hheld => ?_
      glxContexts := rfl
      graphicsContexts := rfl
      shmSegments := rfl
      destroyedWindows := by rw [hids]
      removedSurfaces := by simp [hids, hwindow]
      releasedDmaBufs := by simp [hpixmaps]
      releasedFences := by simp [hfences] }
  exact owner_clearWindowOwner (hheld record.id (by simp [hids]))

/-- A record that is no window's goes with entries of the pixmap, fence and region tables only. -/
theorem released_beside {release release' : XAuthorityClientResourceRelease}
    {pixmaps : ExtTreeMap XResourceId DmaBufDescriptor}
    {fences : ExtTreeMap XResourceId FenceHandle} {regions : ExtTreeMap XResourceId Region}
    (hkind : record.kind ≠ .window)
    (hpixmaps : Swept (fun id _ => id ∈ idsOf .pixmap [record]) runtime.dri3Pixmaps pixmaps)
    (hfences : Swept (fun id _ => id ∈ idsOf .fence [record]) runtime.dri3Fences fences)
    (hregions : Swept (fun id _ => id ∈ idsOf .region [record]) runtime.xfixesRegions regions)
    (hdestroyed : release'.destroyedWindows = release.destroyedWindows)
    (hsurfaces : release'.removedSurfaces = release.removedSurfaces)
    (hbufs : release'.releasedDmaBufs = release.releasedDmaBufs ++
      (idsOf .pixmap [record]).filterMap fun id => (runtime.dri3Pixmaps[id]?).map (·.handle))
    (hfence : release'.releasedFences = release.releasedFences ++
      (idsOf .fence [record]).filterMap fun id => runtime.dri3Fences[id]?) :
    RecordsReleased ns [record] (release, runtime)
      (release',
        { runtime.withBase (runtime.dropResource record.id) with
          dri3Pixmaps := pixmaps, dri3Fences := fences, xfixesRegions := regions }) := by
  have hids : idsOf .window [record] = [] := idsOf_of_ne hkind
  exact
    { resources := (swept_erase record.id).congr (by simp)
      windows := swept_no_ids hkind
      buffers := swept_no_ids hkind
      backgrounds := swept_no_ids hkind
      visuals := swept_no_ids hkind
      focus := .untouched (by simp [hids])
      pixmaps := hpixmaps
      fences := hfences
      regions := hregions
      glxWindows := .untouched (by simp [hids])
      selections := fun _ _ _ => rfl
      glxContexts := rfl
      graphicsContexts := rfl
      shmSegments := rfl
      destroyedWindows := by rw [hdestroyed, hids, List.append_nil]
      removedSurfaces := by simp [hsurfaces, hids]
      releasedDmaBufs := hbufs
      releasedFences := hfence }

theorem released_other (hkind : record.kind ≠ .window)
    (h : releaseRecord ns state record = .ok state') : RecordsReleased ns [record] state state' := by
  obtain ⟨release, runtime⟩ := state
  cases hk : record.kind with
  | window => exact absurd hk hkind
  | pixmap =>
    simp only [releaseRecord, hk] at h
    obtain ⟨⟨handle, next⟩, hfreed, rfl⟩ := Fallible.map_eq_ok.mp h
    obtain ⟨base, hbase, he⟩ := Fallible.map_eq_ok.mp hfreed
    obtain rfl := freeResource_eq_ok hbase
    cases he
    have hids : idsOf .pixmap [record] = [record.id] := hk ▸ idsOf_self
    refine released_beside hkind (swept_erase_ids hk) (swept_no_ids (by simp [hk]))
      (swept_no_ids (by simp [hk])) rfl rfl ?_ (by simp [idsOf_of_ne, hk])
    rw [hids]
    cases hget : runtime.dri3Pixmaps[record.id]? <;> simp [hget]
  | fence =>
    simp only [releaseRecord, hk] at h
    cases h
    have hids : idsOf .fence [record] = [record.id] := hk ▸ idsOf_self
    refine released_beside hkind (swept_no_ids (by simp [hk])) (swept_erase_ids hk)
      (swept_no_ids (by simp [hk])) rfl rfl (by simp [idsOf_of_ne, hk]) ?_
    rw [hids]
    cases hget : runtime.dri3Fences[record.id]? <;> simp [hget]
  | region =>
    simp only [releaseRecord, hk] at h
    cases h
    exact released_beside hkind (swept_no_ids (by simp [hk])) (swept_no_ids (by simp [hk]))
      (swept_erase_ids hk) rfl rfl (by simp [idsOf_of_ne, hk]) (by simp [idsOf_of_ne, hk])
  | font =>
    simp only [releaseRecord, hk] at h
    obtain ⟨next, hclosed, rfl⟩ := Fallible.map_eq_ok.mp h
    obtain ⟨base, hbase, rfl⟩ := Fallible.map_eq_ok.mp hclosed
    obtain rfl := freeResource_eq_ok hbase
    exact released_beside hkind (swept_no_ids (by simp [hk])) (swept_no_ids (by simp [hk]))
      (swept_no_ids (by simp [hk])) rfl rfl (by simp [idsOf_of_ne, hk]) (by simp [idsOf_of_ne, hk])
  | cursor =>
    simp only [releaseRecord, hk] at h
    obtain ⟨next, hfreed, rfl⟩ := Fallible.map_eq_ok.mp h
    obtain ⟨base, hbase, rfl⟩ := Fallible.map_eq_ok.mp hfreed
    obtain rfl := freeResource_eq_ok hbase
    exact released_beside hkind (swept_no_ids (by simp [hk])) (swept_no_ids (by simp [hk]))
      (swept_no_ids (by simp [hk])) rfl rfl (by simp [idsOf_of_ne, hk]) (by simp [idsOf_of_ne, hk])
  | _ =>
    simp only [releaseRecord, hk] at h
    cases h
    exact released_beside hkind (swept_no_ids (by simp [hk])) (swept_no_ids (by simp [hk]))
      (swept_no_ids (by simp [hk])) rfl rfl (by simp [idsOf_of_ne, hk]) (by simp [idsOf_of_ne, hk])

theorem released_one (h : releaseRecord ns state record = .ok state') :
    RecordsReleased ns [record] state state' := by
  by_cases hkind : record.kind = .window
  · exact released_window hkind h
  · exact released_other hkind h

theorem recordsReleased_nil : RecordsReleased ns [] state state := by
  refine ⟨?_, ?_, ?_, ?_, ?_, ?_, ?_, ?_, ?_, ?_, fun _ _ _ => rfl, rfl, rfl, rfl, ?_, ?_, ?_, ?_⟩
  all_goals first
    | exact .untouched (by simp [idsOf])
    | simp [idsOf]

/-- What the first record's release took is not what the others' look for. -/
theorem RecordsReleased.cons (hfresh : record.id ∉ records.map (·.id))
    (h : RecordsReleased ns [record] state state') (h' : RecordsReleased ns records state' last) :
    RecordsReleased ns (record :: records) state last := by
  have hne : ∀ kind, ∀ id ∈ idsOf kind records, ∀ other, id ∉ idsOf other [record] := by
    intro kind id hid other hother
    simp only [idsOf, List.mem_map, List.mem_filter] at hid hother
    obtain ⟨later, ⟨hlater, -⟩, rfl⟩ := hid
    obtain ⟨same, ⟨hsame, -⟩, he⟩ := hother
    rw [List.mem_singleton.mp hsame] at he
    exact hfresh (List.mem_map.mpr ⟨later, hlater, he.symm⟩)
  have hmem : ∀ kind id, id ∈ idsOf kind (record :: records) ↔
      id ∈ idsOf kind [record] ∨ id ∈ idsOf kind records := by
    intro kind id
    rw [idsOf_cons, List.mem_append]
  refine
    { resources := (h.resources.trans h'.resources).congr (by simp)
      windows := (h.windows.trans h'.windows).congr fun id _ _ => hmem .window id
      buffers := (h.buffers.trans h'.buffers).congr fun id _ _ => hmem .window id
      backgrounds := (h.backgrounds.trans h'.backgrounds).congr fun id _ _ => hmem .window id
      visuals := (h.visuals.trans h'.visuals).congr fun id _ _ => hmem .window id
      focus := (h.focus.trans h'.focus).congr fun own focus _ => by
        rw [hmem .window focus.1, and_or_left]
      pixmaps := (h.pixmaps.trans h'.pixmaps).congr fun id _ _ => hmem .pixmap id
      fences := (h.fences.trans h'.fences).congr fun id _ _ => hmem .fence id
      regions := (h.regions.trans h'.regions).congr fun id _ _ => hmem .region id
      glxWindows := (h.glxWindows.trans h'.glxWindows).congr fun _ glx _ => hmem .window glx.2.1
      selections := ?_
      glxContexts := h'.glxContexts.trans h.glxContexts
      graphicsContexts := h'.graphicsContexts.trans h.graphicsContexts
      shmSegments := h'.shmSegments.trans h.shmSegments
      destroyedWindows := by
        rw [h'.destroyedWindows, h.destroyedWindows, idsOf_cons _ record records, List.append_assoc]
      removedSurfaces := ?_
      releasedDmaBufs := ?_
      releasedFences := ?_ }
  · intro selection hheld ns
    have hfirst := h.selections selection fun window hw =>
      hheld window ((hmem .window window).mpr (.inl hw))
    rw [h'.selections selection (fun window hw ns => ?_) ns, hfirst]
    unfold holder
    rw [hfirst]
    exact hheld window ((hmem .window window).mpr (.inr hw)) ns
  · rw [h'.removedSurfaces, h.removedSurfaces, idsOf_cons _ record records, List.map_append, List.append_assoc]
    congr 2
    refine List.map_congr_left fun id hid => ?_
    have hsame := h.windows.getElem?_eq fun _ => hne .window id hid .window
    exact congrArg (Option.map (·.surface)) hsame
  · rw [h'.releasedDmaBufs, h.releasedDmaBufs, idsOf_cons _ record records, List.filterMap_append,
      List.append_assoc]
    congr 2
    refine List.filterMap_congr fun id hid => ?_
    rw [h.pixmaps.getElem?_eq fun _ => hne .pixmap id hid .pixmap]
  · rw [h'.releasedFences, h.releasedFences, idsOf_cons _ record records, List.filterMap_append, List.append_assoc]
    congr 2
    refine List.filterMap_congr fun id hid => ?_
    rw [h.fences.getElem?_eq fun _ => hne .fence id hid .fence]

/-- The loop over the records does what releasing each of them does. -/
theorem released_records (hnodup : (records.map (·.id)).Nodup) {u : Unit}
    (h : (Run.tryEach (releaseRecord ns) records state).1 = .ok u) :
    RecordsReleased ns records state (Run.tryEach (releaseRecord ns) records state).2 := by
  refine Run.tryEach_rel (R := fun records state last =>
    (records.map (·.id)).Nodup → RecordsReleased ns records state last) ?_ ?_ h hnodup
  · exact fun _ _ => recordsReleased_nil
  · intro record records state next last hone hrest hnodup
    rw [List.map_cons, List.nodup_cons] at hnodup
    exact (released_one hone).cons hnodup.1 (hrest hnodup.2)

end FullRuntime
end Sophia.Authority
