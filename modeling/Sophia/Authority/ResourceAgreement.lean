import Sophia.Authority.ReleaseReports
import Sophia.Lib.History

/-! The resource tables agree, in every run that creates nothing under an id that is in use. -/
namespace Sophia.Authority

open Std Sophia.Protocol Ordered

namespace XAuthorityRuntime

variable {base : XAuthorityRuntime} {op : RuntimeOp} {record : XResourceRecord}

/-- The call is answered with an error. -/
def refused (base : XAuthorityRuntime) : RuntimeOp → Bool
  | .apply request => (base.apply request).1.outcome ≠ .accepted
  | .createResource kind ns id generation => !(createResource kind base ns id generation).isOk
  | _ => false

theorem refused_or_valid (base : XAuthorityRuntime) (h : op.enters = some record) :
    (base.refused op ∧ base.step op = base) ∨
      (record.id.isValid ∧ record.ownerNamespace.isValid) := by
  unfold RuntimeOp.enters at h
  split at h
  · rename_i transaction ns window surface geometry constraints generation
    cases h
    cases hinsert : base.resources.insert window .window ns generation with
    | error error =>
      left
      simp [refused, step, apply, applyChecked, createWindow, hinsert]
    | ok resources => exact .inr (insert_eq_ok hinsert).1
  · rename_i kind ns id generation
    cases h
    cases hinsert : base.resources.insert id kind.resourceKind ns generation with
    | error error =>
      left
      have hcreate : createResource kind base ns id generation = .error error.toRuntime := by
        simp only [createResource, hinsert]
        rfl
      simp only [refused, step, hcreate]
      exact ⟨rfl, rfl⟩
    | ok resources => exact .inr (insert_eq_ok hinsert).1
  · cases h

theorem accepted_of_valid (h : op.enters = some record) (hhalf : op.half = false)
    (hvalid : record.id.isValid ∧ record.ownerNamespace.isValid) : base.refused op = false := by
  unfold RuntimeOp.enters at h
  split at h
  · rename_i transaction ns window surface geometry constraints generation
    cases h
    have hsurface : surface.isValid := by simpa [RuntimeOp.half] using hhalf
    simp only [refused, apply, applyChecked, createWindow, XResourceTable.insert, XWindowTable.apply,
      hvalid, hsurface]
    rfl
  · rename_i kind ns id generation
    cases h
    simp only [refused, createResource, XResourceTable.insert, hvalid]
    rfl
  · cases h

/-- A window that is left half made is recorded, answered with an error, and in no window table. -/
theorem half_step (h : op.enters = some record) (hhalf : op.half)
    (hvalid : record.id.isValid ∧ record.ownerNamespace.isValid) :
    base.refused op ∧ record.kind = .window ∧
      base.step op =
        { base with resources := ⟨base.resources.records.insert record.id record⟩ } := by
  unfold RuntimeOp.half at hhalf
  split at hhalf
  · rename_i transaction ns window surface geometry constraints generation
    cases h
    have hsurface : surface.isValid = false := by simpa using hhalf
    refine ⟨?_, rfl, ?_⟩
    · simp [refused, apply, applyChecked, createWindow, XResourceTable.insert, XWindowTable.apply,
        hvalid, hsurface]
    · simp [step, apply, applyChecked, createWindow, XResourceTable.insert, XWindowTable.apply,
        hvalid, hsurface]
  · cases hhalf

end XAuthorityRuntime

namespace FullRuntime

variable {runtime : FullRuntime} {call : RuntimeCall} {record : XResourceRecord}

/-- The id is recorded as being of this kind. -/
def RecordedAs (runtime : FullRuntime) (id : XResourceId) (kind : XResourceKind) : Prop :=
  ∃ record, runtime.resources.records[id]? = some record ∧ record.kind = kind

/-- The tables of windows, imported pixmaps, fences and regions agree with the records. -/
structure Agree (runtime : FullRuntime) : Prop where
  windows : ∀ id ns, runtime.windows.owner id = some ns ↔
    ∃ record, runtime.resources.records[id]? = some record ∧ record.kind = .window ∧
      record.ownerNamespace = ns
  pixmaps : ∀ id, id ∈ runtime.dri3Pixmaps → runtime.RecordedAs id .pixmap
  fences : ∀ id, id ∈ runtime.dri3Fences ↔ runtime.RecordedAs id .fence
  regions : ∀ id, id ∈ runtime.xfixesRegions ↔ runtime.RecordedAs id .region

/-- The id is a key of one of the five tables. -/
def InUse (runtime : FullRuntime) (id : XResourceId) : Prop :=
  id ∈ runtime.resources.records ∨ id ∈ runtime.windows.windows ∨ id ∈ runtime.dri3Pixmaps ∨
    id ∈ runtime.dri3Fences ∨ id ∈ runtime.xfixesRegions

/-- The call is answered with an error. -/
def refused (runtime : FullRuntime) : RuntimeCall → Bool
  | .plain op _ => runtime.toXAuthorityRuntime.refused op
  | .createDri3Pixmap ns pixmap generation sizeBytes width height stride depth bitsPerPixel =>
    !(runtime.createDri3Pixmap ns pixmap generation sizeBytes width height stride depth
      bitsPerPixel).isOk
  | .createDri3PixmapFromBuffers ns pixmap generation numBuffers width height strides offsets depth
      bitsPerPixel modifier =>
    !(runtime.createDri3PixmapFromBuffers ns pixmap generation numBuffers width height strides
      offsets depth bitsPerPixel modifier).isOk
  | .createXfixesRegion ns region rectangles generation =>
    !(runtime.createXfixesRegion ns region rectangles generation).isOk
  | .createDri3Fence ns fence generation => !(runtime.createDri3Fence ns fence generation).isOk
  | _ => false

/-- The call leaves the tables in agreement, takes over no id and drops no handle. -/
structure Sound (runtime : FullRuntime) (call : RuntimeCall) : Prop where
  agree : (runtime.step call).Agree
  refuses : ∀ id ∈ call.creates, runtime.InUse id →
    runtime.refused call ∧ runtime.step call = runtime
  accounted : runtime.Accounted call

section Agree

variable {id : XResourceId} {kind : XResourceKind}

theorem isSome_tabled_window :
    (runtime.tabled id .window).isSome ↔ id ∈ runtime.windows.windows := by
  simp [tabled, XWindowTable.get]

theorem isSome_tabled_pixmap : (runtime.tabled id .pixmap).isSome ↔ id ∈ runtime.dri3Pixmaps := by
  simp [tabled]

theorem isSome_tabled_fence : (runtime.tabled id .fence).isSome ↔ id ∈ runtime.dri3Fences := by
  simp [tabled]

theorem isSome_tabled_region :
    (runtime.tabled id .region).isSome ↔ id ∈ runtime.xfixesRegions := by
  simp [tabled]

theorem Recorded.recordedAs (h : runtime.Recorded) (hsome : (runtime.tabled id kind).isSome) :
    runtime.RecordedAs id kind := by
  obtain ⟨owner, howner⟩ := Option.isSome_iff_exists.mp hsome
  obtain ⟨record, hget, hkind, -⟩ := h kind id owner howner
  exact ⟨record, hget, hkind⟩

theorem Backed.isSome_tabled (h : runtime.Backed) (hrecord : runtime.RecordedAs id kind)
    (hkind : kind.backed) : (runtime.tabled id kind).isSome := by
  obtain ⟨record, hget, rfl⟩ := hrecord
  exact h id record hget hkind

theorem recorded_of_agree (h : runtime.Agree) : runtime.Recorded := by
  have hrecorded : ∀ kind id, kind ≠ .window → (runtime.tabled id kind).isSome →
      runtime.RecordedAs id kind := by
    intro kind id hwindow hsome
    cases kind with
    | window => exact absurd rfl hwindow
    | pixmap => exact h.pixmaps id (isSome_tabled_pixmap.mp hsome)
    | fence => exact (h.fences id).mp (isSome_tabled_fence.mp hsome)
    | region => exact (h.regions id).mp (isSome_tabled_region.mp hsome)
    | _ => cases hsome
  intro kind id owner htabled
  by_cases hwindow : kind = .window
  · subst hwindow
    rw [tabled_window, Option.map_eq_some_iff] at htabled
    obtain ⟨ns, hns, rfl⟩ := htabled
    obtain ⟨record, hget, hkind, howner⟩ := (h.windows id ns).mp hns
    refine ⟨record, hget, hkind, ?_⟩
    rintro _ ⟨⟩
    exact howner
  · obtain ⟨record, hget, hkind⟩ := hrecorded kind id hwindow (by rw [htabled]; rfl)
    refine ⟨record, hget, hkind, ?_⟩
    rintro ns rfl
    cases kind with
    | window => exact absurd rfl hwindow
    | pixmap | fence | region => simp [tabled] at htabled
    | _ => cases htabled

theorem backed_of_agree (h : runtime.Agree) : runtime.Backed := by
  intro id record hget hbacked
  have hrecorded : runtime.RecordedAs id record.kind := ⟨record, hget, rfl⟩
  cases hkind : record.kind with
  | window =>
    have howner := (h.windows id record.ownerNamespace).mpr ⟨record, hget, hkind, rfl⟩
    rw [tabled_window, howner]
    rfl
  | fence => exact isSome_tabled_fence.mpr ((h.fences id).mpr (hkind ▸ hrecorded))
  | region => exact isSome_tabled_region.mpr ((h.regions id).mpr (hkind ▸ hrecorded))
  | _ => simp [hkind, XResourceKind.backed] at hbacked

theorem agree_iff : runtime.Agree ↔ runtime.Recorded ∧ runtime.Backed := by
  refine ⟨fun h => ⟨recorded_of_agree h, backed_of_agree h⟩, ?_⟩
  rintro ⟨hrecorded, hbacked⟩
  have hwindow : ∀ id ns, runtime.windows.owner id = some ns →
      ∃ record, runtime.resources.records[id]? = some record ∧ record.kind = .window ∧
        record.ownerNamespace = ns := by
    intro id ns hns
    obtain ⟨record, hget, hkind, howner⟩ := hrecorded .window id (some ns)
      (by rw [tabled_window, hns]; rfl)
    exact ⟨record, hget, hkind, howner ns rfl⟩
  refine
    { windows := fun id ns => ⟨hwindow id ns, ?_⟩
      pixmaps := fun id hmem => hrecorded.recordedAs (isSome_tabled_pixmap.mpr hmem)
      fences := fun id => ⟨fun hmem => hrecorded.recordedAs (isSome_tabled_fence.mpr hmem),
        fun hrecord => isSome_tabled_fence.mp (hbacked.isSome_tabled hrecord rfl)⟩
      regions := fun id => ⟨fun hmem => hrecorded.recordedAs (isSome_tabled_region.mpr hmem),
        fun hrecord => isSome_tabled_region.mp (hbacked.isSome_tabled hrecord rfl)⟩ }
  rintro ⟨record, hget, hkind, rfl⟩
  have hsome := hbacked.isSome_tabled ⟨record, hget, hkind⟩ rfl
  rw [tabled_window, Option.isSome_map, Option.isSome_iff_exists] at hsome
  obtain ⟨ns, hns⟩ := hsome
  obtain ⟨found, hfound, -, howner⟩ := hwindow id ns hns
  rw [hget] at hfound
  cases hfound
  rw [hns, howner]

/-- Where everything in a table is recorded, an id in use is a recorded one. -/
theorem Recorded.of_inUse (h : runtime.Recorded) (huse : runtime.InUse id) :
    ∃ record, runtime.resources.records[id]? = some record := by
  have hrecorded : ∀ kind, (runtime.tabled id kind).isSome →
      ∃ record, runtime.resources.records[id]? = some record := fun kind hsome => by
    obtain ⟨record, hget, -⟩ := h.recordedAs hsome
    exact ⟨record, hget⟩
  rcases huse with hmem | hmem | hmem | hmem | hmem
  · exact ⟨_, ExtTreeMap.getElem?_eq_some_getElem hmem⟩
  · exact hrecorded .window (isSome_tabled_window.mpr hmem)
  · exact hrecorded .pixmap (isSome_tabled_pixmap.mpr hmem)
  · exact hrecorded .fence (isSome_tabled_fence.mpr hmem)
  · exact hrecorded .region (isSome_tabled_region.mpr hmem)

end Agree
section Step

theorem exists_enters {id : XResourceId} (h : call.creates = some id) :
    ∃ record, call.enters = some record ∧ record.id = id := by
  cases call with
  | plain op hplain =>
    cases op with
    | apply request =>
      obtain ⟨transaction, ns, kind⟩ := request
      cases kind <;> cases h
      exact ⟨_, rfl, rfl⟩
    | createResource kind ns other generation =>
      cases h
      exact ⟨_, rfl, rfl⟩
    | _ => cases h
  | createDri3Pixmap | createDri3PixmapFromBuffers | createXfixesRegion | createDri3Fence =>
    cases h
    exact ⟨_, rfl, rfl⟩
  | _ => cases h

/-- A call of a kind that creates is refused for its arguments alone, or well formed. -/
theorem refused_or_wellFormed (h : call.enters = some record) :
    (runtime.refused call ∧ runtime.step call = runtime) ∨ runtime.WellFormed call := by
  cases call with
  | plain op hplain =>
    refine (XAuthorityRuntime.refused_or_valid runtime.toXAuthorityRuntime h).imp ?_ ?_
    · rintro ⟨hrefused, hsame⟩
      exact ⟨hrefused, by simp only [step, hsame]; rfl⟩
    · intro hvalid
      exact ⟨rfl, fun other hother => Option.some.inj (h.symm.trans hother) ▸ hvalid⟩
  | createDri3Pixmap ns pixmap generation sizeBytes width height stride depth bitsPerPixel =>
    cases hcreate : runtime.createDri3Pixmap ns pixmap generation sizeBytes width height stride
      depth bitsPerPixel with
    | error error => exact .inl (by simp only [refused, step, hcreate]; exact ⟨rfl, rfl⟩)
    | ok created => exact .inr (wellFormed_createDri3Pixmap hcreate)
  | createDri3PixmapFromBuffers ns pixmap generation numBuffers width height strides offsets depth
      bitsPerPixel modifier =>
    cases hcreate : runtime.createDri3PixmapFromBuffers ns pixmap generation numBuffers width
      height strides offsets depth bitsPerPixel modifier with
    | error error => exact .inl (by simp only [refused, step, hcreate]; exact ⟨rfl, rfl⟩)
    | ok created => exact .inr (wellFormed_createDri3PixmapFromBuffers hcreate)
  | createXfixesRegion ns region rectangles generation =>
    cases hcreate : runtime.createXfixesRegion ns region rectangles generation with
    | error error => exact .inl (by simp only [refused, step, hcreate]; exact ⟨rfl, rfl⟩)
    | ok created => exact .inr (wellFormed_createXfixesRegion hcreate)
  | createDri3Fence ns fence generation =>
    cases hcreate : runtime.createDri3Fence ns fence generation with
    | error error => exact .inl (by simp only [refused, step, hcreate]; exact ⟨rfl, rfl⟩)
    | ok created => exact .inr (wellFormed_createDri3Fence hcreate)
  | _ => cases h

theorem half_call (h : call.enters = some record) (hhalf : call.half)
    (hwell : runtime.WellFormed call) :
    runtime.refused call ∧ record.kind = .window ∧ runtime.step call = runtime.withBase
      { runtime.toXAuthorityRuntime with
        resources := ⟨runtime.resources.records.insert record.id record⟩ } := by
  cases call with
  | plain op hplain =>
    obtain ⟨hrefused, hkind, hstep⟩ := XAuthorityRuntime.half_step h hhalf (hwell.2 record h)
    exact ⟨hrefused, hkind, by simp only [step, hstep]⟩
  | _ => cases hhalf

theorem createResource_succeeds {ns : NamespaceId} {id : XResourceId} (base : XAuthorityRuntime)
    (aux : XAuthorityRuntime.AuxiliaryKind) (generation : UInt64)
    (hvalid : id.isValid ∧ ns.isValid) :
    ∃ base', XAuthorityRuntime.createResource aux base ns id generation = .ok base' := by
  simp only [XAuthorityRuntime.createResource, XResourceTable.insert, hvalid]
  exact ⟨_, rfl⟩

theorem installDri3Pixmap_succeeds {ns : NamespaceId} {id : XResourceId} (runtime : FullRuntime)
    (generation : UInt64) (descriptor : DmaBufDescriptor) (hvalid : id.isValid ∧ ns.isValid) :
    ∃ installed, runtime.installDri3Pixmap ns id generation descriptor = .ok installed := by
  obtain ⟨base, hbase⟩ := createResource_succeeds runtime.toXAuthorityRuntime .pixmap
    generation hvalid
  have hcreate : runtime.createPixmap ns id generation = .ok (runtime.withBase base) := by
    simp only [createPixmap, XAuthorityRuntime.createPixmap, hbase]
    rfl
  simp only [installDri3Pixmap, hcreate]
  exact ⟨_, rfl⟩

/-- Nothing but its arguments makes the runtime refuse a creation. -/
theorem accepted_of_wellFormed (h : call.enters = some record) (hhalf : call.half = false)
    (hwell : runtime.WellFormed call) : runtime.refused call = false := by
  have hvalid := hwell.2 record h
  cases call with
  | plain op hplain => exact XAuthorityRuntime.accepted_of_valid h hhalf hvalid
  | createDri3Pixmap ns pixmap generation sizeBytes width height stride depth bitsPerPixel =>
    cases h
    cases himport : runtime.dri3Import sizeBytes width height stride depth bitsPerPixel with
    | error error =>
      have himportable := hwell.1
      rw [importable, himport] at himportable
      cases himportable
    | ok descriptor =>
      obtain ⟨installed, hinstalled⟩ :=
        installDri3Pixmap_succeeds runtime generation descriptor hvalid
      have hcreate := createDri3Pixmap_eq_ok.mpr ⟨descriptor, himport, hinstalled⟩
      simp only [refused, hcreate]
      rfl
  | createDri3PixmapFromBuffers ns pixmap generation numBuffers width height strides offsets depth
      bitsPerPixel modifier =>
    cases h
    cases himport : runtime.dri3ImportFromBuffers numBuffers width height strides offsets depth
      bitsPerPixel modifier with
    | error error =>
      have himportable := hwell.1
      rw [importable, himport] at himportable
      cases himportable
    | ok descriptor =>
      obtain ⟨installed, hinstalled⟩ :=
        installDri3Pixmap_succeeds runtime generation descriptor hvalid
      have hcreate := createDri3PixmapFromBuffers_eq_ok.mpr ⟨descriptor, himport, hinstalled⟩
      simp only [refused, hcreate]
      rfl
  | createXfixesRegion ns region rectangles generation =>
    cases h
    obtain ⟨base, hbase⟩ := createResource_succeeds runtime.toXAuthorityRuntime .region
      generation hvalid
    simp only [refused, createXfixesRegion, XAuthorityRuntime.createXfixesRegion, hbase]
    rfl
  | createDri3Fence ns fence generation =>
    cases h
    obtain ⟨base, hbase⟩ := createResource_succeeds runtime.toXAuthorityRuntime .fence
      generation hvalid
    simp only [refused, createDri3Fence, XAuthorityRuntime.createDri3Fence, hbase]
    rfl
  | _ => cases h

/-- An import under an id that is not recorded replaces no other import. -/
theorem insert_of_unrecorded {ν : Type} {table : ExtTreeMap XResourceId ν} {id new : XResourceId}
    {value other : ν} (hget : table[id]? = some value) (hfree : table[new]? = none) :
    (table.insert new other)[id]? = some value := by
  rw [ExtTreeMap.getElem?_insert]
  split
  · rename_i he
    obtain rfl := LawfulEqOrd.eq_of_compare he
    rw [hfree] at hget
    cases hget
  · exact hget

theorem Recorded.unimported (h : runtime.Recorded) (hwell : runtime.WellFormed call)
    (huntaken : runtime.Untaken call) (hhalf : call.half = false)
    (henters : call.enters = some record) :
    runtime.dri3Pixmaps[record.id]? = none ∧ runtime.dri3Fences[record.id]? = none := by
  have hnone := huntaken hwell record henters
  rw [hhalf] at hnone
  have htabled : ∀ kind, (runtime.tabled record.id kind).isSome → False := by
    intro kind hsome
    obtain ⟨found, hfound, -⟩ := h.recordedAs hsome
    rw [hfound] at hnone
    cases hnone
  refine ⟨?_, ?_⟩
  · refine ExtTreeMap.getElem?_eq_none fun hmem => htabled .pixmap ?_
    exact isSome_tabled_pixmap.mpr hmem
  · refine ExtTreeMap.getElem?_eq_none fun hmem => htabled .fence ?_
    exact isSome_tabled_fence.mpr hmem

theorem accounted_installed {ns : NamespaceId} {id : XResourceId} {generation : UInt64}
    {descriptor : DmaBufDescriptor} {installed : DmaBufDescriptor × FullRuntime}
    (hfree : runtime.dri3Pixmaps[id]? = none)
    (h : runtime.installDri3Pixmap ns id generation descriptor = .ok installed)
    (hstep : runtime.step call = installed.2) : runtime.Accounted call := by
  obtain ⟨created, hcreated, rfl⟩ := Fallible.map_eq_ok.mp h
  obtain ⟨base, hbase, rfl⟩ := Fallible.map_eq_ok.mp hcreated
  refine ⟨fun other found hget => .inl ?_, fun other handle hget => .inl ?_⟩
  · rw [hstep]
    exact insert_of_unrecorded hget hfree
  · rw [hstep]
    exact hget

theorem accounted_refused (h : runtime.step call = runtime) : runtime.Accounted call :=
  SameImports.accounted (h.symm ▸ .refl runtime)

/-- A call that takes over no id drops no buffer and no fence unreported. -/
theorem accounted_step (hkeyed : KeyedBy XResourceRecord.id runtime.resources.records)
    (hagree : runtime.Agree) (huntaken : runtime.Untaken call) : runtime.Accounted call := by
  have hrecorded := recorded_of_agree hagree
  by_cases hquiet : call.quiet
  · exact SameImports.accounted (quiet_step runtime call hquiet).toSameImports
  cases call with
  | freePixmap ns pixmap =>
    cases hfree : runtime.freePixmap ns pixmap with
    | error error => exact accounted_refused (by simp only [step, hfree]; rfl)
    | ok freed =>
      obtain ⟨base, hbase, rfl⟩ := Fallible.map_eq_ok.mp hfree
      refine ⟨fun id descriptor hget => ?_, fun id handle hget => .inl ?_⟩
      · by_cases hid : id = pixmap
        · subst hid
          right
          simp [releasedBuffers, hfree, hget]
        · left
          have hne : pixmap ≠ id := Ne.symm hid
          simp only [step, hfree, after?]
          simpa [ExtTreeMap.getElem?_erase, hne] using hget
      · simp only [step, hfree, after?]
        exact hget
  | destroyDri3Fence ns fence =>
    cases hfree : runtime.toXAuthorityRuntime.destroyDri3Fence ns fence with
    | error error => exact accounted_refused (by simp only [step, destroyDri3Fence, hfree])
    | ok base =>
      refine ⟨fun id descriptor hget => .inl ?_, fun id handle hget => ?_⟩
      · simp only [step, destroyDri3Fence, hfree]
        exact hget
      · by_cases hid : id = fence
        · subst hid
          right
          simp [releasedFences, destroyDri3Fence, hfree, hget]
        · left
          have hne : fence ≠ id := Ne.symm hid
          simp only [step, destroyDri3Fence, hfree]
          simpa [ExtTreeMap.getElem?_erase, hne] using hget
  | releaseClientResourceRange ns range =>
    exact accounted_release hkeyed hrecorded (backed_of_agree hagree)
  | createDri3Pixmap ns pixmap generation sizeBytes width height stride depth bitsPerPixel =>
    cases hcreate : runtime.createDri3Pixmap ns pixmap generation sizeBytes width height stride
      depth bitsPerPixel with
    | error error => exact accounted_refused (by simp only [step, hcreate]; rfl)
    | ok created =>
      obtain ⟨descriptor, -, hinstalled⟩ := createDri3Pixmap_eq_ok.mp hcreate
      have hfree := hrecorded.unimported (wellFormed_createDri3Pixmap hcreate) huntaken rfl rfl
      exact accounted_installed hfree.1 hinstalled (by simp only [step, hcreate]; rfl)
  | createDri3PixmapFromBuffers ns pixmap generation numBuffers width height strides offsets depth
      bitsPerPixel modifier =>
    cases hcreate : runtime.createDri3PixmapFromBuffers ns pixmap generation numBuffers width
      height strides offsets depth bitsPerPixel modifier with
    | error error => exact accounted_refused (by simp only [step, hcreate]; rfl)
    | ok created =>
      obtain ⟨descriptor, -, hinstalled⟩ := createDri3PixmapFromBuffers_eq_ok.mp hcreate
      have hfree :=
        hrecorded.unimported (wellFormed_createDri3PixmapFromBuffers hcreate) huntaken rfl rfl
      exact accounted_installed hfree.1 hinstalled (by simp only [step, hcreate]; rfl)
  | createDri3Fence ns fence generation =>
    cases hcreate : runtime.createDri3Fence ns fence generation with
    | error error => exact accounted_refused (by simp only [step, hcreate]; rfl)
    | ok created =>
      have hfree := hrecorded.unimported (wellFormed_createDri3Fence hcreate) huntaken rfl rfl
      obtain ⟨base, hbase, rfl⟩ := Fallible.map_eq_ok.mp hcreate
      refine ⟨fun id descriptor hget => .inl ?_, fun id handle hget => .inl ?_⟩
      · simp only [step, hcreate, after?]
        exact hget
      · simp only [step, hcreate, after?]
        exact insert_of_unrecorded hget hfree.2
  | _ => exact absurd rfl hquiet

theorem refuses_of_untaken {id : XResourceId} (hrecorded : runtime.Recorded)
    (huntaken : runtime.Untaken call) (hcreates : call.creates = some id)
    (huse : runtime.InUse id) : runtime.refused call ∧ runtime.step call = runtime := by
  obtain ⟨record, henters, rfl⟩ := exists_enters hcreates
  rcases refused_or_wellFormed henters with hrefused | hwell
  · exact hrefused
  obtain ⟨found, hfound⟩ := hrecorded.of_inUse huse
  have hget := huntaken hwell record henters
  by_cases hhalf : call.half
  · rw [if_pos hhalf] at hget
    obtain ⟨hrefused, -, hstep⟩ := half_call henters hhalf hwell
    rw [insert_of_getElem? hget] at hstep
    exact ⟨hrefused, hstep⟩
  · rw [if_neg hhalf, hfound] at hget
    cases hget

theorem untaken_of_sound (hagree : runtime.Agree) (h : runtime.Sound call) :
    runtime.Untaken call := by
  intro hwell record henters
  have hrefuses := h.refuses record.id (RuntimeCall.creates_of_enters henters)
  by_cases hhalf : call.half
  · rw [if_pos hhalf]
    -- A half made window must have been there before: nothing put it into the window table.
    obtain ⟨-, hkind, hstep⟩ := half_call henters hhalf hwell
    have hafter := h.agree
    rw [hstep] at hafter
    have howner := (hafter.windows record.id record.ownerNamespace).mpr
      ⟨record, by simp [withBase], hkind, rfl⟩
    obtain ⟨found, hfound, -⟩ := (hagree.windows record.id record.ownerNamespace).mp howner
    have hmem : record.id ∈ runtime.resources.records :=
      ExtTreeMap.mem_iff_isSome_getElem?.mpr (by rw [hfound]; rfl)
    have hsame := (hrefuses (.inl hmem)).2
    rw [hstep] at hsame
    have hget := congrArg (fun runtime : FullRuntime => runtime.resources.records[record.id]?) hsame
    simpa [withBase] using hget.symm
  · rw [if_neg hhalf]
    refine ExtTreeMap.getElem?_eq_none fun hmem => ?_
    have hrefused := (hrefuses (.inl hmem)).1
    rw [accepted_of_wellFormed henters (by simpa using hhalf) hwell] at hrefused
    cases hrefused

theorem sound_iff (hkeyed : KeyedBy XResourceRecord.id runtime.resources.records)
    (hagree : runtime.Agree) : runtime.Sound call ↔ runtime.Untaken call := by
  refine ⟨untaken_of_sound hagree, fun huntaken => ⟨?_, ?_, accounted_step hkeyed hagree huntaken⟩⟩
  · obtain ⟨hrecorded, hbacked⟩ := agree_iff.mp hagree
    have hmoves := moves_step runtime call
    exact agree_iff.mpr ⟨hmoves.recorded ⟨hkeyed, huntaken.settled⟩ hrecorded,
      hmoves.backed huntaken hbacked⟩
  · exact fun id => refuses_of_untaken (recorded_of_agree hagree) huntaken

end Step

theorem agree_new : new.Agree := by
  refine agree_iff.mpr ⟨?_, ?_⟩
  · intro kind id owner hnew
    cases kind <;> simp [tabled, new, XAuthorityRuntime.new, XWindowTable.get] at hnew
  · intro id record hget
    simp [new, XAuthorityRuntime.new] at hget

/-- The tables agree in every state, every id in use is refused and no handle is dropped
unreported, in exactly the runs that never create anything under a recorded id. -/
theorem tables_agree_iff (calls : List RuntimeCall) :
    (Run.Throughout step (fun _ runtime => runtime.Agree) new calls ∧
        Run.Guarded step Sound new calls) ↔
      Run.Guarded step Untaken new calls := by
  have hsound : Run.Guarded step Sound new calls ↔ Run.Guarded step Untaken new calls := by
    refine Run.guarded_congr (I := fun runtime : FullRuntime =>
      KeyedBy XResourceRecord.id runtime.resources.records ∧ runtime.Agree)
      ⟨keyedBy_empty, agree_new⟩ ?_ fun runtime call h => sound_iff h.1 h.2
    rintro runtime call ⟨hkeyed, hagree⟩ huntaken
    exact ⟨(moves_step runtime call).refines.keyed hkeyed, ((sound_iff hkeyed hagree).mpr huntaken).agree⟩
  refine ⟨fun h => hsound.mp h.2, fun h => ⟨?_, hsound.mpr h⟩⟩
  rintro before after rfl
  exact Run.invariant (P := FullRuntime.Agree) agree_new
    (fun runtime call hcall _ => Sound.agree hcall) (hsound.mpr h).left

section Counterexample

/-- A client imports a buffer. -/
def imported : RuntimeCall :=
  .createDri3Pixmap ⟨1⟩ (.new 0x400002 1) 1 256 8 8 32 24 32

/-- A second import under the same id is accepted, and drops the first buffer without a report. -/
theorem imported_twice_not_sound :
    ¬ (Run.Throughout step (fun _ runtime => runtime.Agree) new [imported, imported] ∧
      Run.Guarded step Sound new [imported, imported]) := by
  rintro ⟨-, h⟩
  have hsecond : (after [imported]).Sound imported := h [imported] imported [] rfl
  have hbuffer : ((after [imported]).dri3Pixmaps[XResourceId.new 0x400002 1]?).map (·.handle) =
      some ⟨1⟩ := by
    decide +kernel
  obtain ⟨descriptor, hget, hhandle⟩ := Option.map_eq_some_iff.mp hbuffer
  rcases hsecond.accounted.buffers _ descriptor hget with hkept | hreported
  · have hother : (((after [imported]).step imported).dri3Pixmaps[XResourceId.new 0x400002 1]?).map
        (·.handle) = some ⟨2⟩ := by
      decide +kernel
    rw [hkept, Option.map_some, hhandle] at hother
    cases hother
  · cases hreported

end Counterexample
end FullRuntime
end Sophia.Authority
