import Sophia.Authority.ClientRelease
import Sophia.Authority.ResourceRecords

/-! The whole runtime refines its base, and its tables agree with the resource records. -/
namespace Sophia.Authority

open Std Sophia.Protocol Ordered

namespace FullRuntime

variable {runtime next last : FullRuntime} {ns : NamespaceId} {ready whole : Prop}

/-- The base of the second runtime is reached from the base of the first. -/
def Refines (runtime next : FullRuntime) : Prop :=
  ∃ ops, next.toXAuthorityRuntime =
    Run.exec XAuthorityRuntime.step runtime.toXAuthorityRuntime ops

theorem Refines.same (h : next.toXAuthorityRuntime = runtime.toXAuthorityRuntime) :
    runtime.Refines next := ⟨[], h⟩

theorem Refines.one (op : RuntimeOp)
    (h : next.toXAuthorityRuntime = runtime.toXAuthorityRuntime.step op) : runtime.Refines next :=
  ⟨[op], h⟩

theorem Refines.trans (h : runtime.Refines next) (h' : next.Refines last) :
    runtime.Refines last := by
  obtain ⟨ops, hops⟩ := h
  obtain ⟨more, hmore⟩ := h'
  exact ⟨ops ++ more, by rw [Run.exec_append, ← hops, hmore]⟩

/-- What the table of a kind has under an id: a window's namespace, or only that there is one. -/
def tabled (runtime : FullRuntime) (id : XResourceId) : XResourceKind → Option (Option NamespaceId)
  | .window => (runtime.windows.get id).map fun window => some window.namespaceId
  | .pixmap => (runtime.dri3Pixmaps[id]?).map fun _ => none
  | .fence => (runtime.dri3Fences[id]?).map fun _ => none
  | .region => (runtime.xfixesRegions[id]?).map fun _ => none
  | _ => none

/-- Whatever is in a table is recorded as being of that kind, a window with its namespace. -/
def Recorded (runtime : FullRuntime) : Prop :=
  ∀ kind id owner, runtime.tabled id kind = some owner →
    ∃ record, runtime.resources.records[id]? = some record ∧ record.kind = kind ∧
      ∀ ns ∈ owner, record.ownerNamespace = ns

/-- Whatever is recorded as a window, a fence or a region is in the table of its kind. -/
def Backed (runtime : FullRuntime) : Prop :=
  ∀ (id : XResourceId) record, runtime.resources.records[id]? = some record → record.kind.backed →
    (runtime.tabled id record.kind).isSome

/-- What a call does to the base, and to the tables if it may be made, and made to the end. -/
structure Moves (ready whole : Prop) (runtime next : FullRuntime) : Prop where
  refines : runtime.Refines next
  recorded : ready → runtime.Recorded → next.Recorded
  backed : whole → runtime.Backed → next.Backed

/-- The imported buffers and fences, and the handles the next ones get, are the same. -/
structure SameImports (runtime next : FullRuntime) : Prop where
  pixmaps : next.dri3Pixmaps = runtime.dri3Pixmaps
  fences : next.dri3Fences = runtime.dri3Fences
  nextDmaBuf : next.nextDmaBufHandle = runtime.nextDmaBufHandle
  nextFence : next.nextFenceHandle = runtime.nextFenceHandle

/-- A move that reaches no imported buffer or fence. -/
structure Quiet (ready whole : Prop) (runtime next : FullRuntime) : Prop extends
  Moves ready whole runtime next, SameImports runtime next

theorem SameImports.refl (runtime : FullRuntime) : SameImports runtime runtime :=
  ⟨rfl, rfl, rfl, rfl⟩

theorem SameImports.trans (h : SameImports runtime next) (h' : SameImports next last) :
    SameImports runtime last where
  pixmaps := h'.pixmaps.trans h.pixmaps
  fences := h'.fences.trans h.fences
  nextDmaBuf := h'.nextDmaBuf.trans h.nextDmaBuf
  nextFence := h'.nextFence.trans h.nextFence

theorem Moves.trans (h : Moves ready whole runtime next) (h' : Moves ready whole next last) :
    Moves ready whole runtime last where
  refines := h.refines.trans h'.refines
  recorded hready hrecorded := h'.recorded hready (h.recorded hready hrecorded)
  backed hwhole hbacked := h'.backed hwhole (h.backed hwhole hbacked)

theorem Quiet.trans (h : Quiet ready whole runtime next) (h' : Quiet ready whole next last) :
    Quiet ready whole runtime last :=
  ⟨h.toMoves.trans h'.toMoves, h.toSameImports.trans h'.toSameImports⟩

/-- No record changes, and nothing enters or leaves a table. -/
theorem Moves.kept (hrefines : runtime.Refines next)
    (hresources : next.resources = runtime.resources)
    (htables : ∀ kind id, next.tabled id kind = runtime.tabled id kind) :
    Moves ready whole runtime next where
  refines := hrefines
  recorded _ hrecorded kind id owner hnext := by
    rw [hresources]
    exact hrecorded kind id owner ((htables kind id).symm.trans hnext)
  backed _ hbacked id record hget hkind := by
    rw [htables]
    exact hbacked id record (hresources ▸ hget) hkind

/-- Only things that are never recorded change. -/
theorem Quiet.beside (hbase : next.toXAuthorityRuntime = runtime.toXAuthorityRuntime)
    (himports : SameImports runtime next)
    (hregions : next.xfixesRegions = runtime.xfixesRegions) : Quiet ready whole runtime next := by
  refine ⟨.kept (.same hbase) (by rw [hbase]) fun kind id => ?_, himports⟩
  cases kind <;> simp only [tabled, hbase, himports.pixmaps, himports.fences, hregions]

theorem tabled_window (runtime : FullRuntime) (id : XResourceId) :
    runtime.tabled id .window = (runtime.windows.owner id).map some := by
  simp only [tabled, XWindowTable.owner, Option.map_map]
  rfl

/-- The base keeps its records, and the other tables are the same. -/
theorem Quiet.keeps (hrefines : runtime.Refines next)
    (hkeeps : runtime.toXAuthorityRuntime.KeepsRecords next.toXAuthorityRuntime)
    (himports : SameImports runtime next)
    (hregions : next.xfixesRegions = runtime.xfixesRegions) : Quiet ready whole runtime next := by
  refine ⟨.kept hrefines hkeeps.resources fun kind id => ?_, himports⟩
  cases kind with
  | window => rw [tabled_window, tabled_window, hkeeps.windows]
  | _ => simp only [tabled, himports.pixmaps, himports.fences, hregions]

theorem Quiet.refl (runtime : FullRuntime) : Quiet ready whole runtime runtime :=
  .beside rfl (.refl runtime) rfl

/-- A record enters where there is no other, and a thing of its kind with it. -/
theorem Moves.entered (record : XResourceRecord) (hrefines : runtime.Refines next)
    (hfresh : ready → ∀ found, runtime.resources.records[record.id]? = some found →
      found = record)
    (hresources : next.resources.records = runtime.resources.records.insert record.id record)
    (htables : ∀ kind id, next.tabled id kind = runtime.tabled id kind ∨
      id = record.id ∧ kind = record.kind ∧
        ∃ owner, next.tabled id kind = some owner ∧ ∀ ns ∈ owner, record.ownerNamespace = ns)
    (hbacked : whole → runtime.Backed → record.kind.backed →
      (next.tabled record.id record.kind).isSome) :
    Moves ready whole runtime next where
  refines := hrefines
  recorded hready hrecorded kind id owner hnext := by
    rw [hresources]
    rcases htables kind id with hbefore | ⟨rfl, rfl, owner', hnext', hns⟩
    · obtain ⟨found, hget, hkind, hns⟩ := hrecorded kind id owner (hbefore ▸ hnext)
      rw [ExtTreeMap.getElem?_insert]
      split
      · rename_i he
        obtain rfl := LawfulEqOrd.eq_of_compare he
        obtain rfl := hfresh hready found hget
        exact ⟨found, rfl, hkind, hns⟩
      · exact ⟨found, hget, hkind, hns⟩
    · obtain rfl := Option.some.inj (hnext'.symm.trans hnext)
      exact ⟨record, by simp, rfl, hns⟩
  backed hwhole hbefore id found hget hkind := by
    rw [hresources, ExtTreeMap.getElem?_insert] at hget
    split at hget
    · rename_i he
      obtain rfl := LawfulEqOrd.eq_of_compare he
      cases hget
      exact hbacked hwhole hbefore hkind
    · rename_i hne
      rcases htables found.kind id with hsame | ⟨rfl, -⟩
      · rw [hsame]
        exact hbefore id found hget hkind
      · simp at hne

/-- A record goes, and the thing of its kind with it. -/
theorem Moves.removed {id : XResourceId} {kind : XResourceKind} (hrefines : runtime.Refines next)
    (hkind : ready → ∀ record, runtime.resources.records[id]? = some record → record.kind = kind)
    (hresources : next.resources.records = runtime.resources.records.erase id)
    (htables : ∀ kind' id', next.tabled id' kind' =
      if id' = id ∧ kind' = kind then none else runtime.tabled id' kind') :
    Moves ready whole runtime next where
  refines := hrefines
  recorded hready hrecorded kind' id' owner hnext := by
    rw [htables] at hnext
    split at hnext
    · cases hnext
    · rename_i hother
      obtain ⟨record, hget, hrecord, hns⟩ := hrecorded kind' id' owner hnext
      refine ⟨record, ?_, hrecord, hns⟩
      rw [hresources]
      refine (swept_erase id id' record).mpr ⟨hget, ?_⟩
      rintro rfl
      exact hother ⟨rfl, hrecord.symm.trans (hkind hready record hget)⟩
  backed _ hbacked id' record hget hrecord := by
    rw [hresources] at hget
    obtain ⟨hbefore, hne⟩ := (swept_erase id id' record).mp hget
    rw [htables, if_neg fun h => hne h.1]
    exact hbacked id' record hbefore hrecord

/-- What holds if nothing is done, and if the call succeeds, holds after the call. -/
theorem after?_rec {α : Type} {P : FullRuntime → Prop} {f : α → FullRuntime} {result : Result α}
    (hrefl : P runtime) (h : ∀ a, result = .ok a → P (f a)) : P (runtime.after? f result) := by
  cases result with
  | error error => exact hrefl
  | ok a => exact h a rfl

theorem quiet_after? {α : Type} {f : α → FullRuntime} {result : Result α}
    (h : ∀ a, result = .ok a → Quiet ready whole runtime (f a)) :
    Quiet ready whole runtime (runtime.after? f result) :=
  after?_rec (.refl runtime) h

theorem moves_after? {α : Type} {f : α → FullRuntime} {result : Result α}
    (h : ∀ a, result = .ok a → Moves ready whole runtime (f a)) :
    Moves ready whole runtime (runtime.after? f result) :=
  after?_rec (Quiet.refl runtime).toMoves h

theorem quiet_configureWindowGeometry {window : XResourceId} {x y : Option Int16}
    {width height : Option UInt16}
    (h : runtime.configureWindowGeometry ns window x y width height = .ok next) :
    Quiet ready whole runtime next := by
  obtain ⟨base, hbase, rfl⟩ := Fallible.map_eq_ok.mp h
  refine .keeps (.one (.configureWindowGeometry ns window x y width height) ?_)
    (XAuthorityRuntime.keeps_configureWindowGeometry hbase) ⟨rfl, rfl, rfl, rfl⟩ rfl
  simp only [XAuthorityRuntime.step, hbase]
  rfl

theorem quiet_finishDrawingUpdate (update : XDrawingUpdate) :
    Quiet ready whole runtime (runtime.finishDrawingUpdate update).2 := by
  unfold finishDrawingUpdate
  split
  · exact .refl runtime
  · rename_i response base hbase
    refine .keeps (.one (.finishDrawingUpdate update) ?_)
      (XAuthorityRuntime.keeps_finishDrawingUpdate hbase) ⟨rfl, rfl, rfl, rfl⟩ rfl
    simp only [XAuthorityRuntime.step, hbase]
    rfl

theorem Quiet.of_painted {softwareBuffers : XSoftwareBufferStore}
    {lastCpuBufferUpdate : Option XAuthorityCpuBufferUpdate}
    (h : Quiet ready whole { runtime with softwareBuffers, lastCpuBufferUpdate } next) :
    Quiet ready whole runtime next := by
  refine Quiet.trans ?_ h
  exact .beside rfl ⟨rfl, rfl, rfl, rfl⟩ rfl

/-- Painting is nothing to the base; what follows it is one update. -/
theorem quiet_conclude {transaction : TransactionId} {record : XWindowRecord}
    {target : XResourceId} {kind : XDrawingUpdateKind} {damage : Region}
    {unpainted : XAuthorityResponsePacket}
    {painted : Option XAuthorityCpuBufferUpdate × XSoftwareBufferStore} :
    Quiet ready whole runtime (runtime.conclude transaction ns record target kind damage unpainted
      painted).2 := by
  obtain ⟨update, softwareBuffers⟩ := painted
  cases update with
  | none => exact .beside rfl ⟨rfl, rfl, rfl, rfl⟩ rfl
  | some update => exact .of_painted (quiet_finishDrawingUpdate _)

theorem quiet_coreDraw {transaction : TransactionId} {window : XResourceId} {damage : Region}
    {gc : XGraphicsContextValues} :
    Quiet ready whole runtime (runtime.applyCoreDrawWithGc transaction ns window damage gc).2 := by
  unfold applyCoreDrawWithGc
  split
  · exact .refl runtime
  · exact quiet_conclude

theorem quiet_draw (call : DrawCall) : Quiet ready whole runtime (runtime.draw call).2 := by
  cases call with
  | coreDraw transaction ns window damage gc => exact quiet_coreDraw
  | copyArea transaction ns source destination srcX srcY dstX dstY width height gc =>
    simp only [draw, applyCopyAreaWithGc]
    split
    · exact .refl runtime
    split
    · exact .refl runtime
    split
    · exact .refl runtime
    split
    · exact .of_painted quiet_coreDraw
    · exact quiet_conclude
  | lineDraw transaction ns window points gc =>
    simp only [draw, applyLineDraw]
    split
    · exact .refl runtime
    · exact quiet_conclude
  | putImage transaction ns window damage data =>
    simp only [draw, applyPutImage]
    split
    · exact .refl runtime
    · exact quiet_conclude
  | textDraw transaction ns window x baseline text isOpaque gc =>
    simp only [draw, applyTextDraw]
    split
    · exact .refl runtime
    · exact quiet_conclude
  | clear transaction ns window damage pixel =>
    simp only [draw, applyClearWithPixel]
    split
    · exact .refl runtime
    split
    · exact .refl runtime
    · exact quiet_conclude

section Tables

variable {ν : Type} {m : ExtTreeMap XResourceId ν} {id id' : XResourceId} {value : ν}
  {kind : XResourceKind}

theorem tabled_of_not (h : kind.tabled = false) : runtime.tabled id kind = none := by
  cases kind with
  | window | pixmap | fence | region => cases h
  | _ => rfl

theorem entry_insert :
    ((m.insert id value)[id']?).map (fun _ => (none : Option NamespaceId)) =
      if id' = id then some none else (m[id']?).map fun _ => none := by
  by_cases h : id' = id
  · simp [h]
  · have hne : id ≠ id' := Ne.symm h
    simp [ExtTreeMap.getElem?_insert, h, hne]

theorem entry_erase :
    ((m.erase id)[id']?).map (fun _ => (none : Option NamespaceId)) =
      if id' = id then none else (m[id']?).map fun _ => none := by
  by_cases h : id' = id
  · simp [h]
  · have hne : id ≠ id' := Ne.symm h
    simp [ExtTreeMap.getElem?_erase, h, hne]

end Tables

section Resources

variable {base : XAuthorityRuntime} {id : XResourceId} {generation : UInt64}
  {aux : XAuthorityRuntime.AuxiliaryKind}

/-- A created resource comes with at most one thing in the table of its kind. -/
theorem moves_createResource
    (h : XAuthorityRuntime.createResource aux runtime.toXAuthorityRuntime ns id generation =
      .ok base) (hbase : next.toXAuthorityRuntime = base)
    (hfresh : ready → ∀ found, runtime.resources.records[id]? = some found →
      found = ⟨id, aux.resourceKind, ns, generation⟩)
    (htables : ∀ kind id', kind ≠ .window → next.tabled id' kind =
      if id' = id ∧ kind = aux.resourceKind ∧ aux.resourceKind.tabled then some none
      else runtime.tabled id' kind) :
    Moves ready whole runtime next := by
  subst hbase
  have hrefines : runtime.Refines next := by
    refine .one (.createResource aux ns id generation) ?_
    simp only [XAuthorityRuntime.step, h]
    rfl
  have hwindow : aux.resourceKind ≠ .window := by
    intro h
    cases aux <;> cases h
  simp only [XAuthorityRuntime.createResource, Fallible.bind_eq_ok, Fallible.mapError_eq_ok,
    Fallible.pure_eq_ok] at h
  obtain ⟨resources, hinsert, he⟩ := h
  refine .entered ⟨id, aux.resourceKind, ns, generation⟩ hrefines hfresh ?_ ?_ ?_
  · rw [← he]
    exact (XAuthorityRuntime.insert_eq_ok hinsert).2
  · intro kind id'
    by_cases hkind : kind = .window
    · subst hkind
      left
      simp only [tabled, ← he]
    · rw [htables kind id' hkind]
      split
      · rename_i hnew
        refine .inr ⟨hnew.1, hnew.2.1, none, rfl, ?_⟩
        rintro _ ⟨⟩
      · exact .inl rfl
  · intro _ _ hbacked
    have htabled := XResourceKind.tabled_of_backed hbacked
    rw [htables _ _ hwindow, if_pos ⟨rfl, rfl, htabled⟩]
    rfl

/-- A freed resource goes with the thing in the table of its kind. -/
theorem moves_freeResource
    (h : XAuthorityRuntime.freeResource aux runtime.toXAuthorityRuntime ns id = .ok base)
    (hbase : next.toXAuthorityRuntime = base)
    (htables : ∀ kind id', kind ≠ .window → next.tabled id' kind =
      if id' = id ∧ kind = aux.resourceKind then none else runtime.tabled id' kind) :
    Moves ready whole runtime next := by
  subst hbase
  have hrefines : runtime.Refines next := by
    refine .one (.freeResource aux ns id) ?_
    simp only [XAuthorityRuntime.step, h]
    rfl
  simp only [XAuthorityRuntime.freeResource, Fallible.bind_eq_ok, Fallible.mapError_eq_ok,
    Fallible.pure_eq_ok] at h
  obtain ⟨record, hlookup, he⟩ := h
  obtain ⟨hget, hkind, -⟩ := XAuthorityRuntime.lookup_eq_ok hlookup
  have hfound : ∀ found, runtime.resources.records[id]? = some found →
      found.kind = aux.resourceKind := by
    intro found hfound
    rw [hget] at hfound
    cases hfound
    exact hkind
  refine .removed hrefines (fun _ => hfound) (by rw [← he]; rfl) fun kind id' => ?_
  by_cases hwindow : kind = .window
  · subst hwindow
    have hother : ¬ (id' = id ∧ XResourceKind.window = aux.resourceKind) := by
      rintro ⟨-, hauxiliary⟩
      cases aux <;> cases hauxiliary
    rw [if_neg hother]
    simp only [tabled, ← he]
  · exact htables kind id' hwindow

/-- A window that is created comes into the window table, unless it is only half made. -/
theorem quiet_plain {op : RuntimeOp} (hplain : op.plain)
    (hfresh : ready → ∀ record : XResourceRecord, op.enters = some record →
      (record.id.isValid ∧ record.ownerNamespace.isValid) →
      ∀ found, runtime.resources.records[record.id]? = some found → found = record)
    (hhalf : whole → op.half → ∀ record : XResourceRecord, op.enters = some record →
      (record.id.isValid ∧ record.ownerNamespace.isValid) →
      runtime.resources.records[record.id]? = some record) :
    Quiet ready whole runtime (runtime.withBase (runtime.toXAuthorityRuntime.step op)) := by
  have hrefines : runtime.Refines (runtime.withBase (runtime.toXAuthorityRuntime.step op)) :=
    .one op rfl
  rcases XAuthorityRuntime.tableStep runtime.toXAuthorityRuntime op with
    ⟨hkeeps⟩ | ⟨record, henters, hvalid, hinsert, hwindows⟩ | ⟨id, hrecord, herase⟩
  · exact .keeps hrefines hkeeps ⟨rfl, rfl, rfl, rfl⟩ rfl
  · refine ⟨.entered record hrefines (fun hready => hfresh hready record henters hvalid) hinsert
      ?_ ?_, ⟨rfl, rfl, rfl, rfl⟩⟩
    · intro kind id
      cases kind with
      | window =>
        rcases hwindows with ⟨hsame, -⟩ | ⟨hkind, window, hns, hwindow⟩
        · left
          simp only [tabled, withBase, hsame]
        · simp only [tabled, withBase, XWindowTable.get, hwindow, ExtTreeMap.getElem?_insert]
          split
          · rename_i he
            refine .inr ⟨(LawfulEqOrd.eq_of_compare he).symm, hkind.symm, _, rfl, ?_⟩
            rintro _ ⟨⟩
            exact hns.symm
          · exact .inl rfl
      | _ => exact .inl rfl
    · intro hwhole hbacked hkind
      rcases hwindows with ⟨hsame, hmade⟩ | ⟨hwindow, window, -, hinsert⟩
      · have hwindow := RuntimeOp.window_of_enters hplain henters hkind
        have hsome := hbacked record.id record
          (hhalf hwhole (hmade hwindow) record henters hvalid) hkind
        rw [hwindow] at hsome ⊢
        simpa only [tabled, withBase, hsame] using hsome
      · simp [tabled, withBase, XWindowTable.get, hwindow, hinsert]
  · obtain ⟨hwindows, record, hget, hkind⟩ := hrecord hplain
    have hfound : ∀ found, runtime.resources.records[id]? = some found →
        found.kind = record.kind := by
      intro found hfound
      rw [hget] at hfound
      cases hfound
      rfl
    refine ⟨.removed hrefines (fun _ => hfound) herase fun kind id' => ?_, ⟨rfl, rfl, rfl, rfl⟩⟩
    have hsame : (runtime.withBase (runtime.toXAuthorityRuntime.step op)).tabled id' kind =
        runtime.tabled id' kind := by
      cases kind with
      | window => simp only [tabled, withBase, hwindows]
      | _ => rfl
    split
    · rename_i he
      rw [hsame, he.2, tabled_of_not hkind]
    · exact hsame

theorem quiet_destroyWindow {window : XResourceId} {surface : SurfaceId}
    (h : runtime.destroyWindow ns window = .ok (surface, next)) :
    Quiet ready whole runtime next := by
  obtain ⟨destroyed, hdestroyed, he⟩ := Fallible.map_eq_ok.mp h
  have hrefines : runtime.Refines next := by
    cases he
    refine .one (.destroyWindow ns window) ?_
    simp only [XAuthorityRuntime.step, hdestroyed]
    rfl
  simp only [XAuthorityRuntime.destroyWindow, Fallible.bind_eq_ok, Fallible.mapError_eq_ok,
    Fallible.pure_eq_ok] at hdestroyed
  obtain ⟨record, hlookup, destroyedRecord, -, erased, herased, rfl⟩ := hdestroyed
  cases herased
  cases he
  obtain ⟨hget, hkind, -⟩ := XAuthorityRuntime.lookup_eq_ok hlookup
  have hfound : ∀ found, runtime.resources.records[window]? = some found →
      found.kind = .window := by
    intro found hfound
    rw [hget] at hfound
    cases hfound
    exact hkind
  refine ⟨.removed hrefines (fun _ => hfound) rfl fun kind id => ?_, ⟨rfl, rfl, rfl, rfl⟩⟩
  cases kind with
  | window =>
    by_cases he : id = window
    · simp [tabled, withBase, XWindowTable.get, he]
    · have hne : window ≠ id := Ne.symm he
      simp [tabled, withBase, XWindowTable.get, ExtTreeMap.getElem?_erase, he, hne]
  | _ => exact (if_neg (by simp)).symm

theorem moves_freePixmap {pixmap : XResourceId} {freed : Option BufferHandle × FullRuntime}
    (h : runtime.freePixmap ns pixmap = .ok freed) : Moves ready whole runtime freed.2 := by
  obtain ⟨base, hbase, rfl⟩ := Fallible.map_eq_ok.mp h
  refine moves_freeResource hbase rfl fun kind id hwindow => ?_
  cases kind with
  | window => exact absurd rfl hwindow
  | pixmap =>
    refine entry_erase.trans ?_
    simp [XAuthorityRuntime.AuxiliaryKind.resourceKind, tabled]
  | _ => exact (if_neg (by simp [XAuthorityRuntime.AuxiliaryKind.resourceKind])).symm

/-- A freed resource of a kind without a table goes alone. -/
theorem quiet_freeResource (haux : aux.resourceKind.tabled = false)
    (h : XAuthorityRuntime.freeResource aux runtime.toXAuthorityRuntime ns id = .ok base) :
    Quiet ready whole runtime (runtime.withBase base) := by
  refine ⟨moves_freeResource h rfl fun kind id' hwindow => ?_, ⟨rfl, rfl, rfl, rfl⟩⟩
  have hsame : (runtime.withBase base).tabled id' kind = runtime.tabled id' kind := by
    cases kind <;> first | rfl | exact absurd rfl hwindow
  split
  · rename_i he
    rw [hsame, he.2, tabled_of_not haux]
  · exact hsame

theorem quiet_closeFont {font : XResourceId} (h : runtime.closeFont ns font = .ok next) :
    Quiet ready whole runtime next := by
  obtain ⟨base, hbase, rfl⟩ := Fallible.map_eq_ok.mp h
  exact quiet_freeResource rfl hbase

theorem quiet_freeCursor {cursor : XResourceId} (h : runtime.freeCursor ns cursor = .ok next) :
    Quiet ready whole runtime next := by
  obtain ⟨base, hbase, rfl⟩ := Fallible.map_eq_ok.mp h
  exact quiet_freeResource rfl hbase

theorem quiet_setXfixesRegion {rectangles : List Rect} {u : Unit}
    (h : runtime.validateXfixesRegionAccess ns id = .ok u) :
    Quiet ready whole runtime
      { runtime with xfixesRegions := runtime.xfixesRegions.insert id ⟨rectangles⟩ } where
  refines := .same rfl
  recorded _ hrecorded kind id' owner hnext := by
    cases kind with
    | region =>
      have hinsert := entry_insert.symm.trans hnext
      split at hinsert
      · rename_i he
        subst he
        cases hinsert
        simp only [validateXfixesRegionAccess, access, Fallible.mapError_eq_ok,
          Fallible.map_eq_ok] at h
        obtain ⟨record, hlookup, -⟩ := h
        obtain ⟨hget, hkind, -⟩ := XAuthorityRuntime.lookup_eq_ok hlookup
        exact ⟨record, hget, hkind, nofun⟩
      · exact hrecorded .region id' owner hinsert
    | _ => exact hrecorded _ id' owner hnext
  backed _ hbacked id' record hget hkind := by
    have hsome := hbacked id' record hget hkind
    revert hsome
    cases hk : record.kind with
    | region =>
      intro hsome
      refine (congrArg Option.isSome entry_insert).trans ?_
      split
      · rfl
      · exact hsome
    | _ => exact fun hsome => hsome
  pixmaps := rfl
  fences := rfl
  nextDmaBuf := rfl
  nextFence := rfl

theorem moves_installDri3Pixmap {descriptor : DmaBufDescriptor}
    {installed : DmaBufDescriptor × FullRuntime}
    (hfresh : ready → ∀ found, runtime.resources.records[id]? = some found →
      found = ⟨id, .pixmap, ns, generation⟩)
    (h : runtime.installDri3Pixmap ns id generation descriptor = .ok installed) :
    Moves ready whole runtime installed.2 := by
  obtain ⟨created, hcreated, rfl⟩ := Fallible.map_eq_ok.mp h
  obtain ⟨base, hbase, rfl⟩ := Fallible.map_eq_ok.mp hcreated
  refine moves_createResource hbase rfl hfresh fun kind id' hwindow => ?_
  cases kind with
  | window => exact absurd rfl hwindow
  | pixmap =>
    refine entry_insert.trans ?_
    simp [XAuthorityRuntime.AuxiliaryKind.resourceKind, tabled, XResourceKind.tabled]
  | _ => exact (if_neg (by simp [XAuthorityRuntime.AuxiliaryKind.resourceKind])).symm

end Resources

end FullRuntime
end Sophia.Authority
