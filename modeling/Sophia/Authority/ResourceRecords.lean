import Sophia.Authority.RuntimeCalls

/-! What the calls do to the resource records and to the tables of the things recorded. -/
namespace Sophia.Authority

open Std Sophia.Protocol Ordered

namespace XWindowTable

variable {table table' last : XWindowTable} {id : XResourceId} {expected : UInt64}

/-- The namespace of a window. -/
def owner (table : XWindowTable) (id : XResourceId) : Option NamespaceId :=
  (table.get id).map (·.namespaceId)

/-- The two tables have the same windows, in the same namespaces. -/
def SameOwners (table table' : XWindowTable) : Prop := ∀ id, table'.owner id = table.owner id

theorem SameOwners.refl (table : XWindowTable) : table.SameOwners table := fun _ => rfl

theorem SameOwners.trans (h : table.SameOwners table') (h' : table'.SameOwners last) :
    table.SameOwners last := fun id => (h' id).trans (h id)

theorem sameOwners_insert {record changed : XWindowRecord}
    (hget : table.windows[id]? = some record) (hns : changed.namespaceId = record.namespaceId) :
    table.SameOwners ⟨table.windows.insert id changed⟩ := by
  intro other
  simp only [owner, get, ExtTreeMap.getElem?_insert, Std.compare_eq_iff_eq]
  split
  · rename_i he
    rw [← he, hget, Option.map_some, Option.map_some, hns]
  · rfl

theorem sameOwners_update {change : XWindowRecord → XWindowRecord}
    {updated : Option AuthoritySurface × XWindowTable}
    (hns : ∀ record, (change record).namespaceId = record.namespaceId)
    (h : table.update id change = .ok updated) : table.SameOwners updated.2 := by
  unfold update at h
  split at h
  · cases h
  · rename_i record hget
    cases h
    exact sameOwners_insert hget (hns record)

theorem sameOwners_mapped {mapped : Option AuthoritySurface × XWindowTable}
    (h : table.apply (.mapped id) = .ok mapped) : table.SameOwners mapped.2 := by
  simp only [apply] at h
  exact sameOwners_update (fun _ => by rfl) h

theorem sameOwners_configured {configured : Option AuthoritySurface × XWindowTable}
    {x y : Option Int16} {width height : Option UInt16}
    (h : table.apply (.configured id x y width height) = .ok configured) :
    table.SameOwners configured.2 := by
  simp only [apply] at h
  exact sameOwners_update (fun _ => by rfl) h

theorem sameOwners_advanceGeneration (h : table.advanceGeneration id expected = .ok table') :
    table.SameOwners table' := by
  unfold advanceGeneration at h
  split at h
  · cases h
  · rename_i record hget
    split at h
    · cases h
    split at h
    · cases h
      exact sameOwners_insert hget rfl
    · cases h

end XWindowTable

/-- The kinds whose things are kept in tables of their own. -/
def XResourceKind.tabled : XResourceKind → Bool
  | .window | .pixmap | .fence | .region => true
  | _ => false

/-- The kinds that are never recorded without their thing. -/
def XResourceKind.backed : XResourceKind → Bool
  | .window | .fence | .region => true
  | _ => false

theorem XResourceKind.tabled_of_backed {kind : XResourceKind} (h : kind.backed) : kind.tabled := by
  cases kind <;> first | rfl | cases h

/-- The record a call enters. -/
def RuntimeOp.enters : RuntimeOp → Option XResourceRecord
  | .apply ⟨_, ns, .createWindow window _ _ _ generation⟩ =>
    some { id := window, kind := .window, ownerNamespace := ns, generation }
  | .createResource kind ns id generation =>
    some { id, kind := kind.resourceKind, ownerNamespace := ns, generation }
  | _ => none

/-- The id a call enters a record under. -/
def RuntimeOp.creates : RuntimeOp → Option XResourceId
  | .apply ⟨_, _, .createWindow window ..⟩ => some window
  | .createResource _ _ id _ => some id
  | _ => none

theorem RuntimeOp.creates_of_enters {op : RuntimeOp} {record : XResourceRecord}
    (h : op.enters = some record) : op.creates = some record.id := by
  unfold enters at h
  split at h
  · cases h
    rfl
  · cases h
    rfl
  · cases h

/-- The plain calls keep no table but the windows. -/
theorem RuntimeOp.window_of_enters {op : RuntimeOp} {record : XResourceRecord} (hplain : op.plain)
    (henters : op.enters = some record) (hbacked : record.kind.backed) : record.kind = .window := by
  unfold enters at henters
  split at henters
  · cases henters
    rfl
  · rename_i kind ns id generation
    cases henters
    cases kind <;> revert hplain hbacked <;> simp [plain, XAuthorityRuntime.AuxiliaryKind.resourceKind,
      XResourceKind.backed]
  · cases henters

/-- The creation of a window that the window table refuses, after its record was entered. -/
def RuntimeOp.half : RuntimeOp → Bool
  | .apply ⟨_, _, .createWindow _ surface ..⟩ => !surface.isValid
  | _ => false

namespace XAuthorityRuntime

variable {base : XAuthorityRuntime} {id : XResourceId} {window : XWindowRecord}

/-- The id is recorded as this kind of resource of this namespace. -/
def Records (base : XAuthorityRuntime) (kind : XResourceKind) (id : XResourceId)
    (owner : NamespaceId) : Prop :=
  ∃ record, base.resources.records[id]? = some record ∧ record.kind = kind ∧
    record.ownerNamespace = owner

/-- The records and the windows are the same. -/
structure KeepsRecords (base base' : XAuthorityRuntime) : Prop where
  resources : base'.resources = base.resources
  windows : base.windows.SameOwners base'.windows

/-- What a call does to the records and to the windows. -/
inductive TableStep (base base' : XAuthorityRuntime) (op : RuntimeOp) : Prop
  | kept (hkeeps : base.KeepsRecords base')
  | entered (record : XResourceRecord) (henters : op.enters = some record)
      (hvalid : record.id.isValid ∧ record.ownerNamespace.isValid)
      (hresources : base'.resources.records = base.resources.records.insert record.id record)
      (hwindows : base'.windows = base.windows ∧ (record.kind = .window → op.half) ∨
        record.kind = .window ∧
          ∃ window : XWindowRecord, window.namespaceId = record.ownerNamespace ∧
            base'.windows.windows = base.windows.windows.insert record.id window)
  | removed (id : XResourceId)
      (hplain : op.plain → base'.windows = base.windows ∧
        ∃ record, base.resources.records[id]? = some record ∧ record.kind.tabled = false)
      (hresources : base'.resources.records = base.resources.records.erase id)

variable {ns : NamespaceId} {base' : XAuthorityRuntime} {op : RuntimeOp}

theorem KeepsRecords.same (hresources : base'.resources = base.resources)
    (hwindows : base'.windows = base.windows) : base.KeepsRecords base' :=
  ⟨hresources, by rw [hwindows]; exact .refl _⟩

theorem TableStep.same : TableStep base base op := .kept (.same rfl rfl)

theorem tableStep_getD {result : Except XAuthorityRuntimeError XAuthorityRuntime}
    (h : ∀ base', result = .ok base' → TableStep base base' op) :
    TableStep base (result.toOption.getD base) op := by
  cases result with
  | error error => exact .same
  | ok base' => exact h base' rfl

theorem tableStep_map_getD {ε α : Type} {result : Except ε (α × XAuthorityRuntime)}
    (h : ∀ a base', result = .ok (a, base') → TableStep base base' op) :
    TableStep base ((result.toOption.map Prod.snd).getD base) op := by
  cases result with
  | error error => exact .same
  | ok answered => exact h answered.1 answered.2 rfl

theorem tableStep_answer
    {result : Except XAuthorityRuntimeError (XAuthorityResponsePacket × XAuthorityRuntime)}
    (h : ∀ response base', result = .ok (response, base') → TableStep base base' op) :
    TableStep base (base.answer result).2 op := by
  cases result with
  | error error => exact .same
  | ok answered => exact h answered.1 answered.2 rfl

theorem insert_eq_ok {table table' : XResourceTable} {kind : XResourceKind} {generation : UInt64}
    (h : table.insert id kind ns generation = .ok table') :
    (id.isValid ∧ ns.isValid) ∧
      table'.records = table.records.insert id { id, kind, ownerNamespace := ns, generation } := by
  unfold XResourceTable.insert at h
  split at h
  · cases h
  split at h
  · cases h
  · rename_i hid hns
    cases h
    exact ⟨⟨by simpa using hid, by simpa using hns⟩, rfl⟩

theorem lookup_eq_ok {table : XResourceTable} {kind : XResourceKind} {record : XResourceRecord}
    (h : table.lookup ns id kind = .ok record) :
    table.records[id]? = some record ∧ record.kind = kind ∧ record.ownerNamespace = ns := by
  unfold XResourceTable.lookup at h
  split at h
  · cases h
  split at h
  · cases h
  rename_i found hget
  split at h
  · cases h
  split at h
  · cases h
  rename_i hkind hns
  cases h
  exact ⟨hget, not_not.mp hkind, not_not.mp hns⟩

/-- The window table refuses what the resource table accepts only for the surface. -/
theorem created_eq_error {table : XWindowTable} {surface : SurfaceId} {geometry : Rect}
    {constraints : SurfaceConstraints} {generation : UInt64} {error : XAuthorityAccessError}
    (hvalid : id.isValid ∧ ns.isValid)
    (h : table.apply (.created id surface ns geometry constraints generation) = .error error) :
    surface.isValid = false := by
  simp only [XWindowTable.apply, hvalid] at h
  split at h
  · rename_i hid
    simp at hid
  split at h
  · rename_i hsurface
    simpa using hsurface
  · cases h

theorem created_eq_ok {table table' : XWindowTable} {surface : SurfaceId} {geometry : Rect}
    {constraints : SurfaceConstraints} {generation : UInt64} {answered : Option AuthoritySurface}
    (h : table.apply (.created id surface ns geometry constraints generation) =
      .ok (answered, table')) :
    ∃ window : XWindowRecord, window.namespaceId = ns ∧
      table'.windows = table.windows.insert id window := by
  simp only [XWindowTable.apply] at h
  split at h
  · cases h
  split at h
  · cases h
  split at h
  · cases h
  · cases h
    exact ⟨_, rfl, rfl⟩

theorem keeps_finishDrawingUpdate {update : XDrawingUpdate} {response : XAuthorityResponsePacket}
    (h : base.finishDrawingUpdate update = .ok (response, base')) : base.KeepsRecords base' := by
  simp only [finishDrawingUpdate, Fallible.bind_eq_ok, Fallible.mapError_eq_ok,
    Fallible.pure_eq_ok] at h
  obtain ⟨transaction, -, windows, hadvanced, he⟩ := h
  cases he
  exact ⟨rfl, XWindowTable.sameOwners_advanceGeneration hadvanced⟩

theorem keeps_configureWindowGeometry {window : XResourceId} {x y : Option Int16}
    {width height : Option UInt16}
    (h : base.configureWindowGeometry ns window x y width height = .ok base') :
    base.KeepsRecords base' := by
  simp only [configureWindowGeometry, Fallible.bind_eq_ok, Fallible.mapError_eq_ok,
    Fallible.pure_eq_ok] at h
  obtain ⟨-, -, configured, hconfigured, rfl⟩ := h
  exact ⟨rfl, XWindowTable.sameOwners_configured hconfigured⟩

theorem tableStep_createWindow {transaction : TransactionId} {surface : SurfaceId}
    {geometry : Rect} {constraints : SurfaceConstraints} {generation : UInt64}
    (henters : op.enters = some { id, kind := .window, ownerNamespace := ns, generation })
    (hhalf : surface.isValid = false → op.half) :
    TableStep base
      (base.createWindow transaction ns id surface geometry constraints generation).2 op := by
  unfold createWindow
  split
  · exact .same
  rename_i resources hinsert
  split
  · rename_i error hrefused
    have hvalid := (insert_eq_ok hinsert).1
    exact .entered _ henters hvalid (insert_eq_ok hinsert).2
      (.inl ⟨rfl, fun _ => hhalf (created_eq_error hvalid hrefused)⟩)
  · rename_i answered windows hcreated
    exact .entered _ henters (insert_eq_ok hinsert).1 (insert_eq_ok hinsert).2
      (.inr ⟨rfl, created_eq_ok hcreated⟩)

theorem tableStep_apply (request : XAuthorityRequestPacket) :
    TableStep base (base.apply request).2 (.apply request) := by
  have hsnd : (base.apply request).2 = (base.applyChecked request).2 := by
    unfold apply
    split <;> rename_i h <;> rw [h]
  rw [hsnd]
  obtain ⟨transaction, ns, kind⟩ := request
  cases kind with
  | createWindow window surface geometry constraints generation =>
    exact tableStep_createWindow rfl fun hsurface => by simp [RuntimeOp.half, hsurface]
  | mapWindow window generation =>
    refine tableStep_answer fun response base' h => ?_
    simp only [mapWindow, Fallible.bind_eq_ok, Fallible.mapError_eq_ok, Fallible.pure_eq_ok] at h
    obtain ⟨-, -, mapped, hmapped, he⟩ := h
    cases he
    exact .kept ⟨rfl, XWindowTable.sameOwners_mapped hmapped⟩
  | presentPixmap window pixmap damage previousCommittedGeneration timeoutMsec =>
    exact tableStep_answer fun response base' h => .kept (keeps_finishDrawingUpdate h)
  | setSelectionOwner selection owner timestamp selectionTimestamp kind =>
    refine tableStep_answer fun response base' h => ?_
    simp only [setSelectionOwner, Fallible.bind_eq_ok, Fallible.pure_eq_ok] at h
    obtain ⟨-, -, he⟩ := h
    cases he
    exact .kept (.same rfl rfl)
  | requestSelection selection transfer =>
    refine tableStep_answer fun response base' h => ?_
    simp only [requestSelection, Fallible.bind_eq_ok, Fallible.pure_eq_ok] at h
    obtain ⟨-, -, dispatch, -, he⟩ := h
    have hbase : base' = (base.dispatched transaction ns transfer dispatch.2 dispatch.1).2 :=
      (congrArg Prod.snd he).symm
    subst hbase
    cases dispatch.1 with
    | sameNamespace request => exact .kept (.same rfl rfl)
    | crossNamespace portalRequest command => exact .kept (.same rfl rfl)

theorem sameOwners_mapNamespaceWindows (ns : NamespaceId) :
    base.windows.SameOwners (base.mapNamespaceWindows ns).2.windows := by
  refine Run.tryEach_invariant mapNamespaceWindow (base.windows.SameOwners ·)
    (fun table window table' h hfrom => hfrom.trans ?_) _ (.refl _)
  simp only [mapNamespaceWindow, Fallible.mapError_eq_ok, Fallible.map_eq_ok] at h
  obtain ⟨mapped, hmapped, rfl⟩ := h
  exact XWindowTable.sameOwners_mapped hmapped

/-- No call does anything else to the records and the windows. -/
theorem tableStep (base : XAuthorityRuntime) (op : RuntimeOp) : TableStep base (base.step op) op := by
  cases op with
  | apply request => exact tableStep_apply request
  | finishDrawingUpdate update =>
    exact tableStep_answer fun response base' h => .kept (keeps_finishDrawingUpdate h)
  | configureWindowGeometry ns window x y width height =>
    exact tableStep_getD fun base' h => .kept (keeps_configureWindowGeometry h)
  | mapNamespaceWindows ns => exact .kept ⟨rfl, sameOwners_mapNamespaceWindows ns⟩
  | destroyWindow ns window =>
    refine tableStep_map_getD fun surface base' h => ?_
    simp only [destroyWindow, Fallible.bind_eq_ok, Fallible.mapError_eq_ok,
      Fallible.pure_eq_ok] at h
    obtain ⟨-, -, record, -, destroyed, hdestroyed, he⟩ := h
    cases hdestroyed
    cases he
    exact .removed window nofun rfl
  | createResource kind ns id generation =>
    refine tableStep_getD fun base' h => ?_
    simp only [createResource, Fallible.bind_eq_ok, Fallible.mapError_eq_ok,
      Fallible.pure_eq_ok] at h
    obtain ⟨resources, hinsert, rfl⟩ := h
    refine .entered _ rfl (insert_eq_ok hinsert).1 (insert_eq_ok hinsert).2 (.inl ⟨rfl, ?_⟩)
    cases kind <;> nofun
  | freeResource kind ns id =>
    refine tableStep_getD fun base' h => ?_
    simp only [freeResource, Fallible.bind_eq_ok, Fallible.mapError_eq_ok,
      Fallible.pure_eq_ok] at h
    obtain ⟨record, hlookup, rfl⟩ := h
    obtain ⟨hget, hkind, -⟩ := lookup_eq_ok hlookup
    refine .removed id (fun hplain => ⟨rfl, record, hget, ?_⟩) rfl
    rw [hkind]
    cases kind with
    | font => rfl
    | cursor => rfl
    | _ => cases hplain
  | dropResource id => exact .removed id nofun rfl
  | setPendingClipboardByteOrder transfer byteOrder =>
    simp only [step, setPendingClipboardByteOrder]
    split <;> exact .kept (.same rfl rfl)
  | beginClipboardSourceRequest grant =>
    refine tableStep_map_getD fun proxy base' h => ?_
    unfold beginClipboardSourceRequest at h
    repeat' split at h
    all_goals first
      | cases h
        exact .kept (.same rfl rfl)
      | cases h
  | captureClipboardSourcePayload requestor property properties =>
    simp only [step, captureClipboardSourcePayload]
    split <;> exact .kept (.same rfl rfl)
  | discardClipboardProxies transfer => exact .kept (.same rfl rfl)
  | executeClipboardPayload transfer grant payload atoms properties =>
    simp only [step, executeClipboardPayload]
    split <;> exact .kept (.same rfl rfl)
  | failClipboardTransfer transfer error =>
    refine tableStep_map_getD fun outcome base' h => ?_
    unfold failClipboardTransfer at h
    split at h
    · cases h
    · cases h
      exact .kept (.same rfl rfl)

/-- Every record is stored under its own id. -/
theorem keyedBy_step (h : KeyedBy XResourceRecord.id base.resources.records) (op : RuntimeOp) :
    KeyedBy XResourceRecord.id (base.step op).resources.records := by
  rcases tableStep base op with ⟨hkeeps⟩ | ⟨record, -, -, hinsert, -⟩ | ⟨id, -, herase⟩
  · rwa [hkeeps.resources]
  · rw [hinsert]
    exact h.insert record
  · intro key record hget
    rw [herase] at hget
    exact h key record ((swept_erase id key record).mp hget).1

end XAuthorityRuntime
end Sophia.Authority
