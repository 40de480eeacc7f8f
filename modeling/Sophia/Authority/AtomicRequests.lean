import Sophia.Authority.FullRuntime

/-! Refused requests leave the runtime as it was, but for the record of a refused window. -/
namespace Sophia.Authority

open Std Sophia.Protocol

namespace XResourceTable

variable {table table' : XResourceTable} {id : XResourceId} {kind : XResourceKind}
  {ns : NamespaceId} {generation : UInt64}

theorem insert_eq_ok :
    table.insert id kind ns generation = .ok table' ↔
      id.isValid ∧ ns.isValid ∧
        table' = ⟨table.records.insert id { id, kind, ownerNamespace := ns, generation }⟩ := by
  unfold insert
  cases id.isValid <;> cases ns.isValid <;> simp [eq_comm]

/-- Entering a record that is there already changes nothing. -/
theorem insert_eq_self_iff {record : XResourceRecord} :
    (⟨table.records.insert id record⟩ : XResourceTable) = table ↔
      table.records[id]? = some record := by
  constructor
  · intro h
    have hget : (⟨table.records.insert id record⟩ : XResourceTable).records[id]? = some record := by
      simp
    rw [h] at hget
    exact hget
  · intro h
    refine congrArg XResourceTable.mk (ExtTreeMap.ext_getElem? fun other => ?_)
    rw [ExtTreeMap.getElem?_insert]
    split
    · rename_i he
      rw [← LawfulEqOrd.eq_of_compare he, h]
    · rfl

end XResourceTable

/-- A window is created when its id, its surface and its namespace are valid. -/
theorem XWindowTable.created_isOk {table : XWindowTable} {id : XResourceId} {surface : SurfaceId}
    {ns : NamespaceId} {geometry : Rect} {constraints : SurfaceConstraints} {generation : UInt64} :
    (table.apply (.created id surface ns geometry constraints generation)).isOk ↔
      id.isValid ∧ surface.isValid ∧ ns.isValid := by
  simp only [apply]
  cases id.isValid <;> cases surface.isValid <;> cases ns.isValid <;> simp [Except.isOk, Except.toBool]

namespace XAuthorityRuntime

variable {runtime : XAuthorityRuntime} {request : XAuthorityRequestPacket}

/-- A request that is refused by the checks of its own tables changes nothing. -/
theorem answer_refused {error : XAuthorityRuntimeError} {next : XAuthorityRuntime}
    {result : Except XAuthorityRuntimeError (XAuthorityResponsePacket × XAuthorityRuntime)}
    (h : runtime.answer result = (.error error, next)) : next = runtime := by
  unfold answer at h
  split at h
  · exact (congrArg Prod.snd h).symm
  · cases h

theorem answer_ok {response : XAuthorityResponsePacket} {next : XAuthorityRuntime}
    {result : Except XAuthorityRuntimeError (XAuthorityResponsePacket × XAuthorityRuntime)}
    (h : runtime.answer result = (.ok response, next)) : result = .ok (response, next) := by
  unfold answer at h
  split at h
  · cases h
  · cases h
    rfl

/-- Every request that is not refused is accepted. -/
theorem applyChecked_accepted {response : XAuthorityResponsePacket} {next : XAuthorityRuntime}
    (h : runtime.applyChecked request = (.ok response, next)) : response.outcome = .accepted := by
  obtain ⟨transaction, ns, kind⟩ := request
  cases kind with
  | createWindow window surface geometry constraints generation =>
    simp only [applyChecked, createWindow] at h
    split at h
    · cases h
    · split at h
      · cases h
      · cases h
        rfl
  | mapWindow window generation =>
    have h := answer_ok h
    simp only [mapWindow, Fallible.bind_eq_ok, Fallible.pure_eq_ok] at h
    obtain ⟨-, -, mapped, -, he⟩ := h
    cases he
    rfl
  | presentPixmap window pixmap damage previous timeout =>
    have h := answer_ok h
    simp only [finishDrawingUpdate, Fallible.bind_eq_ok, Fallible.pure_eq_ok] at h
    obtain ⟨built, -, windows, -, he⟩ := h
    cases he
    rfl
  | setSelectionOwner selection owner timestamp selectionTimestamp kind =>
    have h := answer_ok h
    simp only [setSelectionOwner, Fallible.bind_eq_ok, Fallible.pure_eq_ok] at h
    obtain ⟨-, -, he⟩ := h
    cases he
    rfl
  | requestSelection selection transfer =>
    have h := answer_ok h
    simp only [requestSelection, Fallible.bind_eq_ok, Fallible.pure_eq_ok] at h
    obtain ⟨-, -, dispatch, -, he⟩ := h
    unfold dispatched at he
    split at he <;> cases he <;> rfl

theorem apply_cases (runtime : XAuthorityRuntime) (request : XAuthorityRequestPacket) :
    ((runtime.apply request).1.outcome = .accepted ∧ ∃ response,
        runtime.applyChecked request = (.ok response, (runtime.apply request).2)) ∨
      ∃ error, (runtime.apply request).1.outcome = .rejected error ∧
        runtime.applyChecked request = (.error error, (runtime.apply request).2) := by
  unfold apply
  split
  · rename_i response next he
    left
    exact ⟨applyChecked_accepted he, response, he⟩
  · rename_i error next he
    right
    exact ⟨error, rfl, he⟩

/-- The record a new window of the namespace is entered with. -/
def windowRecord (ns : NamespaceId) (window : XResourceId) (generation : UInt64) :
    XResourceRecord where
  id := window
  kind := .window
  ownerNamespace := ns
  generation := generation

/-- No refused window leaves a record behind: the ids are refused before the surface is, or the
record was there. -/
def LeavesNoRecord (runtime : XAuthorityRuntime) (request : XAuthorityRequestPacket) : Prop :=
  match request.kind with
  | .createWindow window surface _ _ generation =>
    window.isValid → request.namespaceId.isValid → !surface.isValid →
      runtime.resources.records[window]? =
        some (windowRecord request.namespaceId window generation)
  | _ => True

theorem createWindow_ok {transaction : TransactionId} {ns : NamespaceId} {window : XResourceId}
    {surface : SurfaceId} {geometry : Rect} {constraints : SurfaceConstraints}
    {generation : UInt64} {response : XAuthorityResponsePacket} {next : XAuthorityRuntime}
    (h : runtime.createWindow transaction ns window surface geometry constraints generation =
      (.ok response, next)) : surface.isValid := by
  unfold createWindow at h
  split at h
  · cases h
  · split at h
    · cases h
    · rename_i created hcreated
      have hvalid := XWindowTable.created_isOk.mp (congrArg Except.isOk hcreated)
      exact hvalid.2.1

/-- A refused window leaves the runtime alone unless it is refused for its surface only. -/
theorem createWindow_refused_iff {transaction : TransactionId} {ns : NamespaceId}
    {window : XResourceId} {surface : SurfaceId} {geometry : Rect}
    {constraints : SurfaceConstraints} {generation : UInt64} {error : XAuthorityRuntimeError}
    {next : XAuthorityRuntime}
    (h : runtime.createWindow transaction ns window surface geometry constraints generation =
      (.error error, next)) :
    next = runtime ↔ (window.isValid → ns.isValid → !surface.isValid →
      runtime.resources.records[window]? = some (windowRecord ns window generation)) := by
  unfold createWindow at h
  split at h
  · -- The resource table refuses the id or the namespace.
    rename_i refused hinsert
    cases h
    refine iff_of_true rfl fun hwindow hns _ => ?_
    rw [XResourceTable.insert_eq_ok.mpr ⟨hwindow, hns, rfl⟩] at hinsert
    cases hinsert
  · rename_i resources hinsert
    obtain ⟨hwindow, hns, rfl⟩ := XResourceTable.insert_eq_ok.mp hinsert
    split at h
    · rename_i refused hcreated
      cases h
      have hsurface : surface.isValid = false := by
        cases hvalid : surface.isValid with
        | false => rfl
        | true =>
          have hfailed := congrArg Except.isOk hcreated
          rw [XWindowTable.created_isOk.mpr ⟨hwindow, hvalid, hns⟩] at hfailed
          cases hfailed
      constructor
      · intro hsame _ _ _
        exact XResourceTable.insert_eq_self_iff.mp (congrArg XAuthorityRuntime.resources hsame)
      · intro hrecord
        have hsame := XResourceTable.insert_eq_self_iff.mpr
          (hrecord hwindow hns (by simp [hsurface]))
        unfold windowRecord at hsame
        rw [hsame]
    · cases h

end XAuthorityRuntime

namespace FullRuntime

variable (runtime : FullRuntime) (request : XAuthorityRequestPacket)

/-- If the request is refused, the runtime is what it was before it. -/
def Atomic (runtime : FullRuntime) (request : XAuthorityRequestPacket) : Prop :=
  (runtime.apply request).1.outcome ≠ .accepted → (runtime.apply request).2 = runtime

theorem withBase_eq_self {runtime : FullRuntime} {base : XAuthorityRuntime} :
    runtime.withBase base = runtime ↔ base = runtime.toXAuthorityRuntime := by
  constructor
  · intro h
    exact congrArg toXAuthorityRuntime h
  · rintro rfl
    rfl

/-- A refused request is undone exactly when it is not a window whose record stays behind. -/
theorem apply_atomic_iff :
    runtime.Atomic request ↔ runtime.toXAuthorityRuntime.LeavesNoRecord request := by
  unfold Atomic apply
  rw [withBase_eq_self]
  rcases runtime.toXAuthorityRuntime.apply_cases request with ⟨haccepted, response, hchecked⟩ | ⟨error, hrefused, hchecked⟩
  · refine iff_of_true (fun hrefused => absurd haccepted hrefused) ?_
    obtain ⟨transaction, ns, kind⟩ := request
    cases kind with
    | createWindow window surface geometry constraints generation =>
      intro _ _ hsurface
      have hvalid := XAuthorityRuntime.createWindow_ok hchecked
      rw [hvalid] at hsurface
      cases hsurface
    | _ => trivial
  · dsimp only
    rw [hrefused]
    generalize (runtime.toXAuthorityRuntime.apply request).2 = next at hchecked ⊢
    simp only [ne_eq, reduceCtorEq, not_false_eq_true, true_imp_iff]
    obtain ⟨transaction, ns, kind⟩ := request
    cases kind with
    | createWindow window surface geometry constraints generation =>
      exact XAuthorityRuntime.createWindow_refused_iff hchecked
    | _ => exact iff_of_true (XAuthorityRuntime.answer_refused hchecked) trivial

/-- A window without a surface is refused, and its record stays. -/
theorem refused_window_recorded :
    ¬ new.Atomic ⟨⟨1⟩, ⟨1⟩,
      .createWindow (.new 0x400001 1) .invalid ⟨0, 0, 8, 8⟩ ⟨none, none⟩ 1⟩ := by
  intro h
  have hsame := congrArg (·.resources.records[(XResourceId.new 0x400001 1)]?)
    (h (by decide +kernel))
  revert hsame
  decide +kernel

end FullRuntime
end Sophia.Authority
