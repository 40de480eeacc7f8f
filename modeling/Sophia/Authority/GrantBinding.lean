import Sophia.Authority.SelectionIsolation

/-! Whose selection a conversion reads: requests inside a namespace and granted transfers. -/
namespace Sophia.Authority

open Std Sophia.Protocol Sophia.Portal

namespace XSelectionMonitor

variable {monitor : XSelectionMonitor} {selection : UInt32} {own : NamespaceId}
  {record : XSelectionOwnerRecord} {generation : UInt64}

/-- When the namespace owns the selection, its record supersedes every other owner's. -/
def OwnLatest (monitor : XSelectionMonitor) (selection : UInt32) (own : NamespaceId) : Prop :=
  ∀ record, monitor.owner selection (some own) = some record → record.owner.isSome →
    ∀ ns other, monitor.owner selection ns = some other → other.owner.isSome →
      ns ≠ some own → Supersedes record other

/-- No other owner of that generation can be taken for the source's: the source has an owner of
the same generation and the later id, or a newer owner makes the lookup fail. -/
def SourceLatest (monitor : XSelectionMonitor) (selection : UInt32) (source : NamespaceId)
    (generation : UInt64) : Prop :=
  ∀ ns other, monitor.owner selection ns = some other → other.owner.isSome →
    ns ≠ some source → other.generation = generation →
      (∃ record, monitor.owner selection (some source) = some record ∧ record.owner.isSome ∧
        record.generation = generation ∧ compare ns (some source) = .lt) ∨
      ∃ ns' newer, monitor.owner selection ns' = some newer ∧ newer.owner.isSome ∧
        generation < newer.generation

theorem Supersedes.asymm {other : XSelectionOwnerRecord} (h : Supersedes record other) :
    ¬ Supersedes other record := by
  intro h'
  rcases h with h | ⟨he, h⟩ <;> rcases h' with h' | ⟨he', h'⟩
  · exact absurd (UInt64.lt_trans h h') (UInt64.lt_irrefl _)
  · rw [he'] at h
    exact UInt64.lt_irrefl _ h
  · rw [he] at h'
    exact UInt64.lt_irrefl _ h'
  · exact OrientedCmp.not_lt_of_lt h h'

theorem currentOwner_of_ownLatest (h : monitor.OwnLatest selection own)
    (hrecord : monitor.owner selection (some own) = some record) (howned : record.owner.isSome) :
    monitor.currentOwnerForSelection selection = some record := by
  obtain ⟨-, hns⟩ := key_of_owner hrecord
  rw [currentOwnerForSelection_eq_some_iff, hns]
  exact ⟨⟨hrecord, howned⟩, h record hrecord howned⟩

/-- An owner of the granted generation is then the source's own. -/
theorem currentOwner_of_sourceLatest (h : monitor.SourceLatest selection own generation)
    (hcurrent : monitor.currentOwnerForSelection selection = some record)
    (hgen : record.generation = generation) :
    monitor.owner selection (some own) = some record := by
  obtain ⟨⟨hrecord, howned⟩, hall⟩ := currentOwnerForSelection_eq_some_iff.mp hcurrent
  by_cases hns : record.namespaceId = some own
  · rwa [hns] at hrecord
  · exfalso
    rcases h _ record hrecord howned hns hgen with
      ⟨source, hsource, hsowned, hsgen, hlt⟩ | ⟨ns, newer, hnewer, hnowned, hlt⟩
    · obtain ⟨-, hsns⟩ := key_of_owner hsource
      have hsup := hall (some own) source hsource hsowned (Ne.symm hns)
      refine hsup.asymm (Or.inr ⟨by rw [hgen, hsgen], ?_⟩)
      rw [hsns]
      exact hlt
    · by_cases hne : ns = record.namespaceId
      · rw [hne, hrecord] at hnewer
        cases hnewer
        rw [hgen] at hlt
        exact UInt64.lt_irrefl _ hlt
      · refine (hall ns newer hnewer hnowned hne).asymm (Or.inl ?_)
        rwa [hgen]

end XSelectionMonitor

namespace XAuthorityRuntime

open XSelectionMonitor

variable {runtime : XAuthorityRuntime} {request : XSelectionRequest} {transfer : PortalTransferId}
  {own : NamespaceId} {window : XResourceId}

section Conversion

/-- The requestor is a window of the namespace. -/
def RequestFrom (runtime : XAuthorityRuntime) (request : XSelectionRequest) (own : NamespaceId) :
    Prop :=
  (runtime.windows.get request.requestor).map (·.namespaceId) = some own

/-- How a selection request is answered. -/
def decision (runtime : XAuthorityRuntime) (request : XSelectionRequest)
    (transfer : PortalTransferId) :
    Except ClipboardSelectionRequestError ClipboardSelectionDispatch :=
  (dispatchClipboardSelectionRequest request runtime.selections runtime.windows transfer
    runtime.clipboard).map Prod.fst

/-- The namespace's own owner is asked, and another namespace only when there is none. -/
def ConvertsOwn (runtime : XAuthorityRuntime) (request : XSelectionRequest)
    (transfer : PortalTransferId) (own : NamespaceId) : Prop :=
  (∀ window, runtime.selections.holder request.selection (some own) = some window →
    runtime.decision request transfer = .ok (.sameNamespace (request.toOwner window))) ∧
  ∀ portalRequest command,
    runtime.decision request transfer = .ok (.crossNamespace portalRequest command) →
      ¬ runtime.selections.Owns request.selection (some own)

/-- At every moment of the run the request is answered by the namespace's own owner, and the
answer is the same at every later moment at which that owner is unchanged. -/
def ConvertsIsolated (ops : List RuntimeOp) (request : XSelectionRequest)
    (transfer : PortalTransferId) (own : NamespaceId) : Prop :=
  ∀ before middle rest, ops = before ++ middle ++ rest → (after before).RequestFrom request own →
    (after before).ConvertsOwn request transfer own ∧
    ∀ window, (after before).selections.holder request.selection (some own) = some window →
      (after (before ++ middle)).RequestFrom request own →
      (after (before ++ middle)).selections.holder request.selection (some own) = some window →
        (after (before ++ middle)).decision request transfer =
          (after before).decision request transfer

theorem decision_of_ownLatest (hfrom : runtime.RequestFrom request own)
    (h : runtime.selections.OwnLatest request.selection own)
    (hholder : runtime.selections.holder request.selection (some own) = some window) :
    runtime.decision request transfer = .ok (.sameNamespace (request.toOwner window)) := by
  obtain ⟨requestor, hget, hns⟩ := Option.map_eq_some_iff.mp hfrom
  obtain ⟨record, hrecord, howner⟩ := holder_eq_some.mp hholder
  obtain ⟨-, hrns⟩ := key_of_owner hrecord
  have hcurrent := currentOwner_of_ownLatest h hrecord (by simp [howner])
  simp [decision, dispatchClipboardSelectionRequest, hget, hcurrent, hrns, hns, howner, Except.map]

theorem askPortal_ne_sameNamespace {monitor : XSelectionMonitor} {windows : XWindowTable}
    {portal portal' : ClipboardPortal} {answer : ClipboardSelectionOwnerRequest} :
    askPortal request monitor windows transfer portal ≠ .ok (.sameNamespace answer, portal') := by
  intro h
  simp only [askPortal, Fallible.bind_eq_ok, Fallible.pure_eq_ok] at h
  obtain ⟨_, -, _, -, he⟩ := h
  cases he

/-- An answer inside the namespace names the owner of a record of that namespace. -/
theorem source_of_sameNamespace {answer : ClipboardSelectionOwnerRequest}
    (hfrom : runtime.RequestFrom request own)
    (h : runtime.decision request transfer = .ok (.sameNamespace answer)) :
    ∃ record, runtime.selections.currentOwnerForSelection request.selection = some record ∧
      record.namespaceId = some own := by
  obtain ⟨requestor, hget, hns⟩ := Option.map_eq_some_iff.mp hfrom
  obtain ⟨⟨dispatch, portal⟩, hdispatch, rfl⟩ := Fallible.map_eq_ok.mp h
  simp only [dispatchClipboardSelectionRequest, hget] at hdispatch
  cases hcurrent : runtime.selections.currentOwnerForSelection request.selection with
  | none => simp [hcurrent] at hdispatch
  | some record =>
    cases hrns : record.namespaceId with
    | none => simp [hcurrent, hrns] at hdispatch
    | some source =>
      simp only [hcurrent, hrns] at hdispatch
      split at hdispatch
      · rename_i he
        exact ⟨record, rfl, by rw [hrns, he, hns]⟩
      · exact absurd hdispatch askPortal_ne_sameNamespace

theorem convertsOwn_iff (hfrom : runtime.RequestFrom request own) :
    runtime.ConvertsOwn request transfer own ↔
      runtime.selections.OwnLatest request.selection own := by
  constructor
  · rintro ⟨hsame, -⟩ record hrecord howned
    obtain ⟨window, howner⟩ := Option.isSome_iff_exists.mp howned
    have hdecision := hsame window (holder_eq_some.mpr ⟨record, hrecord, howner⟩)
    -- Only a record of the own namespace can have led to an answer inside it.
    obtain ⟨source, hcurrent, hsns⟩ := source_of_sameNamespace hfrom hdecision
    obtain ⟨⟨hsource, -⟩, hall⟩ := currentOwnerForSelection_eq_some_iff.mp hcurrent
    rw [hsns] at hsource hall
    rw [hrecord] at hsource
    rwa [Option.some.inj hsource]
  · intro h
    refine ⟨fun window hholder => decision_of_ownLatest hfrom h hholder, ?_⟩
    intro portalRequest command hcross howns
    obtain ⟨window, hholder⟩ := Option.isSome_iff_exists.mp howns
    rw [decision_of_ownLatest hfrom h hholder] at hcross
    cases hcross

/-- Conversions are isolated along a run exactly when, at each of its moments at which the
requestor exists, the namespace's own record supersedes those of the others. -/
theorem convert_selection_isolated_iff (ops : List RuntimeOp) (request : XSelectionRequest)
    (transfer : PortalTransferId) (own : NamespaceId) :
    ConvertsIsolated ops request transfer own ↔
      ∀ before rest, ops = before ++ rest → (after before).RequestFrom request own →
        (after before).selections.OwnLatest request.selection own := by
  constructor
  · intro h before rest he hfrom
    exact (convertsOwn_iff hfrom).mp (h before [] rest (by simp [he]) hfrom).1
  · intro h before middle rest he hfrom
    have hfirst := h before (middle ++ rest) (by simp [he]) hfrom
    refine ⟨(convertsOwn_iff hfrom).mpr hfirst, ?_⟩
    intro window hholder hfrom' hholder'
    rw [decision_of_ownLatest hfrom hfirst hholder,
      decision_of_ownLatest hfrom' (h (before ++ middle) rest he hfrom') hholder']

/-- A client of the first namespace asks for the text of the selection it owns itself. -/
def ownRequest : XSelectionRequest := ⟨.new 0x400001 1, 1, 9, "UTF8_STRING", 5, 12⟩

/-- The other namespace claimed the selection as often, and the request is sent there. -/
theorem own_request_leaves_namespace :
    (after twoOwners).RequestFrom ownRequest ⟨1⟩ ∧
      ¬ ConvertsIsolated twoOwners ownRequest ⟨7⟩ ⟨1⟩ := by
  have hfrom : (after twoOwners).RequestFrom ownRequest ⟨1⟩ := by
    show Option.map _ _ = _
    decide +kernel
  refine ⟨hfrom, fun h => ?_⟩
  have hsame := (h twoOwners [] [] (by simp) hfrom).1.1 (.new 0x400001 1) (by decide +kernel)
  have hcross : ((after twoOwners).decision ownRequest ⟨7⟩).toOption ≠
      some (.sameNamespace (ownRequest.toOwner (.new 0x400001 1))) := by decide +kernel
  rw [hsame] at hcross
  exact hcross rfl

end Conversion

section Grants

/-- The source namespace's own record of the selection is owned and has the granted generation. -/
def BoundTo (runtime : XAuthorityRuntime) (grant : PortalGrant) (selection : UInt32)
    (window : XResourceId) : Prop :=
  ∃ record, runtime.selections.owner selection (some grant.sourceNamespace) = some record ∧
    record.owner = some window ∧ record.generation = grant.sourceGeneration

/-- A call that asks a source owner, or hands bytes to a requestor, does so under its grant. -/
def GrantBound (runtime : XAuthorityRuntime) : RuntimeOp → Prop
  | .beginClipboardSourceRequest grant =>
    ∀ proxy runtime', runtime.beginClipboardSourceRequest grant = .ok (proxy, runtime') →
      runtime.BoundTo grant proxy.selection proxy.owner
  | .executeClipboardPayload transfer grant payload atoms properties =>
    ∀ result atoms' properties' runtime',
      runtime.executeClipboardPayload transfer grant payload atoms properties =
        ((result, atoms', properties'), runtime') →
      ((∃ handoff, result = .ok (.handoff handoff)) ∨ properties' ≠ properties) →
        ∃ pending window, runtime.pendingClipboard[transfer]? = some pending ∧
          runtime.BoundTo grant pending.portalRequest.failure.selection window
  | _ => True

/-- No other namespace's owner can be taken for the one the grant was given for. -/
def SourceUnambiguous (runtime : XAuthorityRuntime) : RuntimeOp → Prop
  | .beginClipboardSourceRequest grant =>
    ∀ pending, runtime.pendingClipboard[grant.transfer]? = some pending →
      grantCovers grant pending →
      runtime.selections.SourceLatest pending.portalRequest.failure.selection
        grant.sourceNamespace grant.sourceGeneration
  | .executeClipboardPayload transfer grant _ _ _ =>
    ∀ pending, runtime.pendingClipboard[transfer]? = some pending → grantCovers grant pending →
      runtime.selections.SourceLatest pending.portalRequest.failure.selection
        grant.sourceNamespace grant.sourceGeneration
  | _ => True

variable {grant : PortalGrant} {pending : PendingClipboardSelection}

theorem beginClipboardSourceRequest_ok {proxy : ClipboardSelectionProxy}
    {runtime' : XAuthorityRuntime}
    (h : runtime.beginClipboardSourceRequest grant = .ok (proxy, runtime')) :
    ∃ pending record, runtime.pendingClipboard[grant.transfer]? = some pending ∧
      grantCovers grant pending ∧
      runtime.selections.currentOwnerForSelection pending.portalRequest.failure.selection =
        some record ∧
      record.generation = grant.sourceGeneration ∧ record.owner = some proxy.owner ∧
      proxy.selection = pending.portalRequest.failure.selection := by
  unfold beginClipboardSourceRequest at h
  cases hpending : runtime.pendingClipboard[grant.transfer]? with
  | none => simp [hpending] at h
  | some pending =>
    simp only [hpending] at h
    split at h
    · cases h
    · rename_i hcovers
      have hcovers : grantCovers grant pending = true := by simpa using hcovers
      split at h
      · cases h
      · rename_i record hcurrent
        split at h
        · cases h
        · rename_i hgen
          split at h
          · cases h
          · cases h
          · rename_i owner raw howner hraw
            cases h
            exact ⟨pending, record, rfl, hcovers, hcurrent, not_not.mp hgen, howner, rfl⟩

theorem generation_of_grantCovers (h : grantCovers grant pending = true) :
    grant.sourceGeneration = pending.portalRequest.request.generation := by
  simp only [grantCovers, decide_eq_true_eq] at h
  exact h.2.1

/-- Bytes are handed over, or the property table touched, only with an owner of the generation. -/
theorem executePending_delivers {selections : XSelectionMonitor} {payload : List UInt8}
    {atoms atoms' : XAtomTable} {properties properties' : XPropertyTable}
    {result : Except ClipboardSelectionExecutionError ClipboardSelectionExecutionOutcome}
    (h : executePending selections pending transfer grant payload atoms properties =
      (result, atoms', properties'))
    (hdelivers : (∃ handoff, result = .ok (.handoff handoff)) ∨ properties' ≠ properties) :
    grantCovers grant pending ∧
      ∃ record, selections.currentOwnerForSelection pending.portalRequest.failure.selection =
        some record ∧ record.generation = grant.sourceGeneration := by
  have hrefused : ∀ error : ClipboardSelectionExecutionError,
      ((.ok (.failed error pending.portalRequest.failure.refusal), atoms, properties) : Execution) ≠
        (result, atoms', properties') := by
    rintro error he
    cases he
    rcases hdelivers with ⟨handoff, he⟩ | hne
    · cases he
    · exact hne rfl
  unfold executePending at h
  simp only at h
  split at h
  · exact absurd h (hrefused _)
  · rename_i hcovers
    have hcovers : grantCovers grant pending = true := by simpa using (not_or.mp hcovers).2
    refine ⟨hcovers, ?_⟩
    split at h
    · exact absurd h (hrefused _)
    · rename_i record hcurrent
      split at h
      · exact absurd h (hrefused _)
      · rename_i hgen
        refine ⟨record, hcurrent, ?_⟩
        rw [not_not.mp hgen]
        exact (generation_of_grantCovers hcovers).symm

/-- One call that meets the condition stays under its grant. -/
theorem bound_of_sourceUnambiguous {op : RuntimeOp} (h : runtime.SourceUnambiguous op) :
    runtime.GrantBound op := by
  cases op with
  | beginClipboardSourceRequest grant =>
    intro proxy runtime' hbegin
    obtain ⟨pending, record, hpending, hcovers, hcurrent, hgen, howner, hselection⟩ :=
      beginClipboardSourceRequest_ok hbegin
    have hlatest := h pending hpending hcovers
    rw [hselection]
    exact ⟨record, currentOwner_of_sourceLatest hlatest hcurrent hgen, howner, hgen⟩
  | executeClipboardPayload transfer grant payload atoms properties =>
    intro result atoms' properties' runtime' hexec hdelivers
    unfold executeClipboardPayload at hexec
    cases hpending : runtime.pendingClipboard[transfer]? with
    | none =>
      simp only [hpending, Prod.mk.injEq] at hexec
      obtain ⟨⟨rfl, -, rfl⟩, -⟩ := hexec
      rcases hdelivers with ⟨handoff, he⟩ | hne
      · cases he
      · exact absurd rfl hne
    | some pending =>
      simp only [hpending, Prod.mk.injEq] at hexec
      obtain ⟨hcovers, record, hcurrent, hgen⟩ := executePending_delivers hexec.1 hdelivers
      obtain ⟨⟨-, howned⟩, -⟩ := currentOwnerForSelection_eq_some_iff.mp hcurrent
      obtain ⟨window, howner⟩ := Option.isSome_iff_exists.mp howned
      refine ⟨pending, window, rfl, record, ?_, howner, hgen⟩
      exact currentOwner_of_sourceLatest (h pending hpending hcovers) hcurrent hgen
  | _ => trivial

/-- In a run whose granted calls find no other owner of the generation, each stays under its
grant. -/
theorem grants_bound {ops : List RuntimeOp} (h : Run.Guarded step SourceUnambiguous new ops) :
    Run.Guarded step GrantBound new ops :=
  fun before op rest he => bound_of_sourceUnambiguous (h before op rest he)

/-- The first namespace owns the selection and a client of the third asks for its text. -/
def crossRequest : List RuntimeOp :=
  [openWindow ⟨1⟩ 0x400001 1, openWindow ⟨2⟩ 0x600001 2, openWindow ⟨3⟩ 0x800001 3,
    claimSelection ⟨1⟩ (some (.new 0x400001 1)) 10,
    .apply ⟨⟨3⟩, ⟨3⟩, .requestSelection ⟨.new 0x800001 1, 1, 9, "UTF8_STRING", 5, 12⟩ ⟨7⟩⟩]

/-- The grant the broker gives for that request. -/
def crossGrant : PortalGrant := ⟨⟨7⟩, ⟨1⟩, ⟨3⟩, .clipboard, 1, 1, 2000, .active⟩

theorem sourceLatest_of_sole {monitor : XSelectionMonitor} {selection : UInt32}
    {source : NamespaceId} {generation : UInt64}
    (h : ∀ record ∈ Ordered.values monitor.owners, record.namespaceId = some source) :
    monitor.SourceLatest selection source generation := by
  intro ns other hother _ hne _
  obtain ⟨hs, hns⟩ := key_of_owner hother
  have hget := (monitor.keyed.mem_values_iff (v := other)).mpr (by
    rw [← hs, ← hns] at hother
    exact hother)
  exact absurd (hns ▸ h other hget) hne

/-- The only owner is asked for the text it was granted for. -/
theorem grants_bound_sole_owner :
    Run.Guarded step SourceUnambiguous new
        (crossRequest ++ [.beginClipboardSourceRequest crossGrant]) ∧
      Run.Guarded step GrantBound new
        (crossRequest ++ [.beginClipboardSourceRequest crossGrant]) := by
  have hguard : Run.Guarded step SourceUnambiguous new
      (crossRequest ++ [.beginClipboardSourceRequest crossGrant]) := by
    refine .cons trivial (.cons trivial (.cons trivial (.cons trivial (.cons trivial
      (.cons ?_ Run.guarded_nil)))))
    exact fun _ _ _ => sourceLatest_of_sole (by decide +kernel)
  exact ⟨hguard, grants_bound hguard⟩

/-- Between grant and use a second namespace claims the selection for the first time, and its
window is asked instead. -/
theorem grant_asks_foreign_owner :
    ¬ GrantBound (after (crossRequest ++ [claimSelection ⟨2⟩ (some (.new 0x600001 1)) 13]))
      (.beginClipboardSourceRequest crossGrant) := by
  intro h
  have hasked : ((after (crossRequest ++
      [claimSelection ⟨2⟩ (some (.new 0x600001 1)) 13])).beginClipboardSourceRequest
        crossGrant).toOption.map (fun result => (result.1.selection, result.1.owner)) =
      some (1, .new 0x600001 1) := by decide +kernel
  obtain ⟨⟨proxy, runtime'⟩, hbegin, he⟩ := Option.map_eq_some_iff.mp hasked
  obtain ⟨record, hrecord, howner, -⟩ := h proxy runtime' (Fallible.toOption_eq_some.mp hbegin)
  obtain ⟨hselection, hwindow⟩ : proxy.selection = 1 ∧ proxy.owner = .new 0x600001 1 :=
    Prod.mk.inj he
  rw [hselection] at hrecord
  rw [hwindow] at howner
  have hholder : (after (crossRequest ++
      [claimSelection ⟨2⟩ (some (.new 0x600001 1)) 13])).selections.holder 1 (some ⟨1⟩) =
      some (.new 0x600001 1) :=
    holder_eq_some.mpr ⟨record, hrecord, howner⟩
  revert hholder
  decide +kernel

end Grants
end XAuthorityRuntime
end Sophia.Authority
