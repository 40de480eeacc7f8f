import Mathlib.Data.Finset.Card
import Sophia.Authority.ClipboardTransfers

/-! What one namespace's requests do to the selections of the others. -/
namespace Sophia.Authority

open Std Sophia.Protocol

namespace XSelectionMonitor

variable {monitor : XSelectionMonitor} {windows : XWindowTable} {kind : XSelectionChangeKind}
  {selection : UInt32} {ns : Option NamespaceId} {own : NamespaceId} {window : XResourceId}
  {released : XSelectionOwnerRecord}

/-- The order in which a clear looks for the record it takes: ids upwards, no namespace last. -/
def SearchedBefore : Option NamespaceId → Option NamespaceId → Prop
  | some a, some b => compare a b = .lt
  | some _, none => True
  | none, _ => False

/-- If any namespace owns the selection, this one does and no smaller id. -/
def OwnsFirst (monitor : XSelectionMonitor) (selection : UInt32) (own : NamespaceId) : Prop :=
  ∀ other, monitor.Owns selection (some other) →
    monitor.Owns selection (some own) ∧ (other = own ∨ compare own other = .lt)

/-- The window's records are this namespace's, and found before those of any other window. -/
def ClearsOwn (monitor : XSelectionMonitor) (own : NamespaceId) (window : XResourceId) : Prop :=
  ∀ selection ns, monitor.holder selection ns = some window →
    (ns = some own ∨ ns = none) ∧
      ∀ ns' other, monitor.holder selection ns' = some other → other ≠ window →
        SearchedBefore ns ns'

/-- No namespace but this one sees any change of its records. -/
def OthersKept (own : NamespaceId) (monitor monitor' : XSelectionMonitor) : Prop :=
  ∀ selection other, other ≠ own →
    monitor'.owner selection (some other) = monitor.owner selection (some other)

theorem eventNamespace_of_ownsFirst (h : monitor.OwnsFirst selection own) {other : NamespaceId}
    (hfound : monitor.namespaceForExistingSelection selection = some other) : other = own := by
  obtain ⟨howns, hfirst⟩ := first_of_namespaceForExistingSelection hfound
  obtain ⟨hown, he | hlt⟩ := h other howns
  · exact he
  · by_contra hne
    exact OrientedCmp.not_lt_of_lt hlt (hfirst own hown (Ne.symm hne))

theorem othersKept_applyEvent {event : XSelectionEvent}
    (h : ∀ other, monitor.eventNamespace windows event.selection event.owner = some other →
      other = own) :
    OthersKept own monitor (monitor.applyEvent event windows).2 := by
  intro selection other hne
  refine owner_applyEvent_of_ne (fun he => ?_) selection
  exact hne (h other he.symm)

theorem holder_clearOwner (selection : UInt32) (ns : Option NamespaceId) :
    (monitor.clearOwner windows kind released).holder selection ns =
      if selection = released.selection ∧
          ns = monitor.namespaceForExistingSelection released.selection then none
      else monitor.holder selection ns := by
  unfold clearOwner holder
  split
  · rename_i he
    obtain ⟨rfl, rfl⟩ := he
    obtain ⟨record, hrecord, howner⟩ :=
      owner_applyEvent_self monitor (clearEvent kind released) windows
    change (monitor.applyEvent (clearEvent kind released) windows).2.owner released.selection
      (monitor.namespaceForExistingSelection released.selection) = some record at hrecord
    rw [hrecord]
    exact howner
  · rename_i hne
    by_cases hs : selection = released.selection
    · rw [owner_applyEvent_of_ne]
      exact fun hn => hne ⟨hs, hn⟩
    · rw [owner_applyEvent_of_selection_ne hs]

/-- A clear of a selection the window owns takes a record of the window. -/
theorem holder_searched (h : monitor.ClearsOwn own window)
    (hns : monitor.holder selection ns = some window) :
    monitor.holder selection (monitor.namespaceForExistingSelection selection) = some window := by
  cases hfound : monitor.namespaceForExistingSelection selection with
  | none =>
    cases ns with
    | none => exact hns
    | some other =>
      have hnot := not_owns_of_namespaceForExistingSelection hfound other
      exact absurd (by simp [Owns, hns]) hnot
  | some found =>
    obtain ⟨howns, hfirst⟩ := first_of_namespaceForExistingSelection hfound
    obtain ⟨other, hother⟩ := Option.isSome_iff_exists.mp howns
    by_cases he : other = window
    · rw [hother, he]
    · have hbefore := (h selection ns hns).2 (some found) other hother he
      cases ns with
      | none => exact hbefore.elim
      | some mine =>
        have hne : mine ≠ found := by
          rintro rfl
          rw [hns] at hother
          exact he (Option.some.inj hother).symm
        have hmine : monitor.Owns selection (some mine) := by simp [Owns, hns]
        exact absurd (hfirst mine hmine hne) (OrientedCmp.not_lt_of_lt hbefore)

/-- What a loop of clears still has to release, counted by selection. -/
def heldKeys (monitor : XSelectionMonitor) (own : NamespaceId) (window : XResourceId)
    (selection : UInt32) : Finset (Option NamespaceId) :=
  ({some own, none} : Finset (Option NamespaceId)).filter fun ns =>
    monitor.holder selection ns = some window

theorem mem_heldKeys (h : monitor.ClearsOwn own window) :
    ns ∈ monitor.heldKeys own window selection ↔ monitor.holder selection ns = some window := by
  unfold heldKeys
  rw [Finset.mem_filter]
  refine ⟨fun hns => hns.2, fun hns => ⟨?_, hns⟩⟩
  have hns := (h selection ns hns).1
  simpa using hns

theorem ClearsOwn.clearOwner (h : monitor.ClearsOwn own window) :
    (monitor.clearOwner windows kind released).ClearsOwn own window := by
  intro selection ns hns
  rw [holder_clearOwner] at hns
  split at hns
  · cases hns
  · obtain ⟨hown, hbefore⟩ := h selection ns hns
    refine ⟨hown, fun ns' other hother hne => ?_⟩
    rw [holder_clearOwner] at hother
    split at hother
    · cases hother
    · exact hbefore ns' other hother hne

theorem heldKeys_clearOwner (h : monitor.ClearsOwn own window) :
    (monitor.clearOwner windows kind released).heldKeys own window selection =
      if selection = released.selection then
        (monitor.heldKeys own window selection).erase
          (monitor.namespaceForExistingSelection selection)
      else monitor.heldKeys own window selection := by
  ext ns
  rw [mem_heldKeys h.clearOwner, holder_clearOwner]
  by_cases hs : selection = released.selection
  · subst hs
    rw [if_pos rfl, Finset.mem_erase, mem_heldKeys h]
    by_cases hn : ns = monitor.namespaceForExistingSelection released.selection <;> simp [hn]
  · rw [if_neg (fun he => hs he.1), if_neg hs, mem_heldKeys h]

/-- The loop releases one record of the window per round until none is left. -/
theorem clears_loop (rest : List XSelectionOwnerRecord) (h : monitor.ClearsOwn own window)
    (hcount : ∀ selection, (monitor.heldKeys own window selection).card =
      rest.countP fun record => record.selection = selection) :
    OthersKept own monitor (rest.foldl (clearOwner windows kind) monitor) ∧
      ∀ selection ns,
        (rest.foldl (clearOwner windows kind) monitor).holder selection ns ≠ some window := by
  induction rest generalizing monitor with
  | nil =>
    refine ⟨fun _ _ _ => rfl, fun selection ns hns => ?_⟩
    have hnone := Finset.card_eq_zero.mp (hcount selection)
    have hmem := (mem_heldKeys h).mpr hns
    rw [hnone] at hmem
    simp at hmem
  | cons released rest ih =>
    -- The count says that the window still owns the selection of this round's record.
    have hpos : 0 < (monitor.heldKeys own window released.selection).card := by
      rw [hcount released.selection]
      simp
    obtain ⟨ns, hns⟩ := Finset.card_pos.mp hpos
    have htaken := holder_searched h ((mem_heldKeys h).mp hns)
    have hown := (h _ _ htaken).1
    have hkept : OthersKept own monitor (monitor.clearOwner windows kind released) := by
      refine othersKept_applyEvent fun other hother => ?_
      change monitor.namespaceForExistingSelection released.selection = some other at hother
      rw [hother] at hown
      simpa using hown
    have hnext : ∀ selection,
        ((monitor.clearOwner windows kind released).heldKeys own window selection).card =
          rest.countP fun record => record.selection = selection := by
      intro selection
      have hcount := hcount selection
      rw [heldKeys_clearOwner h]
      by_cases hs : selection = released.selection
      · subst hs
        rw [if_pos rfl, Finset.card_erase_of_mem ((mem_heldKeys h).mpr htaken), hcount]
        simp
      · rw [if_neg hs, hcount]
        simp [Ne.symm hs]
    obtain ⟨hrest, hfree⟩ := ih h.clearOwner hnext
    refine ⟨fun selection other hne => ?_, hfree⟩
    rw [List.foldl_cons, hrest selection other hne]
    exact hkept selection other hne

/-- The records collected for a window, counted by selection, are those it holds. -/
theorem card_heldKeys (h : monitor.ClearsOwn own window) (selection : UInt32) :
    (monitor.heldKeys own window selection).card =
      ((Ordered.values monitor.owners).filter (·.owner = some window)).countP
        fun record => record.selection = selection := by
  rw [List.countP_eq_length_filter]
  set held := ((Ordered.values monitor.owners).filter (·.owner = some window)).filter
    fun record => record.selection = selection with hheld
  have hmem : ∀ record, record ∈ held ↔
      monitor.owner selection record.namespaceId = some record ∧ record.owner = some window := by
    intro record
    simp only [hheld, List.mem_filter, monitor.keyed.mem_values_iff, decide_eq_true_eq]
    constructor
    · rintro ⟨⟨hget, howner⟩, rfl⟩
      exact ⟨hget, howner⟩
    · rintro ⟨hget, howner⟩
      obtain ⟨rfl, -⟩ := key_of_owner hget
      exact ⟨⟨hget, howner⟩, rfl⟩
  have hkeys : held.map XSelectionOwnerRecord.key =
      (held.map (·.namespaceId)).map (SelectionKey.mk selection) := by
    rw [List.map_map]
    refine List.map_congr_left fun record hrecord => ?_
    obtain ⟨hs, -⟩ := key_of_owner ((hmem record).mp hrecord).1
    simp [XSelectionOwnerRecord.key, hs]
  have hnodup : (held.map (·.namespaceId)).Nodup := by
    refine List.Nodup.of_map (SelectionKey.mk selection) ?_
    rw [← hkeys]
    exact (monitor.keyed.nodup_values.filter _).filter _
  have hset : (held.map (·.namespaceId)).toFinset = monitor.heldKeys own window selection := by
    ext ns
    rw [List.mem_toFinset, List.mem_map, mem_heldKeys h, holder_eq_some]
    constructor
    · rintro ⟨record, hrecord, rfl⟩
      exact ⟨record, (hmem record).mp hrecord⟩
    · rintro ⟨record, hget, howner⟩
      obtain ⟨-, rfl⟩ := key_of_owner hget
      exact ⟨record, (hmem record).mpr ⟨hget, howner⟩, rfl⟩
  rw [← hset, List.toFinset_card_of_nodup hnodup, List.length_map]

theorem clearWindowOwner_isolated (windows : XWindowTable) (kind : XSelectionChangeKind)
    (h : monitor.ClearsOwn own window) :
    OthersKept own monitor (monitor.clearWindowOwner window windows kind) ∧
      ∀ selection ns,
        (monitor.clearWindowOwner window windows kind).holder selection ns ≠ some window :=
  clears_loop _ h (card_heldKeys h)

/-- The same condition read off the stored records. -/
def ClearsOwnRecords (monitor : XSelectionMonitor) (own : NamespaceId) (window : XResourceId) :
    Prop :=
  ∀ record ∈ Ordered.values monitor.owners, record.owner = some window →
    (record.namespaceId = some own ∨ record.namespaceId = none) ∧
      ∀ other ∈ Ordered.values monitor.owners, other.selection = record.selection →
        other.owner.isSome → other.owner ≠ some window →
          SearchedBefore record.namespaceId other.namespaceId

instance : DecidableRel SearchedBefore
  | some a, some b => inferInstanceAs (Decidable (compare a b = .lt))
  | some _, none => isTrue trivial
  | none, _ => isFalse id

instance : Decidable (monitor.ClearsOwnRecords own window) :=
  inferInstanceAs (Decidable (∀ record ∈ _, _))

theorem clearsOwn_of_records (h : monitor.ClearsOwnRecords own window) :
    monitor.ClearsOwn own window := by
  intro selection ns hns
  obtain ⟨record, hget, howner⟩ := holder_eq_some.mp hns
  obtain ⟨rfl, rfl⟩ := key_of_owner hget
  obtain ⟨hown, hbefore⟩ := h record (monitor.keyed.mem_values_iff.mpr hget) howner
  refine ⟨hown, fun ns' window' hns' hne => ?_⟩
  obtain ⟨other, hget', howner'⟩ := holder_eq_some.mp hns'
  obtain ⟨hs, rfl⟩ := key_of_owner hget'
  rw [← hs] at hget'
  refine hbefore other (monitor.keyed.mem_values_iff.mpr hget') hs (by simp [howner']) ?_
  rw [howner']
  exact fun he => hne (Option.some.inj he)

end XSelectionMonitor

namespace XAuthorityRuntime

open XSelectionMonitor

variable {runtime : XAuthorityRuntime} {ns : NamespaceId} {window : XResourceId}

/-- The window is one the namespace may name in its requests. -/
def Names (runtime : XAuthorityRuntime) (ns : NamespaceId) (window : XResourceId) : Prop :=
  ∃ record, runtime.resources.lookup ns window .window = .ok record

/-- The call leaves the other namespaces' records alone, and a destroyed window owns nothing. -/
def SelectionsIsolated (runtime : XAuthorityRuntime) : RuntimeOp → Prop
  | .apply ⟨transaction, ns, .setSelectionOwner selection owner timestamp selectionTime kind⟩ =>
    OthersKept ns runtime.selections
      (runtime.apply ⟨transaction, ns,
        .setSelectionOwner selection owner timestamp selectionTime kind⟩).2.selections
  | .destroyWindow ns window =>
    OthersKept ns runtime.selections (runtime.step (.destroyWindow ns window)).selections ∧
      ∀ surface runtime', runtime.destroyWindow ns window = .ok (surface, runtime') →
        ∀ selection ns' record, runtime'.selections.owner selection ns' = some record →
          record.owner ≠ some window
  | _ => True

/-- The new owner is a window of the namespace; where no window says so, the search finds it. -/
def FilesUnder (runtime : XAuthorityRuntime) (ns : NamespaceId) (selection : UInt32)
    (owner : Option XResourceId) : Prop :=
  match owner.bind runtime.windows.get with
  | some record => record.namespaceId = ns
  | none => runtime.selections.OwnsFirst selection ns

/-- What the search for a record must meet for the call to keep to its own namespace. -/
def KeepsToOwn (runtime : XAuthorityRuntime) : RuntimeOp → Prop
  | .apply ⟨_, ns, .setSelectionOwner selection owner _ _ _⟩ =>
    (∀ window, owner = some window → runtime.Names ns window) →
      runtime.FilesUnder ns selection owner
  | .destroyWindow ns window =>
    runtime.Names ns window → (runtime.windows.get window).isSome →
      runtime.selections.ClearsOwn ns window
  | _ => True

theorem setSelectionOwner_ok {transaction : TransactionId} {event : XSelectionEvent}
    {response : XAuthorityResponsePacket} {runtime' : XAuthorityRuntime}
    (h : runtime.setSelectionOwner transaction ns event = .ok (response, runtime')) :
    (∀ window, event.owner = some window → runtime.Names ns window) ∧
      runtime'.selections = (runtime.selections.applyEvent event runtime.windows).2 := by
  simp only [setSelectionOwner, Fallible.bind_eq_ok, Fallible.pure_eq_ok] at h
  obtain ⟨_, hnames, he⟩ := h
  obtain ⟨-, rfl⟩ := Prod.mk.inj he
  refine ⟨fun window hw => ?_, rfl⟩
  rw [hw, Option.elim_some, Fallible.mapError_eq_ok, Fallible.map_eq_ok] at hnames
  obtain ⟨record, hlookup, -⟩ := hnames
  exact ⟨record, hlookup⟩

theorem destroyWindow_ok {surface : SurfaceId} {runtime' : XAuthorityRuntime}
    (h : runtime.destroyWindow ns window = .ok (surface, runtime')) :
    runtime.Names ns window ∧ (runtime.windows.get window).isSome ∧
      runtime'.selections = runtime.selections.clearWindowOwner window runtime.windows
        .selectionWindowDestroyed := by
  simp only [destroyWindow, Fallible.bind_eq_ok, Fallible.mapError_eq_ok,
    Fallible.pure_eq_ok] at h
  obtain ⟨record, hlookup, found, hfound, destroyed, -, he⟩ := h
  obtain ⟨-, rfl⟩ := Prod.mk.inj he
  refine ⟨⟨record, hlookup⟩, ?_, rfl⟩
  cases hget : runtime.windows.get window with
  | none => simp [hget] at hfound
  | some record => rfl

theorem eventNamespace_of_filesUnder {selection : UInt32} {owner : Option XResourceId}
    {other : NamespaceId} (hkeeps : runtime.FilesUnder ns selection owner)
    (h : runtime.selections.eventNamespace runtime.windows selection owner = some other) :
    other = ns := by
  unfold eventNamespace at h
  unfold FilesUnder at hkeeps
  cases hrecord : owner.bind runtime.windows.get with
  | some record =>
    simp only [hrecord, Option.map_some, Option.some_or, Option.some.injEq] at h hkeeps
    rw [← h, hkeeps]
  | none =>
    simp only [hrecord, Option.map_none, Option.none_or] at h hkeeps
    exact eventNamespace_of_ownsFirst hkeeps h

theorem filesUnder_of_window {selection : UInt32} {owner : Option XResourceId}
    (h : (owner.bind runtime.windows.get).map (·.namespaceId) = some ns) :
    runtime.FilesUnder ns selection owner := by
  obtain ⟨record, hrecord, hns⟩ := Option.map_eq_some_iff.mp h
  unfold FilesUnder
  rw [hrecord]
  exact hns

/-- One call that meets the condition keeps to its own namespace. -/
theorem isolated_of_keepsToOwn {op : RuntimeOp} (h : runtime.KeepsToOwn op) :
    runtime.SelectionsIsolated op := by
  cases op with
  | apply request =>
    obtain ⟨transaction, ns, kind⟩ := request
    cases kind with
    | setSelectionOwner selection owner timestamp selectionTime kind =>
      simp only [SelectionsIsolated, apply, applyChecked, answer]
      cases hset : runtime.setSelectionOwner transaction ns
          ⟨selection, owner, timestamp, selectionTime, kind⟩ with
      | error error => exact fun _ _ _ => rfl
      | ok result =>
        obtain ⟨response, runtime'⟩ := result
        obtain ⟨hnames, hselections⟩ := setSelectionOwner_ok hset
        simp only [hselections]
        exact othersKept_applyEvent fun other => eventNamespace_of_filesUnder (h hnames)
    | _ => trivial
  | destroyWindow ns window =>
    simp only [SelectionsIsolated, step]
    cases hdestroy : runtime.destroyWindow ns window with
    | error error => exact ⟨fun _ _ _ => rfl, fun _ _ he => by cases he⟩
    | ok result =>
      obtain ⟨surface, runtime'⟩ := result
      obtain ⟨hnames, hknown, hselections⟩ := destroyWindow_ok hdestroy
      obtain ⟨hkept, hfree⟩ := clearWindowOwner_isolated runtime.windows
        .selectionWindowDestroyed (h hnames hknown)
      rw [← hselections] at hkept hfree
      refine ⟨hkept, ?_⟩
      rintro surface' runtime'' he selection ns' record hrecord howner
      cases he
      exact hfree selection ns' (holder_eq_some.mpr ⟨record, hrecord, howner⟩)
  | _ => trivial

/-- A client's disconnect is a run of the calls that free its resources. -/
theorem releaseClientResourceRange_exec (runtime : XAuthorityRuntime) (ns : NamespaceId)
    (range : XWireClientResourceRange) :
    ∃ ops, (runtime.releaseClientResourceRange ns range).2 = Run.exec step runtime ops := by
  unfold releaseClientResourceRange
  split
  · exact ⟨[], rfl⟩
  · refine Run.tryEach_exec (fun t record t' h => ?_) _ _
    unfold releaseRecord at h
    split at h
    · obtain ⟨⟨surface, _⟩, hdestroy, rfl⟩ := Fallible.map_eq_ok.mp h
      exact ⟨.destroyWindow ns record.id, by simp [step, hdestroy, Except.toOption]⟩
    · exact ⟨.freeResource .pixmap ns record.id, by
        simp only [step, show freeResource .pixmap t ns record.id = .ok t' from h]
        rfl⟩
    · exact ⟨.freeResource .font ns record.id, by
        simp only [step, show freeResource .font t ns record.id = .ok t' from h]
        rfl⟩
    · exact ⟨.freeResource .cursor ns record.id, by
        simp only [step, show freeResource .cursor t ns record.id = .ok t' from h]
        rfl⟩
    all_goals exact ⟨.dropResource record.id, (Except.ok.inj h).symm⟩

/-- In a run whose calls find their own namespace's records first, no namespace touches
another's selections. -/
theorem selections_isolated {ops : List RuntimeOp} (h : Run.Guarded step KeepsToOwn new ops) :
    Run.Guarded step SelectionsIsolated new ops :=
  fun before op rest he => isolated_of_keepsToOwn (h before op rest he)

section Session

/-- A client of the namespace creates a window. -/
def openWindow (ns : NamespaceId) (window : UInt64) (surface : UInt32) : RuntimeOp :=
  .apply ⟨⟨1⟩, ns, .createWindow (.new window 1) ⟨surface, 1⟩ ⟨0, 0, 8, 8⟩ ⟨none, none⟩ 1⟩

/-- A client of the namespace makes a window, or none, the owner of the first selection. -/
def claimSelection (ns : NamespaceId) (owner : Option XResourceId) (time : UInt32) : RuntimeOp :=
  .apply ⟨⟨2⟩, ns, .setSelectionOwner 1 owner time time .setOwner⟩

/-- Two namespaces each own the selection through a window of their own. -/
def twoOwners : List RuntimeOp :=
  [openWindow ⟨1⟩ 0x400001 1, openWindow ⟨2⟩ 0x600001 2,
    claimSelection ⟨1⟩ (some (.new 0x400001 1)) 10, claimSelection ⟨2⟩ (some (.new 0x600001 1)) 11]

/-- Both namespaces take the selection and the one with the smaller id destroys its window. -/
theorem selections_isolated_two_owners :
    Run.Guarded step KeepsToOwn new (twoOwners ++ [.destroyWindow ⟨1⟩ (.new 0x400001 1)]) ∧
      Run.Guarded step SelectionsIsolated new
        (twoOwners ++ [.destroyWindow ⟨1⟩ (.new 0x400001 1)]) := by
  have hguard : Run.Guarded step KeepsToOwn new
      (twoOwners ++ [.destroyWindow ⟨1⟩ (.new 0x400001 1)]) := by
    refine .cons trivial (.cons trivial (.cons ?_ (.cons ?_ (.cons ?_ Run.guarded_nil))))
    · exact fun _ => filesUnder_of_window (by decide +kernel)
    · exact fun _ => filesUnder_of_window (by decide +kernel)
    · intro _ _
      exact clearsOwn_of_records (by decide +kernel)
  exact ⟨hguard, selections_isolated hguard⟩

/-- The namespace with the larger id gives the selection up, and the other one loses it. -/
theorem foreign_owner_cleared :
    ¬ SelectionsIsolated (after twoOwners) (claimSelection ⟨2⟩ none 12) := by
  intro h
  have hlost := h 1 ⟨1⟩ (by decide)
  revert hlost
  decide +kernel

end Session
end XAuthorityRuntime
end Sophia.Authority
