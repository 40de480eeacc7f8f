import Sophia.Lib.Ordered
import Sophia.Lib.Pick
import Sophia.Authority.Resources

/-! The selection monitor: who owns which selection in which namespace. -/
namespace Sophia.Authority

open Std Sophia.Protocol

inductive XSelectionChangeKind where
  | setOwner
  | clearOwner
  | selectionWindowDestroyed
  | selectionClientClosed
  | unknown
  deriving DecidableEq, Repr

structure XSelectionEvent where
  selection : UInt32
  owner : Option XResourceId
  timestamp : UInt32
  selectionTimestamp : UInt32
  kind : XSelectionChangeKind
  deriving DecidableEq, Repr

structure SelectionKey where
  selection : UInt32
  namespaceId : Option NamespaceId
  deriving DecidableEq, Repr

namespace SelectionKey

instance : Ord SelectionKey := ⟨compareLex (compareOn selection) (compareOn namespaceId)⟩

instance : TransOrd SelectionKey :=
  inferInstanceAs (TransCmp (compareLex (compareOn selection) (compareOn namespaceId)))

instance : LawfulEqOrd SelectionKey where
  eq_of_compare {a b} h := by
    obtain ⟨hs, hn⟩ := compareLex_eq_eq.mp h
    cases a
    cases b
    congr 1
    · exact LawfulEqOrd.eq_of_compare hs
    · exact LawfulEqOrd.eq_of_compare hn

theorem compare_same (selection : UInt32) (a b : Option NamespaceId) :
    compare (⟨selection, a⟩ : SelectionKey) ⟨selection, b⟩ = compare a b := by
  have hself : compare selection selection = .eq := ReflOrd.compare_self
  show (compare selection selection).then (compare a b) = compare a b
  rw [hself]
  rfl

end SelectionKey

structure XSelectionOwnerRecord where
  selection : UInt32
  namespaceId : Option NamespaceId
  owner : Option XResourceId
  generation : UInt64
  timestamp : UInt32
  selectionTimestamp : UInt32
  deriving DecidableEq, Repr

def XSelectionOwnerRecord.key (record : XSelectionOwnerRecord) : SelectionKey :=
  ⟨record.selection, record.namespaceId⟩

structure XSelectionOwnerUpdate where
  previous : Option XSelectionOwnerRecord
  current : XSelectionOwnerRecord
  kind : XSelectionChangeKind

/-- The owner records, each stored under the selection and namespace it names. -/
structure XSelectionMonitor where
  owners : ExtTreeMap SelectionKey XSelectionOwnerRecord
  keyed : Ordered.KeyedBy XSelectionOwnerRecord.key owners

namespace XSelectionMonitor

def new : XSelectionMonitor := ⟨∅, Ordered.keyedBy_empty⟩

def owner (monitor : XSelectionMonitor) (selection : UInt32) (ns : Option NamespaceId) :
    Option XSelectionOwnerRecord :=
  monitor.owners[(⟨selection, ns⟩ : SelectionKey)]?

def currentOwnerForSelection (monitor : XSelectionMonitor) (selection : UInt32) :
    Option XSelectionOwnerRecord :=
  Pick.maxByKey (·.generation.toNat)
    ((Ordered.values monitor.owners).filter fun record =>
      record.selection = selection ∧ record.owner.isSome)

def namespaceForExistingSelection (monitor : XSelectionMonitor) (selection : UInt32) :
    Option NamespaceId :=
  monitor.owners.toList.findSome? fun (key, record) =>
    if key.selection = selection ∧ record.owner.isSome then key.namespaceId else none

def record (monitor : XSelectionMonitor) (current : XSelectionOwnerRecord) : XSelectionMonitor :=
  ⟨monitor.owners.insert current.key current, monitor.keyed.insert current⟩

/-- The namespace an event is filed under: its owner's, or the first that owns the selection. -/
def eventNamespace (monitor : XSelectionMonitor) (windows : XWindowTable) (selection : UInt32)
    (owner : Option XResourceId) : Option NamespaceId :=
  ((owner.bind windows.get).map (·.namespaceId)).or
    (monitor.namespaceForExistingSelection selection)

def applyEvent (monitor : XSelectionMonitor) (event : XSelectionEvent) (windows : XWindowTable) :
    XSelectionOwnerUpdate × XSelectionMonitor :=
  let namespaceId := monitor.eventNamespace windows event.selection event.owner
  let previous := monitor.owner event.selection namespaceId
  let current : XSelectionOwnerRecord :=
    { selection := event.selection
      namespaceId
      owner := event.owner
      generation := previous.elim 1 fun record => saturatingAdd record.generation 1
      timestamp := event.timestamp
      selectionTimestamp := event.selectionTimestamp }
  ({ previous, current, kind := event.kind }, monitor.record current)

/-- The event that releases one record of a window that goes away. -/
def clearEvent (kind : XSelectionChangeKind) (owner : XSelectionOwnerRecord) : XSelectionEvent where
  selection := owner.selection
  owner := none
  timestamp := owner.timestamp
  selectionTimestamp := owner.selectionTimestamp
  kind := kind

def clearOwner (windows : XWindowTable) (kind : XSelectionChangeKind) (monitor : XSelectionMonitor)
    (owner : XSelectionOwnerRecord) : XSelectionMonitor :=
  (monitor.applyEvent (clearEvent kind owner) windows).2

def clearWindowOwner (monitor : XSelectionMonitor) (window : XResourceId) (windows : XWindowTable)
    (kind : XSelectionChangeKind) : XSelectionMonitor :=
  ((Ordered.values monitor.owners).filter (·.owner = some window)).foldl
    (clearOwner windows kind) monitor

/-- The window that owns the selection in the namespace. -/
def holder (monitor : XSelectionMonitor) (selection : UInt32) (ns : Option NamespaceId) :
    Option XResourceId :=
  (monitor.owner selection ns).bind (·.owner)

def Owns (monitor : XSelectionMonitor) (selection : UInt32) (ns : Option NamespaceId) : Prop :=
  (monitor.holder selection ns).isSome

variable {monitor : XSelectionMonitor} {windows : XWindowTable} {event : XSelectionEvent}
  {selection : UInt32} {ns : Option NamespaceId} {record current : XSelectionOwnerRecord}

theorem key_of_owner (h : monitor.owner selection ns = some record) :
    record.selection = selection ∧ record.namespaceId = ns := by
  have hk := monitor.keyed _ _ h
  simpa [XSelectionOwnerRecord.key] using hk

theorem holder_eq_some {window : XResourceId} :
    monitor.holder selection ns = some window ↔
      ∃ record, monitor.owner selection ns = some record ∧ record.owner = some window :=
  Option.bind_eq_some_iff

theorem owns_iff : monitor.Owns selection ns ↔
    ∃ record, monitor.owner selection ns = some record ∧ record.owner.isSome := by
  unfold Owns holder
  cases monitor.owner selection ns <;> simp

theorem owner_record (selection : UInt32) (ns : Option NamespaceId) :
    (monitor.record current).owner selection ns =
      if current.key = ⟨selection, ns⟩ then some current else monitor.owner selection ns := by
  unfold owner record
  rw [ExtTreeMap.getElem?_insert]
  simp only [LawfulEqCmp.compare_eq_iff_eq]

theorem owner_applyEvent_of_ne (hne : ns ≠ monitor.eventNamespace windows event.selection event.owner)
    (selection : UInt32) :
    (monitor.applyEvent event windows).2.owner selection ns = monitor.owner selection ns := by
  unfold applyEvent
  rw [owner_record, if_neg]
  intro he
  exact hne (congrArg SelectionKey.namespaceId he).symm

theorem owner_applyEvent_of_selection_ne (hne : selection ≠ event.selection) :
    (monitor.applyEvent event windows).2.owner selection ns = monitor.owner selection ns := by
  unfold applyEvent
  rw [owner_record, if_neg]
  intro he
  exact hne (congrArg SelectionKey.selection he).symm

/-- The record an event writes names the event's owner and times. -/
theorem owner_applyEvent_self (monitor : XSelectionMonitor) (event : XSelectionEvent)
    (windows : XWindowTable) :
    ∃ record, (monitor.applyEvent event windows).2.owner event.selection
        (monitor.eventNamespace windows event.selection event.owner) = some record ∧
      record.owner = event.owner := by
  unfold applyEvent
  rw [owner_record, if_pos (by rfl)]
  exact ⟨_, rfl, rfl⟩

/-- The searched namespace owns the selection, and none with a smaller id does. -/
theorem first_of_namespaceForExistingSelection {found : NamespaceId}
    (h : monitor.namespaceForExistingSelection selection = some found) :
    monitor.Owns selection (some found) ∧
      ∀ other, monitor.Owns selection (some other) → other ≠ found → compare found other = .lt := by
  have hsorted : monitor.owners.toList.Pairwise fun a b => compare a.1 b.1 = .lt :=
    ExtTreeMap.ordered_keys_toList
  obtain ⟨⟨key, record⟩, hmem, hfound, hfirst⟩ := Pick.first_of_findSome? hsorted h
  have hget := ExtTreeMap.mem_toList_iff_getElem?_eq_some.mp hmem
  simp only [Option.ite_none_right_eq_some] at hfound
  obtain ⟨⟨rfl, howned⟩, hkey⟩ := hfound
  have hkey : key = ⟨key.selection, some found⟩ := by rw [← hkey]
  refine ⟨owns_iff.mpr ⟨record, ?_, howned⟩, ?_⟩
  · rw [hkey] at hget
    exact hget
  · intro other hother hne
    obtain ⟨record', hget', howned'⟩ := owns_iff.mp hother
    have hmem' := ExtTreeMap.mem_toList_iff_getElem?_eq_some.mpr hget'
    have hkeys : (⟨key.selection, some other⟩ : SelectionKey) ≠ key := by
      rw [hkey]
      simpa using hne
    have hlt := hfirst _ hmem' (by simp [howned']) fun he => hkeys (congrArg Prod.fst he)
    rw [hkey, SelectionKey.compare_same] at hlt
    exact hlt

theorem not_owns_of_namespaceForExistingSelection
    (h : monitor.namespaceForExistingSelection selection = none) (other : NamespaceId) :
    ¬ monitor.Owns selection (some other) := by
  intro hother
  obtain ⟨record, hget, howned⟩ := owns_iff.mp hother
  have hmem := ExtTreeMap.mem_toList_iff_getElem?_eq_some.mpr hget
  have hnone := List.findSome?_eq_none_iff.mp h _ hmem
  simp [howned] at hnone

/-- The first record's generation is larger, or equal with the later namespace. -/
def Supersedes (record other : XSelectionOwnerRecord) : Prop :=
  other.generation < record.generation ∨
    other.generation = record.generation ∧ compare other.namespaceId record.namespaceId = .lt

theorem supersedes_iff_outranks {other : XSelectionOwnerRecord}
    (h : monitor.owner selection ns = some record)
    {ns' : Option NamespaceId} (h' : monitor.owner selection ns' = some other) :
    Supersedes record other ↔
      Pick.Outranks (·.generation.toNat) (fun a b => compare a.key b.key = .lt) record other := by
  obtain ⟨hs, -⟩ := key_of_owner h
  obtain ⟨hs', -⟩ := key_of_owner h'
  simp only [Supersedes, Pick.Outranks, XSelectionOwnerRecord.key, hs, hs',
    SelectionKey.compare_same, UInt64.lt_iff_toNat_lt, UInt64.toNat_inj]

/-- The owner looked up across namespaces is the owned record that supersedes all others. -/
theorem currentOwnerForSelection_eq_some_iff :
    monitor.currentOwnerForSelection selection = some record ↔
      (monitor.owner selection record.namespaceId = some record ∧ record.owner.isSome) ∧
      ∀ ns other, monitor.owner selection ns = some other → other.owner.isSome →
        ns ≠ record.namespaceId → Supersedes record other := by
  have hsorted := List.pairwise_map.mp monitor.keyed.sorted_values
  have hasymm : ∀ a b : XSelectionOwnerRecord, compare a.key b.key = .lt →
      ¬ compare b.key a.key = .lt := by
    intro a b hab hba
    exact OrientedCmp.not_lt_of_lt hab hba
  have hmem : ∀ r : XSelectionOwnerRecord,
      r ∈ (Ordered.values monitor.owners).filter (fun r => r.selection = selection ∧ r.owner.isSome) ↔
        monitor.owner selection r.namespaceId = some r ∧ r.owner.isSome := by
    intro r
    rw [List.mem_filter, monitor.keyed.mem_values_iff]
    constructor
    · rintro ⟨hget, hr⟩
      obtain ⟨rfl, howned⟩ : r.selection = selection ∧ r.owner.isSome := by simpa using hr
      exact ⟨hget, howned⟩
    · rintro ⟨hget, howned⟩
      obtain ⟨rfl, -⟩ := key_of_owner hget
      exact ⟨hget, by simpa using howned⟩
  unfold currentOwnerForSelection
  rw [Pick.maxByKey_eq_some_iff (hsorted.sublist List.filter_sublist) hasymm, hmem]
  refine and_congr_right fun ⟨hget, howned⟩ => ?_
  constructor
  · intro h ns other hother howned' hne
    obtain ⟨-, rfl⟩ := key_of_owner hother
    have hout := h other ((hmem other).mpr ⟨hother, howned'⟩) fun he => hne (by rw [he])
    exact (supersedes_iff_outranks hget hother).mpr hout
  · intro h other hother hne
    obtain ⟨hother, howned'⟩ := (hmem other).mp hother
    refine (supersedes_iff_outranks hget hother).mp (h _ other hother howned' fun he => ?_)
    rw [he, hget] at hother
    exact hne (Option.some.inj hother).symm

end XSelectionMonitor
end Sophia.Authority
