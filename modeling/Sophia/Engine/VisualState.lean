import Sophia.Lib.Keyed
import Sophia.Protocol

/-! The engine's visual-state table and the commit readiness of one surface transaction. -/
namespace Sophia.Engine

open Protocol Std

structure SurfaceVisualStateEntry where
  surface : SurfaceId
  committed : Option CommittedSurfaceState
  pending : Option SurfaceTransaction
  deriving DecidableEq

structure SurfaceVisualStateTable where
  entries : ExtTreeMap SurfaceId SurfaceVisualStateEntry

/-- The committed vector is searched by surface. -/
abbrev find (committed : List CommittedSurfaceState) (s : SurfaceId) :
    Option CommittedSurfaceState :=
  Keyed.lookup CommittedSurfaceState.surface committed s

/-- Overwrite the entry of a surface in place, or push a new one. -/
abbrev upsert (committed : List CommittedSurfaceState) (state : CommittedSurfaceState) :
    List CommittedSurfaceState :=
  Keyed.put CommittedSurfaceState.surface committed state

abbrev NodupSurfaces (committed : List CommittedSurfaceState) : Prop :=
  Keyed.NodupKeys CommittedSurfaceState.surface committed

/-- Dropping surfaces from the vector drops them from the map it stands for. -/
theorem find_filter_notMem (committed : List CommittedSurfaceState) (removed : List SurfaceId)
    (s : SurfaceId) :
    find (committed.filter fun state => state.surface ∉ removed) s =
      if s ∈ removed then none else find committed s := by
  have h : find (committed.filter fun state => decide (state.surface ∉ removed)) s =
      if decide (s ∉ removed) then find committed s else none :=
    Keyed.lookup_filter_key fun k => decide (k ∉ removed)
  by_cases hs : s ∈ removed <;> simpa [hs] using h

namespace SurfaceVisualStateTable

def new : SurfaceVisualStateTable := ⟨∅⟩

def committed (table : SurfaceVisualStateTable) (s : SurfaceId) : Option CommittedSurfaceState :=
  table.entries[s]?.bind (·.committed)

def upsertCommitted (table : SurfaceVisualStateTable) (state : CommittedSurfaceState) :
    SurfaceVisualStateTable :=
  match table.entries[state.surface]? with
  | some entry => ⟨table.entries.insert state.surface { entry with committed := some state }⟩
  | none => ⟨table.entries.insert state.surface ⟨state.surface, some state, none⟩⟩

def fromCommittedStates (states : List CommittedSurfaceState) : SurfaceVisualStateTable :=
  states.foldl upsertCommitted new

theorem committed_upsertCommitted (table : SurfaceVisualStateTable)
    (state : CommittedSurfaceState) (s : SurfaceId) :
    (table.upsertCommitted state).committed s =
      if state.surface = s then some state else table.committed s := by
  unfold upsertCommitted
  split <;> by_cases h : state.surface = s <;>
    simp [committed, ExtTreeMap.getElem?_insert, h]

theorem committed_foldl (states : List CommittedSurfaceState) (table : SurfaceVisualStateTable)
    (hn : NodupSurfaces states) (s : SurfaceId) :
    (states.foldl upsertCommitted table).committed s =
      (find states s).or (table.committed s) := by
  induction states generalizing table with
  | nil => simp
  | cons x xs ih =>
    obtain ⟨hx, hn⟩ := List.nodup_cons.mp (show (x.surface :: xs.map _).Nodup from hn)
    rw [List.foldl_cons, ih _ hn, committed_upsertCommitted]
    simp only [find, Keyed.lookup_cons]
    by_cases h : x.surface = s
    · have hnone : find xs s = none := by
        refine Keyed.lookup_eq_none_iff.mpr ?_
        intro y hy he
        exact hx (List.mem_map.mpr ⟨y, hy, he.trans h.symm⟩)
      simp [h, hnone]
    · simp [h]

/-- On a vector without repeated surfaces the table and the vector agree. -/
theorem committed_fromCommittedStates {states : List CommittedSurfaceState}
    (hn : NodupSurfaces states) (s : SurfaceId) :
    (fromCommittedStates states).committed s = find states s := by
  rw [fromCommittedStates, committed_foldl states new hn]
  simp [new, committed]

end SurfaceVisualStateTable

inductive SurfaceTransactionCommitReadiness where
  | ready
  | invalidSurface
  | emptyGeometry
  | missingBuffer
  | notReady (readiness : SurfaceTransactionReadiness)
  | staleGeneration (current expected : UInt64)
  deriving DecidableEq, Repr

/-- The generation an entry contributes; an absent surface counts as zero. -/
def currentGeneration (state : Option CommittedSurfaceState) : UInt64 :=
  (state.map (·.committedGeneration)).getD 0

@[simp] theorem currentGeneration_none : currentGeneration none = 0 := rfl

@[simp] theorem currentGeneration_some (state : CommittedSurfaceState) :
    currentGeneration (some state) = state.committedGeneration := rfl

def SurfaceVisualStateTable.transactionCommitReadiness (table : SurfaceVisualStateTable)
    (tx : SurfaceTransaction) : SurfaceTransactionCommitReadiness :=
  if !tx.surface.isValid then .invalidSurface
  else if tx.targetGeometry.isEmpty then .emptyGeometry
  else if tx.targetBuffer = .none ∧ table.committed tx.surface = none then .missingBuffer
  else if tx.readiness ≠ .ready then .notReady tx.readiness
  else
    let current := currentGeneration (table.committed tx.surface)
    let expected := tx.previousCommittedGeneration
    if current ≠ expected then .staleGeneration current expected else .ready

/-- What readiness demands, with the committed entry of the surface as a parameter. -/
structure ReadyOver (entry : Option CommittedSurfaceState) (tx : SurfaceTransaction) : Prop where
  valid : tx.surface.isValid = true
  nonempty : tx.targetGeometry.isEmpty = false
  buffered : tx.targetBuffer = .none → entry ≠ none
  ready : tx.readiness = .ready
  generation : currentGeneration entry = tx.previousCommittedGeneration

theorem readiness_ready_iff (table : SurfaceVisualStateTable) (tx : SurfaceTransaction) :
    table.transactionCommitReadiness tx = .ready ↔ ReadyOver (table.committed tx.surface) tx := by
  unfold SurfaceVisualStateTable.transactionCommitReadiness
  constructor
  · intro h
    split at h
    · cases h
    split at h
    · cases h
    split at h
    · cases h
    split at h
    · cases h
    dsimp only at h
    split at h
    · cases h
    constructor <;> simp_all
  · intro h
    have hb : ¬ (tx.targetBuffer = .none ∧ table.committed tx.surface = none) :=
      fun hn => h.buffered hn.1 hn.2
    simp [h.valid, h.nonempty, hb, h.ready, h.generation]

instance (entry : Option CommittedSurfaceState) (tx : SurfaceTransaction) :
    Decidable (ReadyOver entry tx) :=
  decidable_of_iff (tx.surface.isValid = true ∧ tx.targetGeometry.isEmpty = false ∧
      (tx.targetBuffer = .none → entry ≠ none) ∧ tx.readiness = .ready ∧
      currentGeneration entry = tx.previousCommittedGeneration)
    ⟨fun ⟨h₁, h₂, h₃, h₄, h₅⟩ => ⟨h₁, h₂, h₃, h₄, h₅⟩,
      fun h => ⟨h.valid, h.nonempty, h.buffered, h.ready, h.generation⟩⟩

end Sophia.Engine
