import Sophia.Engine.VisualState

/-! Preparing, applying and committing a batch of authority surface transactions. -/
namespace Sophia.Engine

open Protocol

/-- A validated visual-state candidate that has not yet become authoritative. -/
structure PreparedSurfaceCommit where
  commit : TransactionCommit
  baseline : List CommittedSurfaceState
  candidate : List CommittedSurfaceState
  /-- The lookup that applying performs on the candidate cannot fail. -/
  candidate_isSome : ∀ s ∈ commit.appliedSurfaces, (find candidate s).isSome
  deriving DecidableEq

namespace PreparedSurfaceCommit

def transaction (p : PreparedSurfaceCommit) : TransactionId := p.commit.transaction

def isReady (p : PreparedSurfaceCommit) : Bool := p.commit.outcome = .committed

/-- A preparation that failed keeps the baseline as its candidate and applies nothing. -/
def rejected (transaction : TransactionId) (outcome : TransactionOutcome)
    (baseline : List CommittedSurfaceState) : PreparedSurfaceCommit where
  commit := ⟨transaction, outcome, []⟩
  baseline := baseline
  candidate := baseline
  candidate_isSome := by simp

end PreparedSurfaceCommit

/-- The committed state a surface transaction asks for. -/
def nextState (tx : SurfaceTransaction) : CommittedSurfaceState where
  surface := tx.surface
  committedGeneration := saturatingAdd tx.previousCommittedGeneration 1
  geometry := tx.targetGeometry
  buffer := tx.targetBuffer
  damage := tx.damage

@[simp] theorem nextState_surface (tx : SurfaceTransaction) :
    (nextState tx).surface = tx.surface := rfl

/-- The outcome of the validation loop: the first transaction that fails decides. -/
def validateTransactions (transaction : TransactionId) (visualState : SurfaceVisualStateTable) :
    List SurfaceTransaction → TransactionOutcome
  | [] => .committed
  | tx :: rest =>
    if tx.transaction ≠ transaction then .rejectedStaleSurface
    else match visualState.transactionCommitReadiness tx with
      | .ready => validateTransactions transaction visualState rest
      | .notReady .pending | .notReady .timedOut => .timedOut
      | .notReady .failed => .rejectedStaleSurface
      | .invalidSurface | .emptyGeometry | .missingBuffer | .notReady .ready =>
        .rejectedInvalidSurface
      | .staleGeneration _ _ => .rejectedStaleSurface

def nextCommitted (transactions : List SurfaceTransaction)
    (baseline : List CommittedSurfaceState) : List CommittedSurfaceState :=
  Keyed.putAll CommittedSurfaceState.surface baseline (transactions.map nextState)

/-- The last transaction of a surface decides its next state. -/
theorem find_nextCommitted (transactions : List SurfaceTransaction)
    (baseline : List CommittedSurfaceState) (s : SurfaceId) :
    find (nextCommitted transactions baseline) s =
      ((Keyed.lookup SurfaceTransaction.surface transactions.reverse s).map nextState).or
        (find baseline s) := by
  rw [nextCommitted, find, Keyed.lookup_putAll, ← List.map_reverse,
    Keyed.lookup_map nextState_surface]

theorem find_nextCommitted_of_mem {transactions : List SurfaceTransaction} {s : SurfaceId}
    (baseline : List CommittedSurfaceState) (h : ∃ tx ∈ transactions, tx.surface = s) :
    ∃ tx ∈ transactions, tx.surface = s ∧
      find (nextCommitted transactions baseline) s = some (nextState tx) := by
  obtain ⟨tx, htx, hs, he⟩ := Keyed.lookup_reverse_of_exists h
  refine ⟨tx, htx, hs, ?_⟩
  rw [find_nextCommitted, he]
  rfl

theorem find_nextCommitted_of_notMem {transactions : List SurfaceTransaction} {s : SurfaceId}
    (baseline : List CommittedSurfaceState) (h : ∀ tx ∈ transactions, tx.surface ≠ s) :
    find (nextCommitted transactions baseline) s = find baseline s := by
  rw [find_nextCommitted, Keyed.lookup_reverse_eq_none_iff.mpr h]
  rfl

def prepareSurfaceTransactions (transaction : TransactionId)
    (transactions : List SurfaceTransaction) (committed : List CommittedSurfaceState) :
    PreparedSurfaceCommit :=
  let visualState := SurfaceVisualStateTable.fromCommittedStates committed
  match validateTransactions transaction visualState transactions with
  | .committed =>
    { commit := ⟨transaction, .committed, transactions.map (·.surface)⟩
      baseline := committed
      candidate := nextCommitted transactions committed
      candidate_isSome := by
        intro s hs
        obtain ⟨tx, htx, hts⟩ := List.mem_map.mp hs
        obtain ⟨_, _, _, he⟩ := find_nextCommitted_of_mem committed ⟨tx, htx, hts⟩
        simp [he] }
  | outcome => .rejected transaction outcome committed

namespace PreparedSurfaceCommit

/-- The candidate entry of an applied surface. -/
def candidateState (p : PreparedSurfaceCommit) (s : SurfaceId)
    (hs : s ∈ p.commit.appliedSurfaces) : CommittedSurfaceState :=
  (find p.candidate s).get (p.candidate_isSome s hs)

/-- The candidate entries of the applied surfaces, in the order of the batch. -/
def updates (p : PreparedSurfaceCommit) : List CommittedSurfaceState :=
  p.commit.appliedSurfaces.pmap p.candidateState fun _ h => h

/-- The baseline of every touched surface is still authoritative. -/
def TouchedBaselineIsCurrent (p : PreparedSurfaceCommit)
    (committed : List CommittedSurfaceState) : Prop :=
  ∀ s ∈ p.commit.appliedSurfaces, find p.baseline s = find committed s

instance (p : PreparedSurfaceCommit) (committed : List CommittedSurfaceState) :
    Decidable (p.TouchedBaselineIsCurrent committed) :=
  inferInstanceAs (Decidable (∀ s ∈ p.commit.appliedSurfaces, _))

end PreparedSurfaceCommit

def applyPreparedSurfaceCommit (prepared : PreparedSurfaceCommit)
    (committed : List CommittedSurfaceState) :
    TransactionCommit × List CommittedSurfaceState :=
  if !prepared.isReady then (prepared.commit, committed)
  else if ¬ prepared.TouchedBaselineIsCurrent committed then
    (⟨prepared.transaction, .rejectedStaleSurface, []⟩, committed)
  else (prepared.commit, Keyed.putAll CommittedSurfaceState.surface committed prepared.updates)

def commitSurfaceTransactions (transaction : TransactionId)
    (transactions : List SurfaceTransaction) (committed : List CommittedSurfaceState) :
    TransactionCommit × List CommittedSurfaceState :=
  applyPreparedSurfaceCommit (prepareSurfaceTransactions transaction transactions committed)
    committed

section Prepare

variable {transaction : TransactionId} {transactions : List SurfaceTransaction}
  {committed : List CommittedSurfaceState} {s : SurfaceId}

theorem validateTransactions_committed_iff (visualState : SurfaceVisualStateTable) :
    validateTransactions transaction visualState transactions = .committed ↔
      ∀ tx ∈ transactions, tx.transaction = transaction ∧
        visualState.transactionCommitReadiness tx = .ready := by
  induction transactions with
  | nil => simp [validateTransactions]
  | cons tx rest ih =>
    rw [validateTransactions]
    by_cases ht : tx.transaction = transaction
    · simp only [ht, ne_eq, not_true, if_false, List.mem_cons, forall_eq_or_imp, true_and]
      split <;> simp_all
    · simp [ht]

/-- Every transaction of the batch names its id and is ready over the committed vector. -/
def BatchReady (transaction : TransactionId) (transactions : List SurfaceTransaction)
    (committed : List CommittedSurfaceState) : Prop :=
  ∀ tx ∈ transactions, tx.transaction = transaction ∧ ReadyOver (find committed tx.surface) tx

instance : Decidable (BatchReady transaction transactions committed) :=
  inferInstanceAs (Decidable (∀ tx ∈ transactions, _))

theorem validateTransactions_fromCommittedStates (hn : NodupSurfaces committed) :
    validateTransactions transaction (.fromCommittedStates committed) transactions = .committed ↔
      BatchReady transaction transactions committed := by
  rw [validateTransactions_committed_iff]
  constructor
  · intro h tx htx
    obtain ⟨ht, hr⟩ := h tx htx
    rw [readiness_ready_iff, SurfaceVisualStateTable.committed_fromCommittedStates hn] at hr
    exact ⟨ht, hr⟩
  · intro h tx htx
    obtain ⟨ht, hr⟩ := h tx htx
    refine ⟨ht, ?_⟩
    rw [readiness_ready_iff, SurfaceVisualStateTable.committed_fromCommittedStates hn]
    exact hr

@[simp] theorem prepare_baseline :
    (prepareSurfaceTransactions transaction transactions committed).baseline = committed := by
  unfold prepareSurfaceTransactions
  dsimp only
  split <;> rfl

theorem prepare_outcome :
    (prepareSurfaceTransactions transaction transactions committed).commit.outcome =
      validateTransactions transaction (.fromCommittedStates committed) transactions := by
  unfold prepareSurfaceTransactions
  dsimp only
  split
  · simp_all
  · rfl

theorem prepare_isReady_iff (hn : NodupSurfaces committed) :
    (prepareSurfaceTransactions transaction transactions committed).isReady = true ↔
      BatchReady transaction transactions committed := by
  rw [PreparedSurfaceCommit.isReady, decide_eq_true_iff, prepare_outcome,
    validateTransactions_fromCommittedStates hn]

theorem prepare_of_isReady
    (h : (prepareSurfaceTransactions transaction transactions committed).isReady = true) :
    (prepareSurfaceTransactions transaction transactions committed).commit =
        ⟨transaction, .committed, transactions.map (·.surface)⟩ ∧
      (prepareSurfaceTransactions transaction transactions committed).candidate =
        nextCommitted transactions committed := by
  rw [PreparedSurfaceCommit.isReady, decide_eq_true_iff, prepare_outcome] at h
  unfold prepareSurfaceTransactions
  dsimp only
  split
  · exact ⟨rfl, rfl⟩
  · rename_i hne
    exact absurd h hne

theorem prepare_appliedSurfaces_of_not_isReady
    (h : ¬ (prepareSurfaceTransactions transaction transactions committed).isReady = true) :
    (prepareSurfaceTransactions transaction transactions committed).commit.appliedSurfaces = [] := by
  rw [PreparedSurfaceCommit.isReady, decide_eq_true_iff, prepare_outcome] at h
  unfold prepareSurfaceTransactions
  dsimp only
  split
  · rename_i he
    exact absurd he h
  · rfl

/-- A ready preparation holds, for each surface it touches, the state of one of its
transactions, and that transaction was ready over the baseline entry of the surface. -/
theorem prepare_candidate (hn : NodupSurfaces committed)
    (h : (prepareSurfaceTransactions transaction transactions committed).isReady = true)
    (hs : s ∈ (prepareSurfaceTransactions transaction transactions committed).commit.appliedSurfaces) :
    ∃ tx ∈ transactions, tx.surface = s ∧ ReadyOver (find committed s) tx ∧
      find (prepareSurfaceTransactions transaction transactions committed).candidate s =
        some (nextState tx) := by
  have hb := (prepare_isReady_iff hn).mp h
  obtain ⟨hc, hcand⟩ := prepare_of_isReady h
  rw [hc] at hs
  obtain ⟨tx₀, htx₀, hs₀⟩ := List.mem_map.mp hs
  obtain ⟨tx, htx, hts, he⟩ := find_nextCommitted_of_mem committed ⟨tx₀, htx₀, hs₀⟩
  exact ⟨tx, htx, hts, hts ▸ (hb tx htx).2, hcand ▸ he⟩

/-- Each touched surface has the state of one accepted transaction as its candidate, and that
transaction was ready over the baseline entry of the surface. -/
def PreparedFrom (accepted : SurfaceTransaction → Prop) (p : PreparedSurfaceCommit) : Prop :=
  ∀ s ∈ p.commit.appliedSurfaces, ∃ tx, accepted tx ∧ tx.surface = s ∧
    ReadyOver (find p.baseline s) tx ∧ find p.candidate s = some (nextState tx)

theorem preparedFrom_prepare {accepted : SurfaceTransaction → Prop} (hn : NodupSurfaces committed)
    (hacc : ∀ tx ∈ transactions, ReadyOver (find committed tx.surface) tx → accepted tx) :
    PreparedFrom accepted (prepareSurfaceTransactions transaction transactions committed) := by
  intro s hs
  by_cases hr : (prepareSurfaceTransactions transaction transactions committed).isReady = true
  · obtain ⟨tx, htx, rfl, hready, he⟩ := prepare_candidate hn hr hs
    exact ⟨tx, hacc tx htx hready, rfl, by simpa using hready, he⟩
  · rw [prepare_appliedSurfaces_of_not_isReady hr] at hs
    cases hs

theorem PreparedFrom.mono {accepted later : SurfaceTransaction → Prop} {p : PreparedSurfaceCommit}
    (h : PreparedFrom accepted p) (hm : ∀ tx, accepted tx → later tx) : PreparedFrom later p := by
  intro s hs
  obtain ⟨tx, ha, hrest⟩ := h s hs
  exact ⟨tx, hm tx ha, hrest⟩

end Prepare

section Apply

variable {p : PreparedSurfaceCommit} {committed : List CommittedSurfaceState} {s : SurfaceId}

namespace PreparedSurfaceCommit

theorem find_candidateState (hs : s ∈ p.commit.appliedSurfaces) :
    find p.candidate s = some (p.candidateState s hs) := by
  simp [candidateState]

theorem mem_updates_iff {state : CommittedSurfaceState} :
    state ∈ p.updates ↔
      state.surface ∈ p.commit.appliedSurfaces ∧ find p.candidate state.surface = some state := by
  simp only [updates, List.mem_pmap]
  constructor
  · rintro ⟨s, hs, rfl⟩
    have he := find_candidateState hs
    rw [Keyed.key_of_lookup he]
    exact ⟨hs, he⟩
  · rintro ⟨hs, he⟩
    refine ⟨state.surface, hs, ?_⟩
    rw [find_candidateState hs] at he
    exact Option.some.inj he

end PreparedSurfaceCommit

theorem apply_outcome_iff :
    (applyPreparedSurfaceCommit p committed).1.outcome = .committed ↔
      p.isReady = true ∧ p.TouchedBaselineIsCurrent committed := by
  unfold applyPreparedSurfaceCommit
  split
  · simp_all [PreparedSurfaceCommit.isReady]
  · split <;> simp_all [PreparedSurfaceCommit.isReady]

theorem apply_of_committed (h : (applyPreparedSurfaceCommit p committed).1.outcome = .committed) :
    applyPreparedSurfaceCommit p committed =
      (p.commit, Keyed.putAll CommittedSurfaceState.surface committed p.updates) := by
  obtain ⟨hr, hc⟩ := apply_outcome_iff.mp h
  simp [applyPreparedSurfaceCommit, hr, hc]

/-- Any outcome but a commit leaves the committed vector identical. -/
theorem apply_of_not_committed
    (h : (applyPreparedSurfaceCommit p committed).1.outcome ≠ .committed) :
    (applyPreparedSurfaceCommit p committed).2 = committed := by
  unfold applyPreparedSurfaceCommit at h ⊢
  split
  · rfl
  · split
    · rfl
    · simp_all [PreparedSurfaceCommit.isReady]

theorem nodup_apply (hn : NodupSurfaces committed) :
    NodupSurfaces (applyPreparedSurfaceCommit p committed).2 := by
  by_cases h : (applyPreparedSurfaceCommit p committed).1.outcome = .committed
  · rw [apply_of_committed h]
    exact hn.putAll
  · rwa [apply_of_not_committed h]

/-- A touched surface takes its candidate state. -/
theorem find_apply_touched (h : (applyPreparedSurfaceCommit p committed).1.outcome = .committed)
    (hs : s ∈ p.commit.appliedSurfaces) :
    find (applyPreparedSurfaceCommit p committed).2 s = find p.candidate s := by
  have he := PreparedSurfaceCommit.find_candidateState hs
  have hk := Keyed.key_of_lookup he
  rw [apply_of_committed h]
  have hmem : p.candidateState s hs ∈ p.updates :=
    PreparedSurfaceCommit.mem_updates_iff.mpr ⟨hk.symm ▸ hs, hk.symm ▸ he⟩
  obtain ⟨v, hv, hvs, hl⟩ := Keyed.lookup_putAll_of_exists (l := committed) ⟨_, hmem, hk⟩
  obtain ⟨_, hc⟩ := PreparedSurfaceCommit.mem_updates_iff.mp hv
  rw [hvs] at hc
  exact hl.trans hc.symm

theorem find_apply_untouched (hs : s ∉ p.commit.appliedSurfaces) :
    find (applyPreparedSurfaceCommit p committed).2 s = find committed s := by
  by_cases h : (applyPreparedSurfaceCommit p committed).1.outcome = .committed
  · rw [apply_of_committed h]
    refine Keyed.lookup_putAll_of_forall_ne ?_
    intro v hv he
    exact hs (he ▸ (PreparedSurfaceCommit.mem_updates_iff.mp hv).1)
  · rw [apply_of_not_committed h]

/-- The entries of all other surfaces keep their place, their order and their content. -/
theorem filter_apply :
    (applyPreparedSurfaceCommit p committed).2.filter
        (fun state => state.surface ∉ p.commit.appliedSurfaces) =
      committed.filter (fun state => state.surface ∉ p.commit.appliedSurfaces) := by
  by_cases h : (applyPreparedSurfaceCommit p committed).1.outcome = .committed
  · rw [apply_of_committed h]
    refine Keyed.filter_putAll _ ?_
    intro v hv w hw
    have hs := (PreparedSurfaceCommit.mem_updates_iff.mp hv).1
    simpa [hw] using hs
  · rw [apply_of_not_committed h]

end Apply

/-- Committing directly is ready exactly when the batch is: its own baseline is current. -/
theorem commit_outcome_iff {transaction : TransactionId} {transactions : List SurfaceTransaction}
    {committed : List CommittedSurfaceState} (hn : NodupSurfaces committed) :
    (commitSurfaceTransactions transaction transactions committed).1.outcome = .committed ↔
      BatchReady transaction transactions committed := by
  rw [commitSurfaceTransactions, apply_outcome_iff, prepare_isReady_iff hn]
  constructor
  · exact And.left
  · intro h
    refine ⟨h, ?_⟩
    intro s _
    rw [prepare_baseline]

end Sophia.Engine
