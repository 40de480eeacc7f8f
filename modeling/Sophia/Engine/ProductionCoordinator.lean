import Sophia.Engine.AuthorityTransaction

/-! The production coordinator's three ways into the committed vector. -/
namespace Sophia.Engine

open Protocol

structure AuthorityTransactionIntake where
  transaction : TransactionId
  transactions : List SurfaceTransaction
  removedSurfaces : List SurfaceId := []
  deriving DecidableEq

/-- Commit a batch; the surfaces it destroys leave only when the batch itself commits. -/
def AuthorityTransactionIntake.commit (intake : AuthorityTransactionIntake)
    (committed : List CommittedSurfaceState) : TransactionCommit × List CommittedSurfaceState :=
  let result := commitSurfaceTransactions intake.transaction intake.transactions committed
  if result.1.outcome = .committed then
    (result.1, result.2.filter fun state => state.surface ∉ intake.removedSurfaces)
  else result

def rebaseFullStatePresentTransactions (transactions : List SurfaceTransaction)
    (committed : List CommittedSurfaceState) : List SurfaceTransaction :=
  transactions.map fun tx =>
    { tx with previousCommittedGeneration := currentGeneration (find committed tx.surface) }

def prepareFullStatePresent (transaction : TransactionId) (transactions : List SurfaceTransaction)
    (committed : List CommittedSurfaceState) : PreparedSurfaceCommit :=
  prepareSurfaceTransactions transaction
    (rebaseFullStatePresentTransactions transactions committed) committed

section Commit

variable {intake : AuthorityTransactionIntake} {committed : List CommittedSurfaceState}
  {s : SurfaceId}

theorem find_commit_of_ready (hn : NodupSurfaces committed)
    (hb : BatchReady intake.transaction intake.transactions committed) (s : SurfaceId) :
    find (commitSurfaceTransactions intake.transaction intake.transactions committed).2 s =
      find (nextCommitted intake.transactions committed) s := by
  have hr := (prepare_isReady_iff hn).mpr hb
  have hc := (commit_outcome_iff hn).mpr hb
  obtain ⟨hcommit, hcand⟩ := prepare_of_isReady hr
  by_cases hs : ∃ tx ∈ intake.transactions, tx.surface = s
  · have happ : s ∈ (prepareSurfaceTransactions intake.transaction intake.transactions
        committed).commit.appliedSurfaces := by
      rw [hcommit]
      exact List.mem_map.mpr hs
    rw [commitSurfaceTransactions, find_apply_touched hc happ, hcand]
  · have hne : ∀ tx ∈ intake.transactions, tx.surface ≠ s := fun tx htx he => hs ⟨tx, htx, he⟩
    have happ : s ∉ (prepareSurfaceTransactions intake.transaction intake.transactions
        committed).commit.appliedSurfaces := by
      rw [hcommit]
      exact fun hm => hs (List.mem_map.mp hm)
    rw [commitSurfaceTransactions, find_apply_untouched happ, find_nextCommitted_of_notMem _ hne]

theorem intake_outcome_iff (hn : NodupSurfaces committed) :
    (intake.commit committed).1.outcome = .committed ↔
      BatchReady intake.transaction intake.transactions committed := by
  rw [← commit_outcome_iff hn]
  unfold AuthorityTransactionIntake.commit
  dsimp only
  split <;> rfl

theorem nodup_intake (hn : NodupSurfaces committed) : NodupSurfaces (intake.commit committed).2 := by
  have hc : NodupSurfaces (commitSurfaceTransactions intake.transaction intake.transactions
      committed).2 := nodup_apply hn
  unfold AuthorityTransactionIntake.commit
  dsimp only
  split
  · exact hc.filter _
  · exact hc

/-- A ready batch installs its states and drops the surfaces it destroys. -/
theorem find_intake_of_ready (hn : NodupSurfaces committed)
    (hb : BatchReady intake.transaction intake.transactions committed) (s : SurfaceId) :
    find (intake.commit committed).2 s =
      if s ∈ intake.removedSurfaces then none
      else find (nextCommitted intake.transactions committed) s := by
  have hc := (commit_outcome_iff hn).mpr hb
  rw [AuthorityTransactionIntake.commit, if_pos hc, find_filter_notMem,
    find_commit_of_ready hn hb s]

/-- A batch that is not ready changes nothing, not even for the surfaces it destroys. -/
theorem intake_of_not_ready (hn : NodupSurfaces committed)
    (hb : ¬ BatchReady intake.transaction intake.transactions committed) :
    (intake.commit committed).2 = committed := by
  have hc := mt (commit_outcome_iff hn).mp hb
  rw [AuthorityTransactionIntake.commit, if_neg hc]
  exact apply_of_not_committed hc

end Commit

section Present

variable {transaction : TransactionId} {transactions : List SurfaceTransaction}
  {committed : List CommittedSurfaceState} {p : PreparedSurfaceCommit}

theorem mem_rebase {tx : SurfaceTransaction}
    (h : tx ∈ rebaseFullStatePresentTransactions transactions committed) :
    ∃ original ∈ transactions, tx = { original with
      previousCommittedGeneration := currentGeneration (find committed original.surface) } := by
  obtain ⟨original, ho, he⟩ := List.mem_map.mp h
  exact ⟨original, ho, he.symm⟩

/-- A transaction of the batch, up to the generation it is rebased to. -/
def Rebased (transactions : List SurfaceTransaction) (tx : SurfaceTransaction) : Prop :=
  ∃ original ∈ transactions, ∃ generation,
    tx = { original with previousCommittedGeneration := generation }

theorem preparedFrom_fullStatePresent (hn : NodupSurfaces committed) :
    PreparedFrom (Rebased transactions)
      (prepareFullStatePresent transaction transactions committed) := by
  refine preparedFrom_prepare hn ?_
  intro tx htx _
  obtain ⟨original, ho, he⟩ := mem_rebase htx
  exact ⟨original, ho, _, he⟩

/-- Applying a prepared commit over a current baseline raises each touched surface by one. -/
theorem generation_of_apply {accepted : SurfaceTransaction → Prop} {s : SurfaceId}
    (hp : PreparedFrom accepted p)
    (hc : (applyPreparedSurfaceCommit p committed).1.outcome = .committed)
    (hs : s ∈ p.commit.appliedSurfaces) :
    currentGeneration (find (applyPreparedSurfaceCommit p committed).2 s) =
      saturatingAdd (currentGeneration (find committed s)) 1 := by
  obtain ⟨tx, -, rfl, hready, hcand⟩ := hp s hs
  rw [find_apply_touched hc hs, hcand, ← (apply_outcome_iff.mp hc).2 tx.surface hs,
    hready.generation]
  rfl

end Present
end Sophia.Engine
