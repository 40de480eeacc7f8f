import Sophia.Lib.Run
import Sophia.Lib.Optimistic
import Sophia.Engine.AuthorityTransaction

/-!
Interleaved prepares, applies and direct commits over one committed vector. Prepared commits
are retained by value, so each of them may be applied at any later point, or twice.
-/
namespace Sophia.Engine.Commits

open Protocol

structure State where
  committed : List CommittedSurfaceState
  prepared : List PreparedSurfaceCommit
  deriving DecidableEq

inductive Action where
  | prepare (transaction : TransactionId) (transactions : List SurfaceTransaction)
  | apply (index : ℕ)
  | commit (transaction : TransactionId) (transactions : List SurfaceTransaction)
  deriving DecidableEq

def start (committed : List CommittedSurfaceState) : State := ⟨committed, []⟩

/-- The surface transactions an action validates. -/
def Action.transactions : Action → List SurfaceTransaction
  | .prepare _ transactions | .commit _ transactions => transactions
  | .apply _ => []

/-- The prepared commit an action applies. -/
def State.target (s : State) : Action → Option PreparedSurfaceCommit
  | .prepare _ _ => none
  | .apply index => s.prepared[index]?
  | .commit transaction transactions =>
    some (prepareSurfaceTransactions transaction transactions s.committed)

/-- The commit record an action returns. -/
def State.result (s : State) (a : Action) : Option TransactionCommit :=
  (s.target a).map fun p => (applyPreparedSurfaceCommit p s.committed).1

def step (s : State) : Action → State
  | .prepare transaction transactions =>
    { s with prepared :=
        s.prepared ++ [prepareSurfaceTransactions transaction transactions s.committed] }
  | .apply index =>
    match s.prepared[index]? with
    | some p => { s with committed := (applyPreparedSurfaceCommit p s.committed).2 }
    | none => s
  | .commit transaction transactions =>
    { s with committed := (commitSurfaceTransactions transaction transactions s.committed).2 }

abbrev run (committed : List CommittedSurfaceState) (actions : List Action) : State :=
  Run.exec step (start committed) actions

variable {s : State} {a : Action} {p : PreparedSurfaceCommit}

theorem committed_step_of_target (h : s.target a = some p) :
    (step s a).committed = (applyPreparedSurfaceCommit p s.committed).2 := by
  cases a with
  | prepare => cases h
  | apply index =>
    have hp : s.prepared[index]? = some p := h
    simp [step, hp]
  | commit transaction transactions =>
    cases h
    rfl

theorem committed_step_of_no_target (h : s.target a = none) :
    (step s a).committed = s.committed := by
  cases a with
  | prepare => rfl
  | apply index =>
    have hp : s.prepared[index]? = none := h
    simp [step, hp]
  | commit => cases h

/-- A retained preparation was retained before, or was prepared by this very action. -/
theorem mem_prepared_step (h : p ∈ (step s a).prepared) :
    p ∈ s.prepared ∨ ∃ transaction,
      p = prepareSurfaceTransactions transaction a.transactions s.committed := by
  cases a with
  | prepare transaction transactions =>
    rcases List.mem_append.mp h with h | h
    · exact Or.inl h
    · exact Or.inr ⟨transaction, List.mem_singleton.mp h⟩
  | apply index =>
    left
    simp only [step] at h
    split at h <;> exact h
  | commit => exact Or.inl h

/-- An applied preparation was retained, or was prepared by this very action. -/
theorem target_origin (h : s.target a = some p) :
    p ∈ s.prepared ∨ ∃ transaction,
      p = prepareSurfaceTransactions transaction a.transactions s.committed := by
  cases a with
  | prepare => cases h
  | apply index => exact Or.inl (List.mem_of_getElem? h)
  | commit transaction transactions => exact Or.inr ⟨transaction, (Option.some.inj h).symm⟩

structure WellFormed (accepted : SurfaceTransaction → Prop) (s : State) : Prop where
  nodup : NodupSurfaces s.committed
  prepared : ∀ p ∈ s.prepared, PreparedFrom accepted p

section Invariant

variable {accepted later : SurfaceTransaction → Prop}

theorem WellFormed.mono (h : WellFormed accepted s) (hm : ∀ tx, accepted tx → later tx) :
    WellFormed later s :=
  ⟨h.nodup, fun p hp => (h.prepared p hp).mono hm⟩

theorem WellFormed.target (h : WellFormed accepted s) (ht : s.target a = some p)
    (hacc : ∀ tx ∈ a.transactions, ReadyOver (find s.committed tx.surface) tx → accepted tx) :
    PreparedFrom accepted p := by
  rcases target_origin ht with hp | ⟨transaction, rfl⟩
  · exact h.prepared p hp
  · exact preparedFrom_prepare h.nodup hacc

theorem wellFormed_step (h : WellFormed accepted s)
    (hacc : ∀ tx ∈ a.transactions, ReadyOver (find s.committed tx.surface) tx → accepted tx) :
    WellFormed accepted (step s a) where
  nodup := by
    cases ht : s.target a with
    | none =>
      rw [committed_step_of_no_target ht]
      exact h.nodup
    | some p =>
      rw [committed_step_of_target ht]
      exact nodup_apply h.nodup
  prepared := by
    intro p hp
    rcases mem_prepared_step hp with hp | ⟨transaction, rfl⟩
    · exact h.prepared p hp
    · exact preparedFrom_prepare h.nodup hacc

end Invariant

/-! Provenance: every entry is the state of one transaction that was ready when prepared. -/

/-- Some action of the history validated the transaction and found it ready. -/
def ReadyWhenPrepared (committed : List CommittedSurfaceState) (actions : List Action)
    (tx : SurfaceTransaction) : Prop :=
  ∃ before a after, actions = before ++ a :: after ∧ tx ∈ a.transactions ∧
    (SurfaceVisualStateTable.fromCommittedStates
      (run committed before).committed).transactionCommitReadiness tx = .ready

theorem ReadyWhenPrepared.snoc {committed : List CommittedSurfaceState} {actions : List Action}
    {tx : SurfaceTransaction} (h : ReadyWhenPrepared committed actions tx) (a : Action) :
    ReadyWhenPrepared committed (actions ++ [a]) tx := by
  obtain ⟨before, b, after, rfl, htx⟩ := h
  exact ⟨before, b, after ++ [a], by simp, htx⟩

theorem readyWhenPrepared_last {committed : List CommittedSurfaceState} {actions : List Action}
    {tx : SurfaceTransaction} (hn : NodupSurfaces (run committed actions).committed)
    (htx : tx ∈ a.transactions)
    (h : ReadyOver (find (run committed actions).committed tx.surface) tx) :
    ReadyWhenPrepared committed (actions ++ [a]) tx := by
  refine ⟨actions, a, [], rfl, htx, ?_⟩
  rw [readiness_ready_iff, SurfaceVisualStateTable.committed_fromCommittedStates hn]
  exact h

theorem ReadyWhenPrepared.readyOver {committed : List CommittedSurfaceState}
    {actions : List Action} {tx : SurfaceTransaction}
    (h : ReadyWhenPrepared committed actions tx) : ∃ entry, ReadyOver entry tx := by
  obtain ⟨before, b, after, rfl, htx, hr⟩ := h
  exact ⟨_, (readiness_ready_iff _ _).mp hr⟩

theorem wellFormed_run {committed : List CommittedSurfaceState} (hn : NodupSurfaces committed)
    (actions : List Action) :
    WellFormed (ReadyWhenPrepared committed actions) (run committed actions) := by
  induction actions using List.reverseRecOn with
  | nil => exact ⟨hn, by simp [start]⟩
  | append_singleton actions a ih =>
    rw [run, Run.exec_snoc]
    refine wellFormed_step (ih.mono fun tx h => h.snoc a) ?_
    intro tx htx hready
    exact readyWhenPrepared_last ih.nodup htx hready

/-- An entry after a step was there before, or is the candidate of an accepted transaction
for a surface that the step touches. -/
theorem mem_committed_step {accepted : SurfaceTransaction → Prop}
    (hp : ∀ p, s.target a = some p → PreparedFrom accepted p) {e : CommittedSurfaceState}
    (he : e ∈ (step s a).committed) :
    e ∈ s.committed ∨ ∃ tx, accepted tx ∧ e = nextState tx ∧
      ReadyOver (find s.committed e.surface) tx := by
  cases ht : s.target a with
  | none =>
    rw [committed_step_of_no_target ht] at he
    exact Or.inl he
  | some p =>
    rw [committed_step_of_target ht] at he
    by_cases hc : (applyPreparedSurfaceCommit p s.committed).1.outcome = .committed
    · rw [apply_of_committed hc] at he
      rcases Keyed.mem_putAll he with he | he
      · obtain ⟨hs, hl⟩ := PreparedSurfaceCommit.mem_updates_iff.mp he
        obtain ⟨tx, hacc, -, hready, hcand⟩ := hp p ht e.surface hs
        rw [(apply_outcome_iff.mp hc).2 e.surface hs] at hready
        exact Or.inr ⟨tx, hacc, Option.some.inj (hl.symm.trans hcand), hready⟩
      · exact Or.inl he
    · rw [apply_of_not_committed hc] at he
      exact Or.inl he

theorem mem_committed_run (actions : List Action) {e : CommittedSurfaceState}
    (he : e ∈ (run [] actions).committed) :
    ∃ tx, ReadyWhenPrepared [] actions tx ∧ e = nextState tx := by
  induction actions using List.reverseRecOn generalizing e with
  | nil => simp [start] at he
  | append_singleton actions a ih =>
    rw [run, Run.exec_snoc] at he
    have hw := wellFormed_run Keyed.nodupKeys_nil actions
    have hp : ∀ p, (run [] actions).target a = some p →
        PreparedFrom (ReadyWhenPrepared [] (actions ++ [a])) p := by
      intro p ht
      exact (hw.mono fun tx h => h.snoc a).target ht fun tx htx hready =>
        readyWhenPrepared_last hw.nodup htx hready
    rcases mem_committed_step hp he with he | ⟨tx, hacc, heq, -⟩
    · obtain ⟨tx, hacc, heq⟩ := ih he
      exact ⟨tx, hacc.snoc a, heq⟩
    · exact ⟨tx, hacc, heq⟩

/-- A surface that appears for the first time appears with a buffer. -/
theorem first_entry_buffered {committed : List CommittedSurfaceState}
    (hn : NodupSurfaces committed) (before : List Action) (a : Action)
    {e : CommittedSurfaceState} (he : e ∈ (run committed (before ++ [a])).committed)
    (hnew : find (run committed before).committed e.surface = none) : e.buffer ≠ .none := by
  rw [run, Run.exec_snoc] at he
  have hw := wellFormed_run hn before
  have hp : ∀ p, (run committed before).target a = some p → PreparedFrom (fun _ => True) p := by
    intro p ht
    exact (hw.mono fun _ _ => trivial).target ht fun _ _ _ => trivial
  rcases mem_committed_step hp he with he | ⟨tx, -, rfl, hready⟩
  · exact absurd rfl (Keyed.lookup_eq_none_iff.mp hnew e he)
  · intro hb
    exact hready.buffered hb hnew

/-- Along every interleaving from an empty vector: surfaces are unique, every entry is
well formed and is the indivisible triple of one transaction that was ready when prepared,
and a surface first becomes visible with a buffer. -/
theorem committed_entries_from_one_ready_transaction (actions : List Action) :
    ((run [] actions).committed.map (·.surface)).Nodup ∧
    (∀ e ∈ (run [] actions).committed, e.surface.isValid = true ∧ e.geometry.isEmpty = false ∧
      ∃ tx, ReadyWhenPrepared [] actions tx ∧ tx.surface = e.surface ∧
        (tx.targetGeometry, tx.targetBuffer, tx.damage) = (e.geometry, e.buffer, e.damage)) ∧
    (∀ before a after, actions = before ++ a :: after →
      ∀ e ∈ (run [] (before ++ [a])).committed,
        (∀ old ∈ (run [] before).committed, old.surface ≠ e.surface) → e.buffer ≠ .none) := by
  refine ⟨(wellFormed_run Keyed.nodupKeys_nil actions).nodup, ?_, ?_⟩
  · intro e he
    obtain ⟨tx, hacc, rfl⟩ := mem_committed_run actions he
    obtain ⟨entry, hready⟩ := hacc.readyOver
    exact ⟨hready.valid, hready.nonempty, tx, hacc, rfl, rfl⟩
  · intro before a after _ e he hnew
    exact first_entry_buffered Keyed.nodupKeys_nil before a he
      (Keyed.lookup_eq_none_iff.mpr hnew)

/-! Refinement: applying a prepared commit is an optimistic patch of the surface map. -/

section Refinement

open Optimistic

/-- The patch a prepared commit stands for; a rejected preparation touches nothing. -/
def toPatch (p : PreparedSurfaceCommit) : Patch SurfaceId CommittedSurfaceState where
  touched := {s | p.isReady = true ∧ s ∈ p.commit.appliedSurfaces}
  baseline := find p.baseline
  candidate := find p.candidate

def generation (entry : Option CommittedSurfaceState) : ℕ := (currentGeneration entry).toNat

variable {committed : List CommittedSurfaceState}

theorem toPatch_current_iff (hr : p.isReady = true) :
    (toPatch p).Current (find committed) ↔ p.TouchedBaselineIsCurrent committed := by
  simp [Patch.Current, toPatch, hr, PreparedSurfaceCommit.TouchedBaselineIsCurrent]

theorem find_apply_eq_commit (p : PreparedSurfaceCommit) (committed : List CommittedSurfaceState) :
    find (applyPreparedSurfaceCommit p committed).2 = (toPatch p).commit (find committed) := by
  funext s
  by_cases hr : p.isReady = true
  · by_cases hs : s ∈ p.commit.appliedSurfaces
    · by_cases hc : p.TouchedBaselineIsCurrent committed
      · rw [find_apply_touched (apply_outcome_iff.mpr ⟨hr, hc⟩) hs,
          Patch.commit_touched ((toPatch_current_iff hr).mpr hc) ⟨hr, hs⟩]
        rfl
      · have hne : (applyPreparedSurfaceCommit p committed).1.outcome ≠ .committed :=
          fun h => hc (apply_outcome_iff.mp h).2
        rw [apply_of_not_committed hne, Patch.commit_stale (mt (toPatch_current_iff hr).mp hc)]
    · have hnot : s ∉ (toPatch p).touched := fun h => hs h.2
      rw [find_apply_untouched hs, Patch.commit_untouched hnot]
  · have hne : (applyPreparedSurfaceCommit p committed).1.outcome ≠ .committed :=
      fun h => hr (apply_outcome_iff.mp h).1
    have hnot : s ∉ (toPatch p).touched := fun h => hr h.1
    rw [apply_of_not_committed hne, Patch.commit_untouched hnot]

/-- Transactions whose generation has room for its successor. -/
def Bounded (tx : SurfaceTransaction) : Prop :=
  tx.previousCommittedGeneration.toNat < UInt64.size - 1

theorem generation_nextState {tx : SurfaceTransaction} (h : Bounded tx) :
    generation (some (nextState tx)) = tx.previousCommittedGeneration.toNat + 1 := by
  have hsum : tx.previousCommittedGeneration.toNat + (1 : UInt64).toNat ≤ UInt64.size - 1 := h
  exact (toNat_saturatingAdd _ _).trans (Nat.min_eq_left hsum)

theorem advances_toPatch (h : PreparedFrom Bounded p) : (toPatch p).Advances generation := by
  rintro s ⟨-, hs⟩
  obtain ⟨tx, hb, rfl, hready, hcand⟩ := h s hs
  have hgen : generation (find p.baseline tx.surface) = tx.previousCommittedGeneration.toNat :=
    congrArg UInt64.toNat hready.generation
  show generation (find p.baseline tx.surface) < generation (find p.candidate tx.surface)
  rw [hcand, generation_nextState hb, hgen]
  omega

theorem find_step_eq_commit (h : s.target a = some p) :
    find (step s a).committed = (toPatch p).commit (find s.committed) := by
  rw [committed_step_of_target h, find_apply_eq_commit]

/-- No action lowers a generation. -/
theorem generation_le_step (hw : WellFormed Bounded s) (hb : ∀ tx ∈ a.transactions, Bounded tx)
    (k : SurfaceId) :
    generation (find s.committed k) ≤ generation (find (step s a).committed k) := by
  cases ht : s.target a with
  | none => rw [committed_step_of_no_target ht]
  | some p =>
    have hadv := advances_toPatch (hw.target ht fun tx htx _ => hb tx htx)
    rw [find_step_eq_commit ht]
    exact hadv.rank_le_commit _ k

theorem wellFormed_exec {actions : List Action} (hw : WellFormed Bounded s)
    (hb : ∀ a ∈ actions, ∀ tx ∈ a.transactions, Bounded tx) :
    WellFormed Bounded (Run.exec step s actions) := by
  induction actions generalizing s with
  | nil => exact hw
  | cons a actions ih =>
    refine ih (wellFormed_step hw fun tx htx _ => hb a List.mem_cons_self tx htx) ?_
    exact fun b hm => hb b (List.mem_cons_of_mem _ hm)

theorem generation_le_exec {actions : List Action} (hw : WellFormed Bounded s)
    (hb : ∀ a ∈ actions, ∀ tx ∈ a.transactions, Bounded tx) (k : SurfaceId) :
    generation (find s.committed k) ≤ generation (find (Run.exec step s actions).committed k) := by
  induction actions generalizing s with
  | nil => exact le_refl _
  | cons a actions ih =>
    have ha := hb a List.mem_cons_self
    have hrest : ∀ b ∈ actions, ∀ tx ∈ b.transactions, Bounded tx :=
      fun b hm => hb b (List.mem_cons_of_mem _ hm)
    calc generation (find s.committed k)
        ≤ generation (find (step s a).committed k) := generation_le_step hw ha k
      _ ≤ _ := ih (wellFormed_step hw fun tx htx _ => ha tx htx) hrest

/-- After a prepared commit has been applied, no preparation whose baseline agrees with its
own on a shared surface commits. -/
theorem baselines_differ {between : List Action} {q : PreparedSurfaceCommit} {k : SurfaceId} (hw : WellFormed Bounded s) (ha : ∀ tx ∈ a.transactions, Bounded tx)
    (hbetween : ∀ c ∈ between, ∀ tx ∈ c.transactions, Bounded tx)
    (hp : s.target a = some p)
    (hpc : (applyPreparedSurfaceCommit p s.committed).1.outcome = .committed)
    (hqc : (applyPreparedSurfaceCommit q
      (Run.exec step (step s a) between).committed).1.outcome = .committed)
    (hkp : k ∈ p.commit.appliedSurfaces) (hkq : k ∈ q.commit.appliedSurfaces) :
    find p.baseline k ≠ find q.baseline k := by
  intro hagree
  obtain ⟨hpr, hpcur⟩ := apply_outcome_iff.mp hpc
  obtain ⟨hqr, hqcur⟩ := apply_outcome_iff.mp hqc
  have hadv := advances_toPatch (hw.target hp fun tx htx _ => ha tx htx)
  have hmono := generation_le_exec (wellFormed_step hw fun tx htx _ => ha tx htx) hbetween k
  rw [find_step_eq_commit hp] at hmono
  refine hadv.not_current_later (q := toPatch q) ((toPatch_current_iff hpr).mpr hpcur)
    ⟨hpr, hkp⟩ hmono ⟨hqr, hkq⟩ hagree ?_
  exact (toPatch_current_iff hqr).mpr hqcur

/-- A committed surface is one generation past the entry it replaces. -/
theorem generation_applied (h : PreparedFrom Bounded p)
    (hc : (applyPreparedSurfaceCommit p committed).1.outcome = .committed) {k : SurfaceId}
    (hk : k ∈ p.commit.appliedSurfaces) :
    ∃ state, find p.candidate k = some state ∧
      find (applyPreparedSurfaceCommit p committed).2 k = some state ∧
      state.committedGeneration.toNat = generation (find committed k) + 1 := by
  obtain ⟨tx, hb, rfl, hready, hcand⟩ := h k hk
  refine ⟨nextState tx, hcand, (find_apply_touched hc hk).trans hcand, ?_⟩
  have hgen : currentGeneration (find committed tx.surface) = tx.previousCommittedGeneration := by
    rw [← (apply_outcome_iff.mp hc).2 tx.surface hk]
    exact hready.generation
  have hnext := generation_nextState hb
  rw [generation, hgen, ← hnext]
  rfl

theorem find_apply_comm {q : PreparedSurfaceCommit}
    (hd : ∀ k ∈ p.commit.appliedSurfaces, k ∉ q.commit.appliedSurfaces) :
    find (applyPreparedSurfaceCommit q (applyPreparedSurfaceCommit p committed).2).2 =
      find (applyPreparedSurfaceCommit p (applyPreparedSurfaceCommit q committed).2).2 := by
  have hdis : Disjoint (toPatch p).touched (toPatch q).touched :=
    Set.disjoint_left.mpr fun k hp hq => hd k hp.2 hq.2
  simp only [find_apply_eq_commit]
  exact Patch.commit_comm hdis

end Refinement

/-- Optimistic-commit safety along every interleaving over one committed vector. -/
theorem optimistic_commit_safety {committed : List CommittedSurfaceState}
    (hn : (committed.map (·.surface)).Nodup) {actions : List Action}
    (hb : ∀ a ∈ actions, ∀ tx ∈ a.transactions,
      tx.previousCommittedGeneration.toNat < UInt64.size - 1) :
    -- two commits computed from agreeing lists are never both applied
    (∀ before a between b after p q, actions = before ++ a :: between ++ b :: after →
      (run committed before).target a = some p →
      (run committed (before ++ a :: between)).target b = some q →
      (applyPreparedSurfaceCommit p (run committed before).committed).1.outcome = .committed →
      (applyPreparedSurfaceCommit q
        (run committed (before ++ a :: between)).committed).1.outcome = .committed →
      ∀ k ∈ p.commit.appliedSurfaces, k ∈ q.commit.appliedSurfaces →
        find p.baseline k ≠ find q.baseline k) ∧
    -- a commit changes exactly its surfaces, each by one generation; anything else is a no-op
    (∀ before a after p, actions = before ++ a :: after →
      (run committed before).target a = some p →
      ((applyPreparedSurfaceCommit p (run committed before).committed).1.outcome = .committed →
        (∀ k ∈ p.commit.appliedSurfaces, ∃ state, find p.candidate k = some state ∧
          find (run committed (before ++ [a])).committed k = some state ∧
          state.committedGeneration.toNat =
            (currentGeneration (find (run committed before).committed k)).toNat + 1) ∧
        (run committed (before ++ [a])).committed.filter
            (fun state => state.surface ∉ p.commit.appliedSurfaces) =
          (run committed before).committed.filter
            (fun state => state.surface ∉ p.commit.appliedSurfaces)) ∧
      ((applyPreparedSurfaceCommit p (run committed before).committed).1.outcome ≠ .committed →
        (run committed (before ++ [a])).committed = (run committed before).committed)) ∧
    -- disjoint prepared commits give the same map in either order
    (∀ p ∈ (run committed actions).prepared, ∀ q ∈ (run committed actions).prepared,
      p.isReady = true → q.isReady = true →
      (∀ k ∈ p.commit.appliedSurfaces, k ∉ q.commit.appliedSurfaces) → ∀ current k,
        find (applyPreparedSurfaceCommit q (applyPreparedSurfaceCommit p current).2).2 k =
          find (applyPreparedSurfaceCommit p (applyPreparedSurfaceCommit q current).2).2 k) := by
  have hstart : WellFormed Bounded (start committed) := ⟨hn, by simp [start]⟩
  refine ⟨?_, ?_, ?_⟩
  · intro before a between b after p q he hp _ hpc hqc k hkp hkq
    have hw : WellFormed Bounded (run committed before) :=
      wellFormed_exec hstart fun c hm => hb c (by simp [he, hm])
    rw [run, Run.exec_append] at hqc
    exact baselines_differ hw (hb a (by simp [he])) (fun c hm => hb c (by simp [he, hm]))
      hp hpc hqc hkp hkq
  · intro before a after p he hp
    have hw : WellFormed Bounded (run committed before) :=
      wellFormed_exec hstart fun c hm => hb c (by simp [he, hm])
    have hfrom := hw.target hp fun tx htx _ => hb a (by simp [he]) tx htx
    have hstep : (run committed (before ++ [a])).committed =
        (applyPreparedSurfaceCommit p (run committed before).committed).2 := by
      rw [run, Run.exec_snoc, committed_step_of_target hp]
    rw [hstep]
    refine ⟨fun hc => ⟨?_, filter_apply⟩, apply_of_not_committed⟩
    intro k hk
    exact generation_applied hfrom hc hk
  · intro p _ q _ _ _ hd current k
    exact congrFun (find_apply_comm hd) k

/-- Two draws prepared from the same empty vector: the first is applied, the second is not. -/
theorem second_draw_not_applied :
    let draws : List Action := [.prepare ⟨1⟩ [.draw ⟨1⟩ ⟨1, 1⟩ 0 1],
      .prepare ⟨2⟩ [.draw ⟨2⟩ ⟨1, 1⟩ 0 2]]
    ((run [] draws).result (.apply 0)).map (·.outcome) = some .committed ∧
    ((run [] (draws ++ [.apply 0])).result (.apply 1)).map (·.outcome) ≠ some .committed := by
  intro draws
  refine ⟨by decide +kernel, ?_⟩
  intro h
  obtain ⟨p, hp⟩ : ∃ p, (run [] draws).target (.apply 0) = some p := ⟨_, rfl⟩
  obtain ⟨q, hq⟩ : ∃ q, (run [] (draws ++ [.apply 0])).target (.apply 1) = some q := ⟨_, rfl⟩
  have hsafe := (@optimistic_commit_safety [] (by decide) (draws ++ [.apply 0, .apply 1])
    (by decide)).1
  have hqc : (applyPreparedSurfaceCommit q
      (run [] (draws ++ [.apply 0])).committed).1.outcome = .committed := by
    simpa [State.result, hq] using h
  exact hsafe draws (.apply 0) [] (.apply 1) [] p q rfl hp hq (by cases hp; decide +kernel) hqc
    ⟨1, 1⟩ (by cases hp; decide +kernel) (by cases hq; decide +kernel) (by cases hp; cases hq; rfl)

end Sophia.Engine.Commits
