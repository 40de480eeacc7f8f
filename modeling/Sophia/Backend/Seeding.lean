import Sophia.Lib.History
import Sophia.Backend.RuntimeFrames

/-! What seeding missing surfaces from the layer map puts on screen. -/
namespace Sophia.Backend

open Protocol Engine Std

/-- The entry has the surface, geometry and buffer of the transaction. -/
def Shows (entry : CommittedSurfaceState) (tx : SurfaceTransaction) : Prop :=
  tx.surface = entry.surface ∧ tx.targetGeometry = entry.geometry ∧
    tx.targetBuffer = entry.buffer

/-- The transactions came in with some earlier Present batch. -/
def PresentedIn (before : List Action) (transactions : List SurfaceTransaction) : Prop :=
  ∃ env batch, Action.runBatch env batch ∈ before ∧ batch.presentSubmissions ≠ [] ∧
    batch.transactions = transactions

/-- The action applies the transaction with outcome Committed: in a CPU batch, or as part of the
presentation whose page flip completes. -/
def AppliedBy (before : List Action) (rt : LiveProductionVisualRuntime) :
    Action → SurfaceTransaction → Prop
  | .cpuCycle env batch, tx => CommitsBatch rt env batch ∧ tx ∈ batch.transactions
  | .runBatch env batch, tx =>
    batch.presentSubmissions = [] ∧ CommitsBatch rt env batch ∧ tx ∈ batch.transactions
  | .pageFlip _ _ _, tx => ∃ submitted ∈ rt.scheduler.submitted,
    (applyPreparedSurfaceCommit submitted.prepared rt.committedSurfaces).1.outcome = .committed ∧
    tx.surface ∈ submitted.prepared.commit.appliedSurfaces ∧
    ∃ transactions, PresentedIn before transactions ∧ tx ∈ transactions ∧
      ∃ t committed, submitted.prepared = prepareFullStatePresent t transactions committed
  | _, _ => False

/-- The batch seeds the surface: it names some uncommitted surface, and this one is uncommitted
and in the layer map. -/
def Seeds (rt : LiveProductionVisualRuntime) (batch : LiveProductionAuthorityBatch)
    (s : SurfaceId) : Prop :=
  namesUncommitted batch.transactions rt.committedSurfaces = true ∧
    find rt.committedSurfaces s = none ∧
    (updateLayers rt.layers batch.removedSurfaces batch.transactions)[s]? ≠ none

/-- The submitted presentation is not made stale by seeding for the batch. -/
def KeepsCurrent (rt : LiveProductionVisualRuntime) (batch : LiveProductionAuthorityBatch) :
    Prop :=
  ∀ submitted ∈ rt.scheduler.submitted,
    submitted.prepared.TouchedBaselineIsCurrent rt.committedSurfaces →
      submitted.prepared.TouchedBaselineIsCurrent (rt.validatedAgainst batch)

/-- The seeding an action does leaves the submitted presentation current. -/
def SeedingKeepsCurrent (rt : LiveProductionVisualRuntime) : Action → Prop
  | .cpuCycle env batch => rt.observes env batch = true → KeepsCurrent rt batch
  | .runBatch env batch => batch.presentSubmissions = [] → rt.observes env batch = true →
    KeepsCurrent rt batch
  | _ => True

/-- Whatever the action puts on screen, it has applied. -/
def ShowsApplied (before : List Action) (rt : LiveProductionVisualRuntime) (a : Action) : Prop :=
  ∀ entry ∈ (step rt a).committedSurfaces, entry ∈ rt.committedSurfaces ∨
    ∃ tx, AppliedBy before rt a tx ∧ Shows entry tx

/-- The batch seeds only surfaces it names itself, all its transactions are ready, and the
submitted presentation touches none of the seeded surfaces. -/
def SeedsOwn (rt : LiveProductionVisualRuntime) (env : Env)
    (batch : LiveProductionAuthorityBatch) : Prop :=
  rt.observes env batch = true → ∀ s, Seeds rt batch s →
    BatchReady batch.transaction batch.transactions (rt.validatedAgainst batch) ∧
    (∃ tx ∈ batch.transactions, tx.surface = s) ∧
    ∀ submitted ∈ rt.scheduler.submitted,
      submitted.prepared.TouchedBaselineIsCurrent rt.committedSurfaces →
        s ∉ submitted.prepared.commit.appliedSurfaces

def SeedingHolds (rt : LiveProductionVisualRuntime) : Action → Prop
  | .cpuCycle env batch => SeedsOwn rt env batch
  | .runBatch env batch => batch.presentSubmissions = [] → SeedsOwn rt env batch
  | _ => True

section Step

variable {before : List Action} {rt rt' : LiveProductionVisualRuntime} {env : Env}
  {batch : LiveProductionAuthorityBatch} {s : SurfaceId}

theorem mem_iff_find {committed : List CommittedSurfaceState} (hn : NodupSurfaces committed)
    {entry : CommittedSurfaceState} :
    entry ∈ committed ↔ find committed entry.surface = some entry := by
  rw [hn.lookup_eq_some_iff]
  simp

theorem find_validatedAgainst_of_not_seeds (h : Sound rt) (hs : ¬ Seeds rt batch s) :
    find (rt.validatedAgainst batch) s = find rt.committedSurfaces s := by
  rw [find_validatedAgainst h]
  cases hc : find rt.committedSurfaces s with
  | some state => rfl
  | none =>
    split
    · rename_i hnames
      have hlayer : (updateLayers rt.layers batch.removedSurfaces batch.transactions)[s]? = none :=
        by_contra fun hne => hs ⟨hnames, hc, hne⟩
      simp [hlayer]
    · rfl

theorem exists_find_validatedAgainst_of_seeds (h : Sound rt) (hs : Seeds rt batch s) :
    ∃ entry, find (rt.validatedAgainst batch) s = some entry := by
  obtain ⟨hnames, hc, hlayer⟩ := hs
  obtain ⟨tx, htx⟩ := Option.ne_none_iff_exists'.mp hlayer
  refine ⟨seedState tx, ?_⟩
  rw [find_validatedAgainst h, hc, if_pos hnames, htx]
  rfl

/-- Seeding keeps the submitted presentation current exactly when it seeds nothing it touches. -/
theorem keepsCurrent_iff (h : Sound rt) :
    KeepsCurrent rt batch ↔ ∀ s, Seeds rt batch s → ∀ submitted ∈ rt.scheduler.submitted,
      submitted.prepared.TouchedBaselineIsCurrent rt.committedSurfaces →
        s ∉ submitted.prepared.commit.appliedSurfaces := by
  constructor
  · intro hk s hs submitted hsub hcurrent hmem
    obtain ⟨entry, hentry⟩ := exists_find_validatedAgainst_of_seeds h hs
    have hafter := hk submitted hsub hcurrent s hmem
    rw [hcurrent s hmem, hentry, hs.2.1] at hafter
    cases hafter
  · intro hk submitted hsub hcurrent s hmem
    rw [hcurrent s hmem]
    refine (find_validatedAgainst_of_not_seeds h fun hs => ?_).symm
    exact hk s hs submitted hsub hcurrent hmem

theorem shows_nextState (tx : SurfaceTransaction) : Shows (nextState tx) tx := ⟨rfl, rfl, rfl⟩

/-- A seeded surface the batch does not replace is on screen without having been applied. -/
theorem seeds_of_shown (h : Sound rt) (hc : Committed rt rt' env batch)
    (ho : rt.observes env batch = true)
    (hshown : ∀ entry ∈ rt'.committedSurfaces, entry ∈ rt.committedSurfaces ∨
      ∃ tx, (CommitsBatch rt env batch ∧ tx ∈ batch.transactions) ∧ Shows entry tx)
    (hs : Seeds rt batch s) :
    BatchReady batch.transaction batch.transactions (rt.validatedAgainst batch) ∧
      ∃ tx ∈ batch.transactions, tx.surface = s := by
  have hn : NodupSurfaces (rt.validatedAgainst batch) := nodup_seededFor h.nodup
  have hn' := (sound_committed h hc).nodup
  obtain ⟨entry, hentry⟩ := exists_find_validatedAgainst_of_seeds h hs
  have hkey : entry.surface = s := Keyed.key_of_lookup hentry
  have hcom := (hc.observed ho).2
  -- An entry found for `s` afterwards was not there before, so the batch applied it.
  have happlied (hfind : find rt'.committedSurfaces s = some entry) :
      CommitsBatch rt env batch ∧ ∃ tx ∈ batch.transactions, tx.surface = s := by
    rcases hshown entry ((mem_iff_find hn').mpr (hkey ▸ hfind)) with hold | ⟨tx, ⟨hb, htx⟩, hx⟩
    · have hfound := (mem_iff_find h.nodup).mp hold
      rw [hkey, hs.2.1] at hfound
      cases hfound
    · exact ⟨hb, tx, htx, hx.1.trans hkey⟩
  by_cases hb : BatchReady batch.transaction batch.transactions (rt.validatedAgainst batch)
  · refine ⟨hb, ?_⟩
    by_contra hnamed
    have hne : ∀ tx ∈ batch.transactions, tx.surface ≠ s := fun tx htx he => hnamed ⟨tx, htx, he⟩
    have hkept : s ∉ batch.removedSurfaces := by
      intro hr
      refine hs.2.2 ?_
      rw [getElem?_updateLayers_of_forall_ne hne, if_pos hr]
    refine hnamed (happlied ?_).2
    rw [hcom, find_intake_of_ready hn hb, if_neg hkept, find_nextCommitted_of_notMem _ hne, hentry]
  · refine absurd ((commitsBatch_iff h ho).mp (happlied ?_).1) hb
    rw [hcom, intake_of_not_ready hn hb, hentry]

theorem shown_of_seeds (h : Sound rt) (hc : Committed rt rt' env batch)
    (hseeds : rt.observes env batch = true → ∀ s, Seeds rt batch s →
      BatchReady batch.transaction batch.transactions (rt.validatedAgainst batch) ∧
        ∃ tx ∈ batch.transactions, tx.surface = s)
    {entry : CommittedSurfaceState} (hentry : entry ∈ rt'.committedSurfaces) :
    entry ∈ rt.committedSurfaces ∨
      ∃ tx, (CommitsBatch rt env batch ∧ tx ∈ batch.transactions) ∧ Shows entry tx := by
  cases ho : rt.observes env batch with
  | false => exact Or.inl ((hc.refused ho).1 ▸ hentry)
  | true =>
    have hn : NodupSurfaces (rt.validatedAgainst batch) := nodup_seededFor h.nodup
    have hfind := (mem_iff_find (sound_committed h hc).nodup).mp hentry
    rw [(hc.observed ho).2] at hfind
    by_cases hb : BatchReady batch.transaction batch.transactions (rt.validatedAgainst batch)
    · rw [find_intake_of_ready hn hb] at hfind
      split at hfind
      · cases hfind
      by_cases hnamed : ∃ tx ∈ batch.transactions, tx.surface = entry.surface
      · obtain ⟨tx, htx, -, he⟩ := find_nextCommitted_of_mem (rt.validatedAgainst batch) hnamed
        refine Or.inr ⟨tx, ⟨(commitsBatch_iff h ho).mpr hb, htx⟩, ?_⟩
        have he : nextState tx = entry := Option.some.inj (he.symm.trans hfind)
        exact he ▸ shows_nextState tx
      · have hne : ∀ tx ∈ batch.transactions, tx.surface ≠ entry.surface :=
          fun tx htx he => hnamed ⟨tx, htx, he⟩
        rw [find_nextCommitted_of_notMem _ hne,
          find_validatedAgainst_of_not_seeds h fun hs => hnamed (hseeds ho _ hs).2] at hfind
        exact Or.inl ((mem_iff_find h.nodup).mpr hfind)
    · rw [intake_of_not_ready hn hb,
        find_validatedAgainst_of_not_seeds h fun hs => hb (hseeds ho _ hs).1] at hfind
      exact Or.inl ((mem_iff_find h.nodup).mpr hfind)

/-- A batch shows only what it applies, and keeps the presentation in flight current, exactly
when it seeds no more than its own ready transactions. -/
theorem seedsOwn_iff (h : Sound rt) (hc : Committed rt rt' env batch) :
    ((∀ entry ∈ rt'.committedSurfaces, entry ∈ rt.committedSurfaces ∨
        ∃ tx, (CommitsBatch rt env batch ∧ tx ∈ batch.transactions) ∧ Shows entry tx) ∧
      (rt.observes env batch = true → KeepsCurrent rt batch)) ↔ SeedsOwn rt env batch := by
  constructor
  · rintro ⟨hshown, hcurrent⟩ ho s hs
    obtain ⟨hb, hnamed⟩ := seeds_of_shown h hc ho hshown hs
    exact ⟨hb, hnamed, (keepsCurrent_iff h).mp (hcurrent ho) s hs⟩
  · intro hseeds
    refine ⟨fun entry => ?_, fun ho => ?_⟩
    · exact shown_of_seeds h hc fun ho s hs => ⟨(hseeds ho s hs).1, (hseeds ho s hs).2.1⟩
    · exact (keepsCurrent_iff h).mpr fun s hs => (hseeds ho s hs).2.2

/-- The transactions of what is queued or in flight, and how those in flight were prepared. -/
structure QueuedFrom (P : List SurfaceTransaction → Prop) (rt : LiveProductionVisualRuntime) :
    Prop where
  queued : ∀ q ∈ rt.scheduler.queued, P q.transactions
  submitted : ∀ submitted ∈ rt.scheduler.submitted, ∃ t transactions committed,
    P transactions ∧ NodupSurfaces committed ∧
      submitted.prepared = prepareFullStatePresent t transactions committed

section Queue

variable {P Q : List SurfaceTransaction → Prop}

theorem QueuedFrom.mono (h : QueuedFrom P rt)
    (hpq : ∀ transactions, P transactions → Q transactions) : QueuedFrom Q rt where
  queued q hm := hpq _ (h.queued q hm)
  submitted submitted hm := by
    obtain ⟨t, transactions, committed, hp, hrest⟩ := h.submitted submitted hm
    exact ⟨t, transactions, committed, hpq _ hp, hrest⟩

theorem QueuedFrom.of_subset (h : QueuedFrom P rt)
    (hq : ∀ q ∈ rt'.scheduler.queued, q ∈ rt.scheduler.queued)
    (hs : ∀ submitted ∈ rt'.scheduler.submitted, submitted ∈ rt.scheduler.submitted) :
    QueuedFrom P rt' where
  queued q hm := h.queued q (hq q hm)
  submitted submitted hm := h.submitted submitted (hs submitted hm)

/-- Only a Present batch brings anything new into the queue. -/
theorem queuedFrom_step (hsound : Sound rt) (h : QueuedFrom P rt) (a : Action)
    (hnew : ∀ env batch, a = .runBatch env batch → batch.presentSubmissions ≠ [] →
      P batch.transactions) : QueuedFrom P (step rt a) := by
  cases a with
  | cpuCycle env batch =>
    have hs := (committed_cpuCycle rt env batch).scheduler
    exact h.of_subset (fun q hm => hs ▸ hm) (fun submitted hm => hs ▸ hm)
  | runBatch env batch =>
    by_cases hb : batch.presentSubmissions = []
    · have hs := (committed_runBatch rt env hb).scheduler
      exact h.of_subset (fun q hm => hs ▸ hm) (fun submitted hm => hs ▸ hm)
    have hp := presented_runBatch rt env hb
    have hnew : P batch.transactions := hnew env batch rfl hb
    constructor
    · intro q hm
      rcases hp.queued q hm with hold | he
      · exact h.queued q hold
      · exact he ▸ hnew
    · intro submitted hm
      rcases hp.submitted with he | ⟨-, t, s, transactions, hfrom, he, -⟩
      · exact h.submitted submitted (he ▸ hm)
      · cases he.symm.trans hm
        refine ⟨t, transactions, rt.committedSurfaces, ?_, hsound.nodup, rfl⟩
        rcases hfrom with rfl | ⟨q, hq, rfl⟩
        · exact hnew
        · exact h.queued q hq
  | drive env =>
    have hd := driven_drive rt env
    refine ⟨fun q hm => h.queued q (hd.queued q hm), ?_⟩
    intro submitted hm
    rcases hd.submitted with he | ⟨-, q, hq, he, -⟩
    · exact h.submitted submitted (he ▸ hm)
    · cases he.symm.trans hm
      exact ⟨_, q.transactions, rt.committedSurfaces, h.queued q hq, hsound.nodup, rfl⟩
  | pageFlip os ust msc =>
    have hs := (pageFlip_frame rt os ust msc).2.1
    refine h.of_subset (fun q hm => ?_) (fun submitted hm => ?_)
    · rw [step, hs] at hm
      exact hm
    · rw [step, hs] at hm
      cases hm
  | shutdown os =>
    obtain ⟨-, -, hq, hs⟩ := shutdown_frame rt os
    refine h.of_subset (fun q hm => ?_) (fun submitted hm => ?_)
    · rw [step, hq] at hm
      cases hm
    · rw [step, hs] at hm
      cases hm

/-- What a page flip puts on screen is from a transaction of the presentation in flight. -/
theorem committed_pageFlip (h : Sound rt) (hq : QueuedFrom P rt) {os : Os} {ust msc : UInt64}
    {entry : CommittedSurfaceState}
    (hentry : entry ∈ (step rt (.pageFlip os ust msc)).committedSurfaces) :
    entry ∈ rt.committedSurfaces ∨ ∃ submitted ∈ rt.scheduler.submitted,
      (applyPreparedSurfaceCommit submitted.prepared rt.committedSurfaces).1.outcome = .committed ∧
      entry.surface ∈ submitted.prepared.commit.appliedSurfaces ∧
      ∃ t transactions committed, P transactions ∧
        submitted.prepared = prepareFullStatePresent t transactions committed ∧
        ∃ tx ∈ transactions, Shows entry tx := by
  have hfind := (mem_iff_find (sound_step h (.pageFlip os ust msc)).nodup).mp hentry
  rw [step, (pageFlip_frame rt os ust msc).2.2] at hfind
  cases hsub : rt.scheduler.submitted with
  | none =>
    rw [hsub] at hfind
    exact Or.inl ((mem_iff_find h.nodup).mpr hfind)
  | some submitted =>
    rw [hsub] at hfind
    dsimp only at hfind
    by_cases ho : (applyPreparedSurfaceCommit submitted.prepared
        rt.committedSurfaces).1.outcome = .committed
    swap
    · rw [apply_of_not_committed ho] at hfind
      exact Or.inl ((mem_iff_find h.nodup).mpr hfind)
    by_cases hmem : entry.surface ∈ submitted.prepared.commit.appliedSurfaces
    swap
    · rw [find_apply_untouched hmem] at hfind
      exact Or.inl ((mem_iff_find h.nodup).mpr hfind)
    obtain ⟨t, transactions, committed, hp, hn, hprep⟩ := hq.submitted submitted hsub
    have hfrom : PreparedFrom (Rebased transactions) submitted.prepared :=
      hprep ▸ preparedFrom_fullStatePresent hn
    obtain ⟨tx, ⟨original, horig, generation, rfl⟩, -, -, hcand⟩ := hfrom _ hmem
    rw [find_apply_touched ho hmem, hcand] at hfind
    have he : nextState { original with previousCommittedGeneration := generation } = entry :=
      Option.some.inj hfind
    refine Or.inr ⟨submitted, rfl, ho, hmem, t, transactions, committed, hp, hprep, original,
      horig, ?_⟩
    subst he
    exact ⟨rfl, rfl, rfl⟩

end Queue

/-- What is queued or in flight came in with a Present batch of the history. -/
structure Traceable (before : List Action) (rt : LiveProductionVisualRuntime) : Prop where
  queued : ∀ q ∈ rt.scheduler.queued, PresentedIn before q.transactions
  submitted : ∀ submitted ∈ rt.scheduler.submitted, ∃ t transactions committed,
    PresentedIn before transactions ∧ NodupSurfaces committed ∧
      submitted.prepared = prepareFullStatePresent t transactions committed

theorem traceable_iff : Traceable before rt ↔ QueuedFrom (PresentedIn before) rt :=
  ⟨fun h => ⟨h.queued, h.submitted⟩, fun h => ⟨h.queued, h.submitted⟩⟩

theorem PresentedIn.mono {transactions : List SurfaceTransaction} (a : Action)
    (h : PresentedIn before transactions) : PresentedIn (before ++ [a]) transactions := by
  obtain ⟨env, batch, hm, hrest⟩ := h
  exact ⟨env, batch, List.mem_append_left _ hm, hrest⟩

theorem traceable_step (hsound : Sound rt) (h : Traceable before rt) (a : Action) :
    Traceable (before ++ [a]) (step rt a) := by
  have hmono := (traceable_iff.mp h).mono fun _ hp => hp.mono a
  refine traceable_iff.mpr (queuedFrom_step hsound hmono a ?_)
  rintro env batch rfl hb
  exact ⟨env, batch, by simp, hb, rfl⟩

/-- A completed page flip shows what it applies. -/
theorem showsApplied_pageFlip (h : Sound rt) (ht : Traceable before rt) (os : Os)
    (ust msc : UInt64) : ShowsApplied before rt (.pageFlip os ust msc) := by
  intro entry hentry
  refine (committed_pageFlip h (traceable_iff.mp ht) hentry).imp_right ?_
  rintro ⟨submitted, hsub, ho, hmem, t, transactions, committed, hin, hprep, tx, htx, hshows⟩
  have hsurface := hshows.1.symm ▸ hmem
  exact ⟨tx, ⟨submitted, hsub, ho, hsurface, transactions, hin, htx, t, committed, hprep⟩, hshows⟩

theorem showsApplied_of_committed_eq {a : Action}
    (he : (step rt a).committedSurfaces = rt.committedSurfaces) : ShowsApplied before rt a :=
  fun _ hentry => Or.inl (he ▸ hentry)

theorem seedingHolds_iff (h : Sound rt) (ht : Traceable before rt) (a : Action) :
    (ShowsApplied before rt a ∧ SeedingKeepsCurrent rt a) ↔ SeedingHolds rt a := by
  cases a with
  | cpuCycle env batch => exact seedsOwn_iff h (committed_cpuCycle rt env batch)
  | runBatch env batch =>
    by_cases hb : batch.presentSubmissions = []
    · have hiff := seedsOwn_iff h (committed_runBatch rt env hb)
      simp only [SeedingHolds, SeedingKeepsCurrent, ShowsApplied, AppliedBy, hb, true_and,
        true_imp_iff]
      exact hiff
    · have hp := presented_runBatch rt env hb
      simp only [SeedingHolds, SeedingKeepsCurrent, hb, false_imp_iff, and_true, iff_true]
      exact showsApplied_of_committed_eq hp.committed
  | drive env =>
    exact iff_of_true ⟨showsApplied_of_committed_eq (driven_drive rt env).committed, trivial⟩ trivial
  | pageFlip os ust msc => exact iff_of_true ⟨showsApplied_pageFlip h ht os ust msc, trivial⟩ trivial
  | shutdown os =>
    exact iff_of_true ⟨showsApplied_of_committed_eq (shutdown_frame rt os).1, trivial⟩ trivial

end Step

/-- Some action of the run applied a transaction that the entry shows. -/
def AppliedIn (start : LiveProductionVisualRuntime) (actions : List Action)
    (entry : CommittedSurfaceState) : Prop :=
  ∃ before a after tx, actions = before ++ a :: after ∧
    AppliedBy before (Run.exec step start before) a tx ∧ Shows entry tx

theorem AppliedIn.mono {start : LiveProductionVisualRuntime} {actions : List Action}
    {entry : CommittedSurfaceState} (a : Action) (h : AppliedIn start actions entry) :
    AppliedIn start (actions ++ [a]) entry := by
  obtain ⟨before, b, after, tx, rfl, hrest⟩ := h
  exact ⟨before, b, after ++ [a], tx, by simp, hrest⟩

theorem traceable_run {scheduler : LiveProductionPresentScheduler} (hq : scheduler.queued = [])
    (hs : scheduler.submitted = none) (actions : List Action) :
    Traceable actions (Run.exec step (.withCommittedSurfaces [] scheduler) actions) := by
  have hfree : Run.Guarded step (fun _ _ => True)
      (LiveProductionVisualRuntime.withCommittedSurfaces [] scheduler) actions := Run.guarded_true
  refine Run.history_induction (P := Traceable) ?_ ?_ hfree
  · constructor <;> simp [LiveProductionVisualRuntime.withCommittedSurfaces, hq, hs]
  · intro before a _ h
    exact traceable_step (sound_run Keyed.nodupKeys_nil hs before) h a

/-- Every step of a run shows only what it applies and keeps the presentation in flight current
exactly when each batch seeds no more than its own ready transactions; in such a run everything
on screen was applied. -/
theorem visible_only_when_applied {scheduler : LiveProductionPresentScheduler}
    (hq : scheduler.queued = []) (hs : scheduler.submitted = none) (actions : List Action) :
    let start := LiveProductionVisualRuntime.withCommittedSurfaces [] scheduler
    (Run.GuardedBy step (fun before rt a => ShowsApplied before rt a ∧ SeedingKeepsCurrent rt a)
      start actions ↔ Run.Guarded step SeedingHolds start actions) ∧
    (Run.Guarded step SeedingHolds start actions →
      ∀ entry ∈ (Run.exec step start actions).committedSurfaces, AppliedIn start actions entry) := by
  intro start
  have hiff (before : List Action) (a : Action) :=
    seedingHolds_iff (sound_run Keyed.nodupKeys_nil hs before) (traceable_run hq hs before) a
  refine ⟨?_, ?_⟩
  · constructor
    · exact fun h before a after he => (hiff before a).mp (h before a after he)
    · exact fun h before a after he => (hiff before a).mpr (h before a after he)
  · refine Run.history_induction (P := fun actions (rt : LiveProductionVisualRuntime) =>
      ∀ entry ∈ rt.committedSurfaces, AppliedIn start actions entry) ?_ ?_
    · intro entry hentry
      cases hentry
    · intro before a hguard hbefore entry hentry
      have hshows := ((hiff before a).mpr hguard.last).1
      rcases hshows entry hentry with hold | ⟨tx, happlied, hx⟩
      · exact (hbefore entry hold).mono a
      · exact ⟨before, a, [], tx, rfl, happlied, hx⟩

/-- One window draws, another presents, and its frame is flipped. -/
def drawnThenPresented : List Action :=
  [.cpuCycle Sample.env { Sample.drawBatch ⟨1⟩ ⟨1, 1⟩ 1 1 with
      dmaBufRegistrations := [⟨Sample.descriptor ⟨7⟩, [3]⟩] },
   .runBatch Sample.env (Sample.presentBatch ⟨2⟩ ⟨2, 1⟩ 1 ⟨7⟩),
   .pageFlip Sample.os 1 1]

theorem drawn_then_presented_applied :
    let start := LiveProductionVisualRuntime.withCommittedSurfaces [] {}
    (Run.exec step start drawnThenPresented).committedSurfaces.length = 2 ∧
    ∀ entry ∈ (Run.exec step start drawnThenPresented).committedSurfaces,
      AppliedIn start drawnThenPresented entry := by
  intro start
  refine ⟨by decide +kernel, (visible_only_when_applied rfl rfl drawnThenPresented).2 ?_⟩
  refine .cons ?_ (.cons ?_ (.cons trivial Run.guarded_nil))
  · -- Only the drawn surface is in the layer map yet.
    intro _ s hs
    have hone : s = ⟨1, 1⟩ := by
      by_contra hne
      refine hs.2.2 ?_
      rw [getElem?_updateLayers_of_forall_ne]
      · simp [LiveProductionVisualRuntime.withCommittedSurfaces]
      · simpa [Sample.drawBatch, SurfaceTransaction.draw] using fun he => hne he.symm
    subst hone
    refine ⟨by decide +kernel, ⟨_, List.mem_singleton_self _, rfl⟩, ?_⟩
    intro submitted hsub
    cases hsub
  · intro hb
    simp [Sample.presentBatch] at hb

/-- A window draws before its content is ready. -/
def drawnPending : List Action :=
  [.cpuCycle Sample.env
    { transaction := ⟨1⟩
      transactions := [{ SurfaceTransaction.draw ⟨1⟩ ⟨1, 1⟩ 1 1 with readiness := .pending }] }]

/-- One window presents its first frame and another draws while that frame is in flight. -/
def drawnDuringPresent : List Action :=
  [.cpuCycle Sample.env
    { transaction := ⟨1⟩, transactions := []
      dmaBufRegistrations := [⟨Sample.descriptor ⟨7⟩, [3]⟩] },
   .runBatch Sample.env (Sample.presentBatch ⟨2⟩ ⟨1, 1⟩ 1 ⟨7⟩),
   .cpuCycle Sample.env (Sample.drawBatch ⟨3⟩ ⟨2, 1⟩ 1 1)]

/-- The pending buffer and the buffer of the presentation in flight are both on screen, and the
presentation has become stale. -/
theorem unapplied_buffers_shown :
    let start := LiveProductionVisualRuntime.withCommittedSurfaces [] {}
    (∃ entry ∈ (Run.exec step start drawnPending).committedSurfaces,
      ¬ AppliedIn start drawnPending entry) ∧
    (∃ entry ∈ (Run.exec step start drawnDuringPresent).committedSurfaces,
      entry.buffer = .dmaBuf 7 ∧ ¬ AppliedIn start drawnDuringPresent entry) ∧
    ∃ submitted ∈ (Run.exec step start drawnDuringPresent).scheduler.submitted,
      ¬ submitted.prepared.TouchedBaselineIsCurrent
        (Run.exec step start drawnDuringPresent).committedSurfaces := by
  intro start
  refine ⟨?_, ?_, by decide +kernel⟩
  · refine ⟨⟨⟨1, 1⟩, 1, ⟨0, 0, 8, 8⟩, .cpuBuffer 1, .empty⟩, by decide +kernel, ?_⟩
    rintro ⟨before, a, after, tx, he, happlied, -⟩
    rcases before with _ | ⟨_, _⟩
    · cases he
      exact absurd happlied.1.2 (by decide +kernel)
    · simp [drawnPending] at he
  · refine ⟨⟨⟨1, 1⟩, 1, ⟨0, 0, 8, 8⟩, .dmaBuf 7, .empty⟩, by decide +kernel, rfl, ?_⟩
    rintro ⟨before, a, after, tx, he, happlied, hx⟩
    rcases before with _ | ⟨_, _ | ⟨_, _ | ⟨_, _⟩⟩⟩
    · cases he
      cases happlied.2
    · cases he
      cases happlied.1
    · cases he
      cases List.mem_singleton.mp happlied.2
      cases hx.1
    · simp [drawnDuringPresent] at he

end Sophia.Backend
