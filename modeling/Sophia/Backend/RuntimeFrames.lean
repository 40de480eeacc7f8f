import Sophia.Backend.VisualRuntime

/-! What each runtime operation does to the committed vector, the layers and the queue. -/
namespace Sophia.Backend

open Protocol Engine Renderer Std Ordered

section Layers

variable {layers : ExtTreeMap SurfaceId SurfaceTransaction} {removedSurfaces : List SurfaceId}
  {transactions : List SurfaceTransaction} {s : SurfaceId}

abbrev LayersKeyed (layers : ExtTreeMap SurfaceId SurfaceTransaction) : Prop :=
  KeyedBy SurfaceTransaction.surface layers

theorem layersKeyed_updateLayers (h : LayersKeyed layers) :
    LayersKeyed (updateLayers layers removedSurfaces transactions) :=
  List.foldlRecOn (motive := LayersKeyed) _ _ (h.filter _) fun _ hl tx _ => hl.insert tx

/-- The last transaction of a surface is its layer. -/
theorem getElem?_updateLayers :
    (updateLayers layers removedSurfaces transactions)[s]? =
      (Keyed.lookup SurfaceTransaction.surface transactions.reverse s).or
        (if s ∈ removedSurfaces then none else layers[s]?) := by
  have hfold (m : ExtTreeMap SurfaceId SurfaceTransaction) :
      (transactions.foldl (fun m tx => m.insert tx.surface tx) m)[s]? =
        (Keyed.lookup SurfaceTransaction.surface transactions.reverse s).or m[s]? := by
    induction transactions generalizing m with
    | nil => rfl
    | cons tx txs ih =>
      rw [List.foldl_cons, ih, List.reverse_cons, Keyed.lookup_append, Option.or_assoc,
        Keyed.lookup_cons]
      by_cases h : tx.surface = s <;> simp [ExtTreeMap.getElem?_insert, h]
  rw [updateLayers, hfold, ExtTreeMap.getElem?_filter']
  by_cases hs : s ∈ removedSurfaces <;> cases layers[s]? <;> simp [Option.filter, hs]

theorem getElem?_updateLayers_of_forall_ne (h : ∀ tx ∈ transactions, tx.surface ≠ s) :
    (updateLayers layers removedSurfaces transactions)[s]? =
      if s ∈ removedSurfaces then none else layers[s]? := by
  rw [getElem?_updateLayers, Keyed.lookup_reverse_eq_none_iff.mpr h, Option.none_or]

theorem getElem?_updateLayers_singleton (tx : SurfaceTransaction) :
    (updateLayers layers removedSurfaces [tx])[tx.surface]? = some tx := by
  simp [updateLayers]

end Layers

section Seed

variable {existing : List CommittedSurfaceState} {transactions : List SurfaceTransaction}
  {layers : ExtTreeMap SurfaceId SurfaceTransaction} {s : SurfaceId}

theorem keyedBy_seedMap :
    KeyedBy CommittedSurfaceState.surface (transactions.foldl
      (fun m tx => m.insertIfNew tx.surface (seedState tx))
      (existing.foldl (fun m state => m.insert state.surface state)
        (∅ : ExtTreeMap SurfaceId CommittedSurfaceState))) := by
  refine List.foldlRecOn (motive := KeyedBy CommittedSurfaceState.surface) _ _ ?_
    fun _ hm tx _ => hm.insertIfNew (seedState tx)
  exact List.foldlRecOn (motive := KeyedBy CommittedSurfaceState.surface) _ _ keyedBy_empty
    fun _ hm state _ => hm.insert state

theorem nodup_seedMissing : NodupSurfaces (seedMissingCommittedSurfaces existing transactions) :=
  keyedBy_seedMap.nodup_values

theorem getElem?_foldl_insert_state (hn : NodupSurfaces existing)
    (m : ExtTreeMap SurfaceId CommittedSurfaceState) :
    (existing.foldl (fun m state => m.insert state.surface state) m)[s]? =
      (find existing s).or m[s]? := by
  induction existing generalizing m with
  | nil => simp
  | cons state states ih =>
    obtain ⟨hx, hn⟩ := List.nodup_cons.mp (show (state.surface :: states.map _).Nodup from hn)
    rw [List.foldl_cons, ih hn]
    simp only [find, Keyed.lookup_cons]
    by_cases h : state.surface = s
    · have hnone : find states s = none := by
        refine Keyed.lookup_eq_none_iff.mpr ?_
        intro y hy he
        exact hx (List.mem_map.mpr ⟨y, hy, he.trans h.symm⟩)
      simp [h, hnone]
    · simp [ExtTreeMap.getElem?_insert, h]

theorem getElem?_foldl_insertIfNew (m : ExtTreeMap SurfaceId CommittedSurfaceState) :
    (transactions.foldl (fun m tx => m.insertIfNew tx.surface (seedState tx)) m)[s]? =
      m[s]?.or ((Keyed.lookup SurfaceTransaction.surface transactions s).map seedState) := by
  induction transactions generalizing m with
  | nil => simp
  | cons tx txs ih =>
    rw [List.foldl_cons, ih, Keyed.lookup_cons, ExtTreeMap.getElem?_insertIfNew]
    by_cases h : tx.surface = s
    · subst h
      by_cases hm : tx.surface ∈ m
      · simp [hm]
      · simp [hm]
    · simp [h]

/-- Seeding keeps what is committed and takes the latest transaction for what is not. -/
theorem find_seedMissing (hn : NodupSurfaces existing) (hl : LayersKeyed layers) (s : SurfaceId) :
    find (seedMissingCommittedSurfaces existing (values layers)) s =
      (find existing s).or (layers[s]?.map seedState) := by
  rw [seedMissingCommittedSurfaces, find, keyedBy_seedMap.lookup_values,
    getElem?_foldl_insertIfNew, getElem?_foldl_insert_state hn, hl.lookup_values]
  simp

theorem namesUncommitted_iff {committed : List CommittedSurfaceState} :
    namesUncommitted transactions committed = true ↔
      ∃ tx ∈ transactions, find committed tx.surface = none := by
  simp only [namesUncommitted, List.any_eq_true, Bool.not_eq_true', List.any_eq_false,
    decide_eq_true_eq]
  constructor
  · rintro ⟨tx, htx, h⟩
    exact ⟨tx, htx, Keyed.lookup_eq_none_iff.mpr h⟩
  · rintro ⟨tx, htx, h⟩
    exact ⟨tx, htx, Keyed.lookup_eq_none_iff.mp h⟩

end Seed
section Authority

variable {rt : LiveProductionVisualRuntime} {layers : ExtTreeMap SurfaceId SurfaceTransaction}
  {transaction : TransactionId} {transactions : List SurfaceTransaction}
  {removedSurfaces : List SurfaceId}

theorem nodup_seededFor (hn : NodupSurfaces rt.committedSurfaces) :
    NodupSurfaces (rt.seededFor layers transactions) := by
  unfold LiveProductionVisualRuntime.seededFor
  split
  · exact nodup_seedMissing
  · exact hn

/-- After seeding, a surface is committed as before, or from its layer. -/
theorem find_seededFor (hn : NodupSurfaces rt.committedSurfaces) (hl : LayersKeyed layers)
    (s : SurfaceId) :
    find (rt.seededFor layers transactions) s =
      (find rt.committedSurfaces s).or
        (if namesUncommitted transactions rt.committedSurfaces then layers[s]?.map seedState
          else none) := by
  unfold LiveProductionVisualRuntime.seededFor
  split
  · exact find_seedMissing hn hl s
  · simp

end Authority

section Frames

variable {rt : LiveProductionVisualRuntime}

@[simp] theorem rejectGpuPresentation_committed (os : Os) (t : TransactionId) (ust msc : UInt64) :
    (rt.rejectGpuPresentation os t ust msc).committedSurfaces = rt.committedSurfaces := by
  unfold LiveProductionVisualRuntime.rejectGpuPresentation
  split <;> rfl

@[simp] theorem rejectGpuPresentation_layers (os : Os) (t : TransactionId) (ust msc : UInt64) :
    (rt.rejectGpuPresentation os t ust msc).layers = rt.layers := by
  unfold LiveProductionVisualRuntime.rejectGpuPresentation
  split <;> rfl

@[simp] theorem rejectGpuPresentation_scheduler (os : Os) (t : TransactionId)
    (ust msc : UInt64) : (rt.rejectGpuPresentation os t ust msc).scheduler = rt.scheduler := by
  unfold LiveProductionVisualRuntime.rejectGpuPresentation
  split <;> rfl

/-- Driving the queue shows nothing: it drops presentations, or turns one into the submitted
presentation, prepared over the committed vector of that moment. -/
structure Driven (rt rt' : LiveProductionVisualRuntime) : Prop where
  committed : rt'.committedSurfaces = rt.committedSurfaces
  layers : rt'.layers = rt.layers
  queued : ∀ q ∈ rt'.scheduler.queued, q ∈ rt.scheduler.queued
  submitted : rt'.scheduler.submitted = rt.scheduler.submitted ∨
    rt.scheduler.submitted = none ∧ ∃ q ∈ rt.scheduler.queued,
      rt'.scheduler.submitted = some ⟨q.submission.transaction, q.surface,
        prepareFullStatePresent q.submission.transaction q.transactions rt.committedSurfaces⟩ ∧
      (prepareFullStatePresent q.submission.transaction q.transactions
        rt.committedSurfaces).isReady = true

theorem Driven.of_popFront {rt' : LiveProductionVisualRuntime}
    (hc : rt'.committedSurfaces = rt.committedSurfaces) (hl : rt'.layers = rt.layers)
    (hq : rt'.scheduler.queued = rt.scheduler.queued ∨
      rt'.scheduler.queued = rt.scheduler.queued.tail)
    (hs : rt'.scheduler.submitted = rt.scheduler.submitted) : Driven rt rt' where
  committed := hc
  layers := hl
  queued := by
    rcases hq with hq | hq <;> rw [hq]
    · exact fun q h => h
    · exact fun q h => List.mem_of_mem_tail h
  submitted := Or.inl hs

theorem driven_submitFront (env : Env) (reply : NativeScanoutReply)
    {q : LiveProductionQueuedPresent} {rest : List LiveProductionQueuedPresent}
    (front : rt.scheduler.queued = q :: rest) (free : rt.scheduler.submitted = none) :
    Driven rt (rt.submitFront env reply q.submission.transaction).2 := by
  have hkeep : Driven rt rt := .of_popFront rfl rfl (Or.inl rfl) rfl
  have hskip : Driven rt (rt.popFront.rejectGpuPresentation env.os q.submission.transaction 0 0) :=
    .of_popFront (by simp [LiveProductionVisualRuntime.popFront])
      (by simp [LiveProductionVisualRuntime.popFront])
      (Or.inr (by simp [LiveProductionVisualRuntime.popFront,
        LiveProductionPresentScheduler.popFront]))
      (by simp [LiveProductionVisualRuntime.popFront, LiveProductionPresentScheduler.popFront])
  unfold LiveProductionVisualRuntime.submitFront
  rw [front]
  dsimp only
  split
  · exact hskip
  rename_i hready
  split
  · exact hkeep
  · exact hkeep
  split
  · exact hkeep
  split
  · exact .of_popFront rfl rfl (Or.inr rfl) rfl
  split
  · exact hkeep
  · split
    · exact hkeep
    · refine ⟨rfl, rfl, fun q' h => List.mem_of_mem_tail h, Or.inr ⟨free, q, ?_, rfl, ?_⟩⟩
      · rw [front]
        exact List.mem_cons_self
      · simpa using hready
  · exact hkeep
  · exact hkeep
  · exact hkeep
  · exact hskip

theorem driven_drive (rt : LiveProductionVisualRuntime) (env : Env) :
    Driven rt (rt.driveGpuPresentation env).2 := by
  obtain ⟨houtcome, -⟩ := LiveProductionPresentScheduler.pollGate_outcome rt.scheduler
    env.os env.polledAt rt.resources
  unfold LiveProductionVisualRuntime.driveGpuPresentation
  rcases hgate : rt.scheduler.pollGate env.os env.polledAt rt.resources with
    ⟨gate, scheduler, resources⟩
  rw [hgate] at houtcome
  dsimp only at houtcome
  cases houtcome with
  | failed => exact .of_popFront rfl rfl (Or.inl rfl) rfl
  | idle => exact .of_popFront rfl rfl (Or.inl rfl) rfl
  | inFlight => exact .of_popFront rfl rfl (Or.inl rfl) rfl
  | waiting => exact .of_popFront rfl rfl (Or.inl rfl) rfl
  | reject flag front free =>
    exact .of_popFront (by simp) (by simp)
      (Or.inr (by simp [LiveProductionPresentScheduler.popFront])) (by
        simp [LiveProductionPresentScheduler.popFront])
  | @ready q rest front free acquired =>
    dsimp only
    split
    · exact .of_popFront (by simp [LiveProductionVisualRuntime.popFront])
        (by simp [LiveProductionVisualRuntime.popFront])
        (Or.inr (by simp [LiveProductionVisualRuntime.popFront,
          LiveProductionPresentScheduler.popFront]))
        (by simp [LiveProductionVisualRuntime.popFront, LiveProductionPresentScheduler.popFront])
    · rename_i reply _
      have hd : Driven { rt with resources := resources } _ :=
        driven_submitFront env reply front free
      exact ⟨hd.committed, hd.layers, hd.queued, hd.submitted⟩

/-- The registrations, fences and retirements the batch carries are all taken. -/
def LiveProductionVisualRuntime.observes (rt : LiveProductionVisualRuntime) (env : Env)
    (batch : LiveProductionAuthorityBatch) : Bool :=
  (observeAuthorityResources env.intake batch rt.resources).1.isOk

/-- Its Present submissions all join the queue. -/
def LiveProductionVisualRuntime.enqueues (rt : LiveProductionVisualRuntime) (env : Env)
    (batch : LiveProductionAuthorityBatch) : Bool :=
  (rt.scheduler.enqueueBatch env.intake env.enqueuedAt batch
    (observeAuthorityResources env.intake batch rt.resources).2).1.isOk

/-- The committed vector a batch is validated against, once its own layers are in. -/
def LiveProductionVisualRuntime.validatedAgainst (rt : LiveProductionVisualRuntime)
    (batch : LiveProductionAuthorityBatch) : List CommittedSurfaceState :=
  rt.seededFor (updateLayers rt.layers batch.removedSurfaces batch.transactions)
    batch.transactions

/-- An authority batch without Present submissions: layers, seeding and commit, unless its
resources are refused. -/
structure Committed (rt rt' : LiveProductionVisualRuntime) (env : Env)
    (batch : LiveProductionAuthorityBatch) : Prop where
  scheduler : rt'.scheduler = rt.scheduler
  refused : rt.observes env batch = false →
    rt'.committedSurfaces = rt.committedSurfaces ∧ rt'.layers = rt.layers
  observed : rt.observes env batch = true →
    rt'.layers = updateLayers rt.layers batch.removedSurfaces batch.transactions ∧
    rt'.committedSurfaces = (AuthorityTransactionIntake.commit
      ⟨batch.transaction, batch.transactions, batch.removedSurfaces⟩
      (rt.validatedAgainst batch)).2

theorem committed_cpuCycle (rt : LiveProductionVisualRuntime) (env : Env)
    (batch : LiveProductionAuthorityBatch) :
    Committed rt (rt.runCpuProductionCycle env batch).2 env batch := by
  unfold LiveProductionVisualRuntime.runCpuProductionCycle
  rcases he : observeAuthorityResources env.intake batch rt.resources with ⟨error | ⟨⟩, resources⟩
  · refine ⟨rfl, fun _ => ⟨rfl, rfl⟩, fun ho => ?_⟩
    simp [LiveProductionVisualRuntime.observes, he, Except.isOk, Except.toBool] at ho
  · refine ⟨rfl, fun ho => ?_, fun _ => ⟨rfl, rfl⟩⟩
    simp [LiveProductionVisualRuntime.observes, he, Except.isOk, Except.toBool] at ho

/-- Without Present submissions `runBatch` and the CPU cycle do the same to the runtime. -/
theorem runBatch_of_no_submissions (rt : LiveProductionVisualRuntime) (env : Env)
    {batch : LiveProductionAuthorityBatch} (hb : batch.presentSubmissions = []) :
    (rt.runBatch env batch).2 = (rt.runCpuProductionCycle env batch).2 := by
  unfold LiveProductionVisualRuntime.runBatch LiveProductionVisualRuntime.runCpuProductionCycle
  split
  · rfl
  · rw [if_neg (by simp [hb])]

theorem committed_runBatch (rt : LiveProductionVisualRuntime) (env : Env)
    {batch : LiveProductionAuthorityBatch} (hb : batch.presentSubmissions = []) :
    Committed rt (rt.runBatch env batch).2 env batch := by
  rw [runBatch_of_no_submissions rt env hb]
  exact committed_cpuCycle rt env batch

/-- A Present batch: some submissions join the queue, the layers follow, the queue is driven. -/
structure Presented (rt rt' : LiveProductionVisualRuntime) (env : Env)
    (batch : LiveProductionAuthorityBatch) : Prop where
  committed : rt'.committedSurfaces = rt.committedSurfaces
  layers : rt'.layers = if rt.observes env batch ∧ rt.enqueues env batch then
    updateLayers rt.layers batch.removedSurfaces batch.transactions else rt.layers
  queued : ∀ q ∈ rt'.scheduler.queued, q ∈ rt.scheduler.queued ∨ q.transactions = batch.transactions
  submitted : rt'.scheduler.submitted = rt.scheduler.submitted ∨
    rt.scheduler.submitted = none ∧ ∃ t s transactions,
      (transactions = batch.transactions ∨
        ∃ q ∈ rt.scheduler.queued, q.transactions = transactions) ∧
      rt'.scheduler.submitted =
        some ⟨t, s, prepareFullStatePresent t transactions rt.committedSurfaces⟩ ∧
      (prepareFullStatePresent t transactions rt.committedSurfaces).isReady = true

theorem enqueueBatch_frame (os : Os) (now : Instant) (batch : LiveProductionAuthorityBatch)
    (scheduler : LiveProductionPresentScheduler) (r : LiveDmaBufPresentationRegistry) :
    (∀ q ∈ (scheduler.enqueueBatch os now batch r).2.1.queued,
      q ∈ scheduler.queued ∨ q.transactions = batch.transactions) ∧
    (scheduler.enqueueBatch os now batch r).2.1.submitted = scheduler.submitted := by
  refine Run.tryEach_invariant (LiveProductionPresentScheduler.enqueue os now batch)
    (fun state => (∀ q ∈ state.1.queued, q ∈ scheduler.queued ∨ q.transactions = batch.transactions) ∧
      state.1.submitted = scheduler.submitted) ?_ batch.presentSubmissions ⟨fun q => Or.inl, rfl⟩
  rintro state submission state' he ⟨hq, hs⟩
  obtain ⟨q, -, -, ht, happ, hsub, -⟩ := LiveProductionPresentScheduler.enqueue_ok he
  refine ⟨fun q' hm => ?_, hsub.trans hs⟩
  rw [happ] at hm
  rcases List.mem_append.mp hm with hm | hm
  · exact hq q' hm
  · rw [List.mem_singleton.mp hm]
    exact Or.inr ht

theorem presented_runBatch (rt : LiveProductionVisualRuntime) (env : Env)
    {batch : LiveProductionAuthorityBatch} (hb : batch.presentSubmissions ≠ []) :
    Presented rt (rt.runBatch env batch).2 env batch := by
  unfold LiveProductionVisualRuntime.runBatch
  rcases ho : observeAuthorityResources env.intake batch rt.resources with ⟨error | ⟨⟩, resources⟩
  · refine ⟨rfl, ?_, fun q => Or.inl, Or.inl rfl⟩
    rw [if_neg (by simp [LiveProductionVisualRuntime.observes, ho, Except.isOk, Except.toBool])]
  dsimp only
  rw [if_pos hb]
  obtain ⟨hq, hs⟩ := enqueueBatch_frame env.intake env.enqueuedAt batch rt.scheduler resources
  rcases he : rt.scheduler.enqueueBatch env.intake env.enqueuedAt batch resources with
    ⟨error | ⟨⟩, scheduler, resources'⟩ <;> rw [he] at hq hs
  · refine ⟨rfl, ?_, hq, Or.inl hs⟩
    rw [if_neg (by simp [LiveProductionVisualRuntime.enqueues, ho, he, Except.isOk, Except.toBool])]
  dsimp only at hq hs ⊢
  have hd := driven_drive { rt with
    scheduler := scheduler
    resources := resources'
    layers := updateLayers rt.layers batch.removedSurfaces batch.transactions } env
  refine ⟨hd.committed, ?_, fun q h => hq q (hd.queued q h), ?_⟩
  · rw [if_pos (by simp [LiveProductionVisualRuntime.observes,
      LiveProductionVisualRuntime.enqueues, ho, he, Except.isOk, Except.toBool])]
    exact hd.layers
  rcases hd.submitted with h | ⟨hfree, q, hm, he, hr⟩
  · exact Or.inl (h.trans hs)
  · refine Or.inr ⟨hs.symm.trans hfree, q.submission.transaction, q.surface, q.transactions, ?_,
      he, hr⟩
    rcases hq q hm with h | h
    · exact Or.inr ⟨q, h, rfl⟩
    · exact Or.inl h

theorem pageFlip_frame (rt : LiveProductionVisualRuntime) (os : Os) (ust msc : UInt64) :
    (rt.finalizeGpuPageFlip os ust msc).2.layers = rt.layers ∧
    (rt.finalizeGpuPageFlip os ust msc).2.scheduler = { rt.scheduler with submitted := none } ∧
    (rt.finalizeGpuPageFlip os ust msc).2.committedSurfaces =
      match rt.scheduler.submitted with
      | none => rt.committedSurfaces
      | some submitted =>
        (applyPreparedSurfaceCommit submitted.prepared rt.committedSurfaces).2 := by
  unfold LiveProductionVisualRuntime.finalizeGpuPageFlip
  cases hs : rt.scheduler.submitted with
  | none =>
    refine ⟨rfl, ?_, rfl⟩
    show rt.scheduler = { rt.scheduler with submitted := none }
    rw [← hs]
  | some submitted =>
    dsimp only
    split
    · exact ⟨rfl, rfl, rfl⟩
    split <;> exact ⟨rfl, rfl, rfl⟩

theorem shutdown_frame (rt : LiveProductionVisualRuntime) (os : Os) :
    (rt.shutdownPresentations os).2.committedSurfaces = rt.committedSurfaces ∧
    (rt.shutdownPresentations os).2.layers = rt.layers ∧
    (rt.shutdownPresentations os).2.scheduler.queued = [] ∧
    (rt.shutdownPresentations os).2.scheduler.submitted = none := by
  have hq : (rt.rejectQueued os).committedSurfaces = rt.committedSurfaces ∧
      (rt.rejectQueued os).layers = rt.layers ∧
      (rt.rejectQueued os).scheduler = { rt.scheduler with queued := [] } :=
    List.foldlRecOn (motive := fun rt' : LiveProductionVisualRuntime =>
      rt'.committedSurfaces = rt.committedSurfaces ∧ rt'.layers = rt.layers ∧
        rt'.scheduler = { rt.scheduler with queued := [] }) _ _ ⟨rfl, rfl, rfl⟩
      fun rt' h t _ => by simpa using h
  have hs : ∀ rt' : LiveProductionVisualRuntime,
      (rt'.rejectSubmitted os).committedSurfaces = rt'.committedSurfaces ∧
      (rt'.rejectSubmitted os).layers = rt'.layers ∧
      (rt'.rejectSubmitted os).scheduler.queued = rt'.scheduler.queued ∧
      (rt'.rejectSubmitted os).scheduler.submitted = none := by
    intro rt'
    unfold LiveProductionVisualRuntime.rejectSubmitted
    split
    · rename_i hnone
      exact ⟨rfl, rfl, rfl, hnone⟩
    · simp
  obtain ⟨hc, hl, hqq, hsub⟩ := hs (rt.rejectQueued os)
  refine ⟨hc.trans hq.1, hl.trans hq.2.1, hqq.trans ?_, hsub⟩
  rw [hq.2.2]

end Frames

/-- What every reachable runtime has: unique surfaces, layers under their own surface, and a
submitted presentation that was prepared, ready, over a vector of unique surfaces. -/
structure Sound (rt : LiveProductionVisualRuntime) : Prop where
  nodup : NodupSurfaces rt.committedSurfaces
  keyed : LayersKeyed rt.layers
  submitted : ∀ sub ∈ rt.scheduler.submitted,
    ∃ t transactions committed, NodupSurfaces committed ∧
      sub.prepared = prepareFullStatePresent t transactions committed ∧
      sub.prepared.isReady = true

theorem sound_committed {rt rt' : LiveProductionVisualRuntime}
    {env : Env} {batch : LiveProductionAuthorityBatch} (h : Sound rt)
    (hc : Committed rt rt' env batch) : Sound rt' := by
  refine ⟨?_, ?_, hc.scheduler ▸ h.submitted⟩ <;> cases ho : rt.observes env batch
  · rw [(hc.refused ho).1]
    exact h.nodup
  · rw [(hc.observed ho).2]
    exact nodup_intake (nodup_seededFor h.nodup)
  · rw [(hc.refused ho).2]
    exact h.keyed
  · rw [(hc.observed ho).1]
    exact layersKeyed_updateLayers h.keyed

theorem sound_step {rt : LiveProductionVisualRuntime} (h : Sound rt) (a : Action) :
    Sound (step rt a) := by
  cases a with
  | cpuCycle env batch => exact sound_committed h (committed_cpuCycle rt env batch)
  | runBatch env batch =>
    by_cases hb : batch.presentSubmissions = []
    · exact sound_committed h (committed_runBatch rt env hb)
    · have hp := presented_runBatch rt env hb
      refine ⟨?_, ?_, ?_⟩
      · show NodupSurfaces (rt.runBatch env batch).2.committedSurfaces
        rw [hp.committed]
        exact h.nodup
      · show LayersKeyed (rt.runBatch env batch).2.layers
        rw [hp.layers]
        split
        · exact layersKeyed_updateLayers h.keyed
        · exact h.keyed
      · intro sub hsub
        rcases hp.submitted with he | ⟨-, t, s, transactions, -, he, hr⟩
        · exact h.submitted sub (he ▸ hsub)
        · have hsub : some _ = some sub := he.symm.trans hsub
          cases hsub
          exact ⟨t, transactions, rt.committedSurfaces, h.nodup, rfl, hr⟩
  | drive env =>
    have hd := driven_drive rt env
    refine ⟨?_, ?_, ?_⟩
    · show NodupSurfaces (rt.driveGpuPresentation env).2.committedSurfaces
      rw [hd.committed]
      exact h.nodup
    · show LayersKeyed (rt.driveGpuPresentation env).2.layers
      rw [hd.layers]
      exact h.keyed
    · intro sub hsub
      rcases hd.submitted with he | ⟨-, q, -, he, hr⟩
      · exact h.submitted sub (he ▸ hsub)
      · have hsub : some _ = some sub := he.symm.trans hsub
        cases hsub
        exact ⟨_, q.transactions, rt.committedSurfaces, h.nodup, rfl, hr⟩
  | pageFlip os ust msc =>
    obtain ⟨hl, hs, hc⟩ := pageFlip_frame rt os ust msc
    refine ⟨?_, ?_, ?_⟩
    · show NodupSurfaces (rt.finalizeGpuPageFlip os ust msc).2.committedSurfaces
      rw [hc]
      split
      · exact h.nodup
      · exact nodup_apply h.nodup
    · show LayersKeyed (rt.finalizeGpuPageFlip os ust msc).2.layers
      rw [hl]
      exact h.keyed
    · intro sub hsub
      have hsub : (rt.finalizeGpuPageFlip os ust msc).2.scheduler.submitted = some sub := hsub
      rw [hs] at hsub
      cases hsub
  | shutdown os =>
    obtain ⟨hc, hl, -, hs⟩ := shutdown_frame rt os
    refine ⟨?_, ?_, ?_⟩
    · show NodupSurfaces (rt.shutdownPresentations os).2.committedSurfaces
      rw [hc]
      exact h.nodup
    · show LayersKeyed (rt.shutdownPresentations os).2.layers
      rw [hl]
      exact h.keyed
    · intro sub hsub
      have hsub : (rt.shutdownPresentations os).2.scheduler.submitted = some sub := hsub
      rw [hs] at hsub
      cases hsub

theorem sound_start {committed : List CommittedSurfaceState} (hn : NodupSurfaces committed)
    {scheduler : LiveProductionPresentScheduler} (hs : scheduler.submitted = none) :
    Sound (.withCommittedSurfaces committed scheduler) :=
  ⟨hn, keyedBy_empty, by simp [LiveProductionVisualRuntime.withCommittedSurfaces, hs]⟩

section Batch

variable {rt : LiveProductionVisualRuntime} {env : Env} {batch : LiveProductionAuthorityBatch}

theorem find_validatedAgainst (h : Sound rt) (s : SurfaceId) :
    find (rt.validatedAgainst batch) s = (find rt.committedSurfaces s).or
      (if namesUncommitted batch.transactions rt.committedSurfaces then
        (updateLayers rt.layers batch.removedSurfaces batch.transactions)[s]?.map seedState
      else none) :=
  find_seededFor h.nodup (layersKeyed_updateLayers h.keyed) s

/-- The batch of an authority, taken without Present submissions, ends as committed. -/
def CommitsBatch (rt : LiveProductionVisualRuntime) (env : Env)
    (batch : LiveProductionAuthorityBatch) : Prop :=
  rt.observes env batch = true ∧ (AuthorityTransactionIntake.commit
    ⟨batch.transaction, batch.transactions, batch.removedSurfaces⟩
    (rt.validatedAgainst batch)).1.outcome = .committed

theorem commitsBatch_iff (h : Sound rt) (ho : rt.observes env batch = true) :
    CommitsBatch rt env batch ↔
      BatchReady batch.transaction batch.transactions (rt.validatedAgainst batch) := by
  have hn : NodupSurfaces (rt.validatedAgainst batch) := nodup_seededFor h.nodup
  rw [CommitsBatch, and_iff_right ho, intake_outcome_iff hn]

end Batch

theorem sound_run {committed : List CommittedSurfaceState} (hn : NodupSurfaces committed)
    {scheduler : LiveProductionPresentScheduler} (hs : scheduler.submitted = none)
    (actions : List Action) :
    Sound (Run.exec step (.withCommittedSurfaces committed scheduler) actions) :=
  Run.invariant (sound_start hn hs) (fun _ a _ h => sound_step h a) Run.guarded_true

end Sophia.Backend
