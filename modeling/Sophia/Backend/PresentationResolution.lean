import Sophia.Lib.Ledger
import Sophia.Backend.VisualRuntime

/-! Which presentations reach the feedback sink, how often, and as what. -/
namespace Sophia.Backend

open Protocol Engine Renderer

def LivePresentFeedbackOutcome.transaction (o : LivePresentFeedbackOutcome) : TransactionId :=
  match o.feedback.1 with
  | .complete transaction _ _ _ | .idle transaction => transaction

def LivePresentFeedbackOutcome.mode (o : LivePresentFeedbackOutcome) :
    Option LivePresentCompletionMode :=
  match o.feedback.1 with
  | .complete _ _ _ mode => some mode
  | .idle _ => none

/-- The completion modes the sink received for one presentation, in order. -/
def modesOf (feedback : List LivePresentFeedbackOutcome) (t : TransactionId) :
    List (Option LivePresentCompletionMode) :=
  (feedback.filter fun o => o.transaction = t).map (·.mode)

theorem modesOf_snoc (feedback : List LivePresentFeedbackOutcome) (t k : TransactionId)
    (ust msc : UInt64) (mode : LivePresentCompletionMode)
    (retirement : LivePresentationRetirement) :
    modesOf (feedback ++ [.of t ust msc mode retirement]) k =
      modesOf feedback k ++ if t = k then [some mode] else [] := by
  have ht : (LivePresentFeedbackOutcome.of t ust msc mode retirement).transaction = t := rfl
  have hm : (LivePresentFeedbackOutcome.of t ust msc mode retirement).mode = some mode := rfl
  by_cases h : t = k
  · subst h
    simp [modesOf, ht, hm]
  · simp [modesOf, ht, h]

/-- A flip that was applied is reported as such, everything else as skipped. -/
def verdict (flipped : List TransactionId) (t : TransactionId) :
    Option LivePresentCompletionMode :=
  if t ∈ flipped then some .flip else some .skip

/-- The presentations the scheduler still owes an answer. -/
def pending (scheduler : LiveProductionPresentScheduler) : List TransactionId :=
  scheduler.queued.map (·.submission.transaction) ++
    (scheduler.submitted.map (·.transaction)).toList

/-- Every presentation begun is registered and pending, or has been reported once. -/
structure Resolved (begun flipped : List TransactionId) (rt : LiveProductionVisualRuntime) :
    Prop where
  ledger : Ledger {t | t ∈ begun} {t | t ∈ pending rt.scheduler} (verdict flipped)
    (modesOf rt.feedback)
  registered : ∀ t, (rt.resources.state t).isSome = true ↔ t ∈ pending rt.scheduler
  nodup : (pending rt.scheduler).Nodup
  queued : ∀ q ∈ rt.scheduler.queued,
    rt.resources.state q.submission.transaction ≠ some .submitted
  submitted : ∀ sub, rt.scheduler.submitted = some sub →
    rt.resources.state sub.transaction = some .submitted ∧ sub.prepared.isReady = true
  flips : ∀ t ∈ flipped, t ∈ begun ∧ t ∉ pending rt.scheduler
  quiet : rt.scheduler.diagnoseFirstMixedExport = false

variable {begun flipped : List TransactionId} {rt rt' : LiveProductionVisualRuntime}

theorem pending_front {scheduler : LiveProductionPresentScheduler}
    {q : LiveProductionQueuedPresent} {rest : List LiveProductionQueuedPresent}
    (front : scheduler.queued = q :: rest) :
    pending scheduler = q.submission.transaction :: pending scheduler.popFront := by
  simp [pending, front, LiveProductionPresentScheduler.popFront]

/-- Only the scheduler's queue, the registered states and the feedback matter. -/
theorem Resolved.of_polled (h : Resolved begun flipped rt)
    (hq : rt'.scheduler.queued = rt.scheduler.queued)
    (hs : rt'.scheduler.submitted = rt.scheduler.submitted)
    (hd : rt'.scheduler.diagnoseFirstMixedExport = rt.scheduler.diagnoseFirstMixedExport)
    (hf : rt'.feedback = rt.feedback)
    (hr : LiveProductionPresentScheduler.Polled rt.resources rt'.resources) :
    Resolved begun flipped rt' := by
  have hp : pending rt'.scheduler = pending rt.scheduler := by simp [pending, hq, hs]
  constructor
  · rw [hp, hf]
    exact h.ledger
  · intro t
    rw [hp, ← h.registered t]
    rcases hr t with he | ⟨hw, he⟩
    · rw [he]
    · simp [hw, he]
  · rw [hp]
    exact h.nodup
  · intro q hm
    rw [hq] at hm
    rcases hr q.submission.transaction with he | ⟨-, he⟩
    · rw [he]
      exact h.queued q hm
    · simp [he]
  · intro sub hsub
    rw [hs] at hsub
    obtain ⟨hst, hready⟩ := h.submitted sub hsub
    rcases hr sub.transaction with he | ⟨hw, -⟩
    · exact ⟨he.trans hst, hready⟩
    · simp [hst] at hw
  · rw [hp]
    exact h.flips
  · rw [hd]
    exact h.quiet

/-- Rejecting a pending presentation settles it as skipped and unregisters it. -/
theorem ledger_reject (rt : LiveProductionVisualRuntime) (os : Os) {t : TransactionId} {open' : List TransactionId}
    (hl : Ledger {t | t ∈ begun} {t | t ∈ open'} (verdict flipped) (modesOf rt.feedback))
    (hreg : (rt.resources.state t).isSome = true) (ht : t ∈ open') (hf : t ∉ flipped)
    (hn : open'.Nodup) :
    Ledger {t | t ∈ begun} {k | k ∈ open'.erase t} (verdict flipped)
        (modesOf (rt.rejectGpuPresentation os t 0 0).feedback) ∧
      (∀ k, (rt.rejectGpuPresentation os t 0 0).resources.state k =
        if t = k then none else rt.resources.state k) ∧
      (rt.rejectGpuPresentation os t 0 0).scheduler = rt.scheduler := by
  have hsome := (rt.resources.reject_isSome_iff (os t) t).mpr hreg
  have hstate := rt.resources.state_reject (os t) t
  unfold LiveProductionVisualRuntime.rejectGpuPresentation
  split
  · rename_i he
    simp [he] at hsome
  · rename_i retirement resources he
    rw [he] at hstate
    refine ⟨?_, hstate, rfl⟩
    refine hl.settle ht (fun k => ?_) ?_ fun k hk => ?_
    · simp only [Set.mem_ofPred_eq, hn.mem_erase_iff]
      exact and_comm
    · simp [LiveProductionVisualRuntime.routePresentFeedback, modesOf_snoc, verdict, hf]
    · simp [LiveProductionVisualRuntime.routePresentFeedback, modesOf_snoc, hk.symm]

theorem Resolved.notMem_flipped (h : Resolved begun flipped rt) {t : TransactionId}
    (ht : t ∈ pending rt.scheduler) : t ∉ flipped :=
  fun hf => (h.flips t hf).2 ht

/-- The front of the queue is popped and skipped. -/
theorem Resolved.skip_front (h : Resolved begun flipped rt) (os : Os)
    {q : LiveProductionQueuedPresent} {rest : List LiveProductionQueuedPresent}
    (front : rt.scheduler.queued = q :: rest) {scheduler : LiveProductionPresentScheduler}
    (hq : scheduler.queued = rest) (hs : scheduler.submitted = rt.scheduler.submitted)
    (hd : scheduler.diagnoseFirstMixedExport = rt.scheduler.diagnoseFirstMixedExport) :
    Resolved begun flipped ({ rt with scheduler := scheduler }.rejectGpuPresentation os
      q.submission.transaction 0 0) := by
  have hpop : pending scheduler = pending rt.scheduler.popFront := by
    simp [pending, hq, hs, LiveProductionPresentScheduler.popFront, front]
  have hcons := pending_front front
  rw [← hpop] at hcons
  have hn := h.nodup
  rw [hcons] at hn
  have ht : q.submission.transaction ∈ pending rt.scheduler := by
    rw [hcons]
    exact List.mem_cons_self
  obtain ⟨hl, hstate, hsched⟩ := ledger_reject { rt with scheduler := scheduler } os h.ledger ((h.registered _).mpr ht) ht
    (h.notMem_flipped ht) h.nodup
  have hother : ∀ k ∈ pending scheduler, q.submission.transaction ≠ k :=
    fun k hk he => (List.nodup_cons.mp hn).1 (he ▸ hk)
  constructor
  · rw [hsched]
    simpa [hcons] using hl
  · intro k
    rw [hsched, hstate k]
    by_cases hk : q.submission.transaction = k
    · subst hk
      simpa using (List.nodup_cons.mp hn).1
    · rw [if_neg hk]
      have hr := h.registered k
      rw [hcons] at hr
      simpa [Ne.symm hk] using hr
  · rw [hsched]
    exact (List.nodup_cons.mp hn).2
  · intro q' hq'
    rw [hsched] at hq'
    have hne := hother q'.submission.transaction
      (List.mem_append_left _ (List.mem_map_of_mem hq'))
    rw [hstate, if_neg hne]
    refine h.queued q' ?_
    rw [front]
    exact List.mem_cons_of_mem _ (hq ▸ hq')
  · intro sub hsub
    rw [hsched] at hsub
    have hne := hother sub.transaction
      (List.mem_append_right _ (by simp [show scheduler.submitted = some sub from hsub]))
    rw [hstate, if_neg hne]
    exact h.submitted sub (hs ▸ hsub)
  · intro t hf
    rw [hsched]
    obtain ⟨hb, hnp⟩ := h.flips t hf
    rw [hcons] at hnp
    exact ⟨hb, fun hm => hnp (List.mem_cons_of_mem _ hm)⟩
  · rw [hsched]
    exact hd.trans h.quiet

/-- The front of the queue becomes the submitted presentation. -/
theorem Resolved.submit_front (h : Resolved begun flipped rt) {q : LiveProductionQueuedPresent}
    {rest : List LiveProductionQueuedPresent} (front : rt.scheduler.queued = q :: rest)
    (free : rt.scheduler.submitted = none) {prepared : PreparedSurfaceCommit}
    (hready : prepared.isReady = true) {resources : LiveDmaBufPresentationRegistry}
    (hr : ∀ k, resources.state k =
      if q.submission.transaction = k then some .submitted else rt.resources.state k) :
    Resolved begun flipped { rt with
      resources := resources
      scheduler := { rt.scheduler.popFront with
        submitted := some ⟨q.submission.transaction, q.surface, prepared⟩ } } := by
  have hcons := pending_front front
  have hperm : (pending rt.scheduler).Perm (pending { rt.scheduler.popFront with
      submitted := some ⟨q.submission.transaction, q.surface, prepared⟩ }) := by
    rw [hcons]
    simp only [pending, LiveProductionPresentScheduler.popFront, front, free]
    simpa using (List.perm_append_singleton _ _).symm
  have hn := h.nodup
  rw [hcons] at hn
  constructor
  · exact h.ledger.congr (fun k => hperm.mem_iff.symm) fun _ => rfl
  · intro k
    rw [hr k, ← hperm.mem_iff, ← h.registered k]
    by_cases hk : q.submission.transaction = k
    · subst hk
      have hmem : q.submission.transaction ∈ pending rt.scheduler := by
        rw [hcons]
        exact List.mem_cons_self
      simp [(h.registered _).mpr hmem]
    · simp [hk]
  · exact hperm.nodup_iff.mp h.nodup
  · intro q' hq'
    have hq' : q' ∈ rest := by
      simpa [LiveProductionPresentScheduler.popFront, front] using hq'
    have hmem : q'.submission.transaction ∈ pending rt.scheduler.popFront := by
      simp only [pending, LiveProductionPresentScheduler.popFront, front, List.tail_cons]
      exact List.mem_append_left _ (List.mem_map_of_mem hq')
    have hne : q.submission.transaction ≠ q'.submission.transaction :=
      fun he => (List.nodup_cons.mp hn).1 (he ▸ hmem)
    rw [hr, if_neg hne]
    exact h.queued q' (front ▸ List.mem_cons_of_mem _ hq')
  · intro sub hsub
    cases hsub
    exact ⟨by simp [hr], hready⟩
  · intro t hf
    obtain ⟨hb, hnp⟩ := h.flips t hf
    exact ⟨hb, fun hm => hnp (hperm.mem_iff.mpr hm)⟩
  · exact h.quiet

theorem resolved_submitFront (h : Resolved begun flipped rt) (env : Env)
    (reply : NativeScanoutReply) {q : LiveProductionQueuedPresent}
    {rest : List LiveProductionQueuedPresent} (front : rt.scheduler.queued = q :: rest)
    (free : rt.scheduler.submitted = none)
    (acquired : rt.resources.state q.submission.transaction = some .ready) :
    Resolved begun flipped (rt.submitFront env reply q.submission.transaction).2 := by
  have hskip : Resolved begun flipped
      (rt.popFront.rejectGpuPresentation env.os q.submission.transaction 0 0) :=
    h.skip_front env.os front (by simp [LiveProductionPresentScheduler.popFront, front]) rfl rfl
  unfold LiveProductionVisualRuntime.submitFront
  rw [front]
  dsimp only
  split
  · exact hskip
  rename_i hready
  split
  · exact h
  · exact h
  split
  · exact h
  rw [if_neg (by simp [h.quiet])]
  split
  · exact h
  · obtain ⟨resources, hsub, hstate⟩ :=
      LiveDmaBufPresentationRegistry.submit_of_ready acquired
    rw [hsub]
    exact h.submit_front front free (by simpa using hready) hstate
  · exact h
  · exact h
  · exact h
  · exact hskip

theorem resolved_drive (h : Resolved begun flipped rt) (env : Env) :
    Resolved begun flipped (rt.driveGpuPresentation env).2 := by
  obtain ⟨houtcome, hpolled⟩ := LiveProductionPresentScheduler.pollGate_outcome rt.scheduler
    env.os env.polledAt rt.resources
  unfold LiveProductionVisualRuntime.driveGpuPresentation
  rcases hgate : rt.scheduler.pollGate env.os env.polledAt rt.resources with
    ⟨gate, scheduler, resources⟩
  rw [hgate] at houtcome hpolled
  dsimp only at houtcome hpolled
  have hkeep : Resolved begun flipped { rt with resources := resources } :=
    h.of_polled rfl rfl rfl rfl hpolled
  cases houtcome with
  | failed => exact hkeep
  | idle => exact hkeep
  | inFlight => exact hkeep
  | waiting => exact hkeep
  | reject flag front free =>
    exact hkeep.skip_front env.os front
      (by simp [LiveProductionPresentScheduler.popFront, front]) rfl rfl
  | @ready q rest front free acquired =>
    dsimp only
    split
    · exact hkeep.skip_front env.os front
        (by simp [LiveProductionPresentScheduler.popFront, front]) rfl rfl
    · refine resolved_submitFront hkeep env _ front free ?_
      refine acquired.resolve_right ?_
      exact hkeep.queued q (by simp [front])

theorem polled_of_presentations {r r' : LiveDmaBufPresentationRegistry}
    (h : r'.presentations = r.presentations) : LiveProductionPresentScheduler.Polled r r' :=
  fun k => Or.inl (by rw [LiveDmaBufPresentationRegistry.state, h]; rfl)

/-- A fresh presentation joins the queue, the registry and the debts at once. -/
theorem Resolved.begin (h : Resolved begun flipped rt) {t : TransactionId} (ht : t ∉ begun)
    {q : LiveProductionQueuedPresent} (hqt : q.submission.transaction = t)
    {scheduler : LiveProductionPresentScheduler} {resources : LiveDmaBufPresentationRegistry}
    (hq : scheduler.queued = rt.scheduler.queued ++ [q])
    (hs : scheduler.submitted = rt.scheduler.submitted)
    (hd : scheduler.diagnoseFirstMixedExport = rt.scheduler.diagnoseFirstMixedExport)
    {state : LiveBufferState} (hstate : state ≠ .submitted)
    (hr : ∀ k, resources.state k = if t = k then some state else rt.resources.state k) :
    Resolved (begun ++ [t]) flipped { rt with scheduler := scheduler, resources := resources } := by
  have hmem : ∀ k, k ∈ pending scheduler ↔ k = t ∨ k ∈ pending rt.scheduler := by
    intro k
    simp only [pending, hq, hs, List.map_append, List.map_cons, List.map_nil, hqt,
      List.mem_append, List.mem_singleton]
    tauto
  have hfresh : t ∉ pending rt.scheduler := fun hm => ht (h.ledger.pending_begun t hm)
  have hperm : (pending scheduler).Perm (t :: pending rt.scheduler) := by
    simp only [pending, hq, hs, List.map_append, List.map_cons, List.map_nil, hqt,
      List.append_assoc]
    exact List.perm_middle
  constructor
  · have hl := h.ledger.begin (t := t) ht
    have hset : insert t {t | t ∈ begun} = {k | k ∈ begun ++ [t]} := by
      ext k
      simp [or_comm]
    rw [hset] at hl
    exact hl.congr (fun k => hmem k) fun _ => rfl
  · intro k
    rw [hr k, hmem k, ← h.registered k]
    by_cases hk : t = k
    · subst hk
      simp
    · simp [hk, Ne.symm hk]
  · exact hperm.nodup_iff.mpr (List.nodup_cons.mpr ⟨hfresh, h.nodup⟩)
  · intro q' hq'
    rw [hr]
    split
    · simpa using hstate
    · rename_i hne
      refine h.queued q' ?_
      have hq' : q' ∈ rt.scheduler.queued ++ [q] := hq ▸ hq'
      rcases List.mem_append.mp hq' with hm | hm
      · exact hm
      · exact absurd (List.mem_singleton.mp hm ▸ hqt.symm) hne
  · intro sub hsub
    have hsub : rt.scheduler.submitted = some sub := hs ▸ hsub
    have hne : t ≠ sub.transaction := by
      rintro rfl
      exact hfresh (List.mem_append_right _ (by simp [hsub]))
    rw [hr, if_neg hne]
    exact h.submitted sub hsub
  · intro k hk
    obtain ⟨hb, hnp⟩ := h.flips k hk
    refine ⟨List.mem_append_left _ hb, fun hm => ?_⟩
    rcases (hmem k).mp hm with rfl | hm
    · exact ht hb
    · exact hnp hm
  · exact hd.trans h.quiet

/-- Enqueuing a batch of fresh submissions begins a part of them, in order. -/
theorem resolved_enqueue (os : Os) (now : Instant) (batch : LiveProductionAuthorityBatch)
    {submissions : List LiveProductionPresentSubmission} (h : Resolved begun flipped rt)
    (hnodup : (submissions.map (·.transaction)).Nodup)
    (hfresh : ∀ submission ∈ submissions, submission.transaction ∉ begun) :
    ∃ new : List LiveProductionQueuedPresent,
      (Run.tryEach (LiveProductionPresentScheduler.enqueue os now batch) submissions
        (rt.scheduler, rt.resources)).2.1.queued = rt.scheduler.queued ++ new ∧
      (∀ q ∈ new, q.submission.transaction ∈ submissions.map (·.transaction)) ∧
      Resolved (begun ++ new.map (·.submission.transaction)) flipped { rt with
        scheduler := (Run.tryEach (LiveProductionPresentScheduler.enqueue os now batch)
          submissions (rt.scheduler, rt.resources)).2.1
        resources := (Run.tryEach (LiveProductionPresentScheduler.enqueue os now batch)
          submissions (rt.scheduler, rt.resources)).2.2 } := by
  induction submissions generalizing begun rt with
  | nil => exact ⟨[], by simp [Run.tryEach], by simp, by simpa [Run.tryEach] using h⟩
  | cons submission submissions ih =>
    obtain ⟨hne, hnodup⟩ := List.nodup_cons.mp hnodup
    rw [Run.tryEach]
    split
    · rename_i state' he
      obtain ⟨q, hqt, -, -, hq, hs, hd, -, state, hstate, hr⟩ :=
        LiveProductionPresentScheduler.enqueue_ok he
      have hbegin := h.begin (hfresh submission List.mem_cons_self) hqt hq hs hd hstate hr
      obtain ⟨new, hnew, hsub, hres⟩ := ih hbegin hnodup (by
        intro later hl
        simp only [List.mem_append, List.mem_singleton, not_or]
        refine ⟨hfresh later (List.mem_cons_of_mem _ hl), fun heq => hne ?_⟩
        exact List.mem_map.mpr ⟨later, hl, heq⟩)
      refine ⟨q :: new, ?_, ?_, ?_⟩
      · simpa [hq] using hnew
      · intro q' hq'
        rcases List.mem_cons.mp hq' with rfl | hq'
        · simp [hqt]
        · exact List.mem_cons_of_mem _ (hsub q' hq')
      · simpa [hqt] using hres
    · exact ⟨[], by simp, by simp, by simpa using h⟩

theorem resolved_observe (os : Os) (batch : LiveProductionAuthorityBatch)
    (h : Resolved begun flipped rt) :
    Resolved begun flipped { rt with
      resources := (observeAuthorityResources os batch rt.resources).2 } :=
  h.of_polled rfl rfl rfl rfl
    (polled_of_presentations (presentations_observeAuthorityResources os batch rt.resources))

theorem resolved_cpuCycle (env : Env) (batch : LiveProductionAuthorityBatch)
    (h : Resolved begun flipped rt) :
    Resolved begun flipped (rt.runCpuProductionCycle env batch).2 := by
  have hobs := resolved_observe env.intake batch h
  unfold LiveProductionVisualRuntime.runCpuProductionCycle
  split <;> rename_i he <;> rw [he] at hobs
  · exact hobs
  · exact hobs.of_polled rfl rfl rfl rfl (LiveProductionPresentScheduler.polled_refl _)

/-- The presentations an operation begins. -/
def begunBy (rt : LiveProductionVisualRuntime) : Action → List TransactionId
  | .runBatch env batch => match observeAuthorityResources env.intake batch rt.resources with
    | (.error _, _) => []
    | (.ok (), resources) =>
      ((rt.scheduler.enqueueBatch env.intake env.enqueuedAt batch resources).2.1.queued.drop
        rt.scheduler.queued.length).map (·.submission.transaction)
  | _ => []

/-- The presentation whose page flip completes and whose prepared state is applied. -/
def flippedBy (rt : LiveProductionVisualRuntime) : Action → List TransactionId
  | .pageFlip _ _ _ => match rt.scheduler.submitted with
    | some submitted =>
      if (applyPreparedSurfaceCommit submitted.prepared rt.committedSurfaces).1.outcome =
        .committed then [submitted.transaction] else []
    | none => []
  | _ => []

/-- The Present submissions a batch hands to the scheduler. -/
def Action.submissions : Action → List LiveProductionPresentSubmission
  | .runBatch _ batch => batch.presentSubmissions
  | _ => []

theorem resolved_runBatch (env : Env) (batch : LiveProductionAuthorityBatch)
    (h : Resolved begun flipped rt)
    (hnodup : (batch.presentSubmissions.map (·.transaction)).Nodup)
    (hfresh : ∀ submission ∈ batch.presentSubmissions, submission.transaction ∉ begun) :
    Resolved (begun ++ begunBy rt (.runBatch env batch)) flipped (rt.runBatch env batch).2 ∧
      ∀ t ∈ begunBy rt (.runBatch env batch),
        t ∈ batch.presentSubmissions.map (·.transaction) := by
  have hobs := resolved_observe env.intake batch h
  rcases he : observeAuthorityResources env.intake batch rt.resources with ⟨error | ⟨⟩, resources⟩
    <;> rw [he] at hobs <;> simp only [begunBy, LiveProductionVisualRuntime.runBatch, he]
  · exact ⟨by simpa using hobs, by simp⟩
  obtain ⟨new, hnew, hsub, hres⟩ :=
    resolved_enqueue env.intake env.enqueuedAt batch hobs hnodup hfresh
  have hdrop : (rt.scheduler.enqueueBatch env.intake env.enqueuedAt batch
      resources).2.1.queued.drop rt.scheduler.queued.length = new := by
    rw [LiveProductionPresentScheduler.enqueueBatch, hnew]
    simp
  rw [hdrop]
  refine ⟨?_, fun t ht => ?_⟩
  · split
    · rcases hq : rt.scheduler.enqueueBatch env.intake env.enqueuedAt batch resources with
        ⟨error | ⟨⟩, scheduler, resources'⟩ <;>
        rw [LiveProductionPresentScheduler.enqueueBatch] at hq <;> rw [hq] at hres
      · exact hres
      · have hlayers : Resolved (begun ++ new.map (·.submission.transaction)) flipped { rt with
            scheduler := scheduler
            resources := resources'
            layers := updateLayers rt.layers batch.removedSurfaces batch.transactions } :=
          hres.of_polled rfl rfl rfl rfl (LiveProductionPresentScheduler.polled_refl _)
        exact resolved_drive hlayers env
    · rename_i hempty
      have hnil : new = [] := by
        have hb : batch.presentSubmissions = [] := by simpa using hempty
        rw [List.eq_nil_iff_forall_not_mem]
        intro q hq
        simpa [hb] using hsub q hq
      have hkeep : Resolved begun flipped (LiveProductionVisualRuntime.prepareAuthorityTransactions
          { rt with resources := resources } batch.transaction batch.transactions
          batch.removedSurfaces).2 :=
        hobs.of_polled rfl rfl rfl rfl (LiveProductionPresentScheduler.polled_refl _)
      simpa [hnil] using hkeep
  · obtain ⟨q, hq, rfl⟩ := List.mem_map.mp ht
    exact hsub q hq

/-- The baseline of the submitted presentation is still authoritative. -/
def FlipCurrent (rt : LiveProductionVisualRuntime) : Prop :=
  ∀ submitted ∈ rt.scheduler.submitted,
    submitted.prepared.TouchedBaselineIsCurrent rt.committedSurfaces

instance (rt : LiveProductionVisualRuntime) : Decidable (FlipCurrent rt) :=
  inferInstanceAs (Decidable (∀ submitted ∈ rt.scheduler.submitted, _))

/-- Retiring the submitted presentation takes its transaction, and only it, off the pending ones. -/
theorem Resolved.pending_retired (h : Resolved begun flipped rt) {sub : LiveProductionSubmittedPresent}
    (hsub : rt.scheduler.submitted = some sub) :
    (rt.scheduler.queued.map (·.submission.transaction)).Nodup ∧
      sub.transaction ∉ rt.scheduler.queued.map (·.submission.transaction) ∧
      ∀ k, k ∈ pending { rt.scheduler with submitted := none } ↔
        k ∈ pending rt.scheduler ∧ k ≠ sub.transaction := by
  have hsplit : pending rt.scheduler =
      rt.scheduler.queued.map (·.submission.transaction) ++ [sub.transaction] := by
    simp [pending, hsub]
  have hn := h.nodup
  rw [hsplit] at hn
  have hnot : sub.transaction ∉ rt.scheduler.queued.map (·.submission.transaction) := by
    have hdis := (List.nodup_append.mp hn).2.2
    exact fun hm => hdis _ hm _ (List.mem_singleton_self _) rfl
  refine ⟨(List.nodup_append.mp hn).1, hnot, fun k => ?_⟩
  rw [hsplit]
  simp only [pending, Option.map_none, Option.toList_none, List.append_nil, List.mem_append,
    List.mem_singleton]
  constructor
  · exact fun hk => ⟨Or.inl hk, fun he => hnot (he ▸ hk)⟩
  · rintro ⟨hk | hk, hne⟩
    · exact hk
    · exact absurd hk hne

theorem resolved_pageFlip (os : Os) (ust msc : UInt64) (h : Resolved begun flipped rt)
    (hcurrent : FlipCurrent rt) :
    Resolved begun (flipped ++ flippedBy rt (.pageFlip os ust msc))
      (rt.finalizeGpuPageFlip os ust msc).2 := by
  cases hsub : rt.scheduler.submitted with
  | none =>
    simp only [flippedBy, LiveProductionVisualRuntime.finalizeGpuPageFlip, hsub]
    simpa using h
  | some sub =>
    obtain ⟨hstate, hready⟩ := h.submitted sub hsub
    have hcommit := apply_outcome_iff.mpr ⟨hready, hcurrent sub hsub⟩
    have ht : sub.transaction ∈ pending rt.scheduler :=
      List.mem_append_right _ (by simp [hsub])
    obtain ⟨hn, hnot, hopen⟩ := h.pending_retired hsub
    obtain ⟨hsome, hr⟩ := LiveDmaBufPresentationRegistry.state_retirePageFlip_of_submitted
      (os sub.transaction) hstate
    simp only [flippedBy, LiveProductionVisualRuntime.finalizeGpuPageFlip, hsub, hcommit,
      ne_eq, not_true, if_false, if_true]
    rcases hret : rt.resources.retirePageFlip (os sub.transaction) sub.transaction with
      ⟨_ | retirement, resources⟩ <;> rw [hret] at hsome hr
    · simp at hsome
    dsimp only at hr ⊢
    constructor
    · refine h.ledger.settle ht hopen ?_ fun k hk => ⟨?_, ?_⟩
      · simp [LiveProductionVisualRuntime.routePresentFeedback, modesOf_snoc, verdict]
      · simp [LiveProductionVisualRuntime.routePresentFeedback, modesOf_snoc, hk.symm]
      · simp [verdict, hk]
    · intro k
      have hk := hopen k
      show (resources.state k).isSome = true ↔ k ∈ pending { rt.scheduler with submitted := none }
      rw [hr k, hk, ← h.registered k]
      by_cases he : sub.transaction = k
      · subst he
        simp
      · simp [he, Ne.symm he]
    · simpa [LiveProductionVisualRuntime.routePresentFeedback, pending] using hn
    · intro q hq
      have hne : sub.transaction ≠ q.submission.transaction :=
        fun he => hnot (List.mem_map.mpr ⟨q, hq, he.symm⟩)
      show resources.state _ ≠ _
      rw [hr, if_neg hne]
      exact h.queued q hq
    · intro sub' hs
      cases hs
    · intro k hk
      rcases List.mem_append.mp hk with hk | hk
      · obtain ⟨hb, hnp⟩ := h.flips k hk
        exact ⟨hb, fun hm => hnp ((hopen k).mp hm).1⟩
      · obtain rfl := List.mem_singleton.mp hk
        exact ⟨h.ledger.pending_begun _ ht, fun hm => ((hopen _).mp hm).2 rfl⟩
    · exact h.quiet

/-- Rejecting a list of pending presentations settles all of them as skipped. -/
theorem ledger_rejectAll (os : Os) (ids rest : List TransactionId)
    (rt : LiveProductionVisualRuntime)
    (hl : Ledger {t | t ∈ begun} {t | t ∈ ids ++ rest} (verdict flipped) (modesOf rt.feedback))
    (hreg : ∀ t, (rt.resources.state t).isSome = true ↔ t ∈ ids ++ rest)
    (hf : ∀ t ∈ flipped, t ∉ ids ++ rest) (hn : (ids ++ rest).Nodup) :
    Ledger {t | t ∈ begun} {t | t ∈ rest} (verdict flipped)
        (modesOf (ids.foldl (fun rt t => rt.rejectGpuPresentation os t 0 0) rt).feedback) ∧
      (∀ t, ((ids.foldl (fun rt t => rt.rejectGpuPresentation os t 0 0) rt).resources.state
        t).isSome = true ↔ t ∈ rest) ∧
      (ids.foldl (fun rt t => rt.rejectGpuPresentation os t 0 0) rt).scheduler =
        rt.scheduler := by
  induction ids generalizing rt with
  | nil => exact ⟨hl, hreg, rfl⟩
  | cons t ids ih =>
    have ht : t ∈ t :: ids ++ rest := List.mem_cons_self
    obtain ⟨hl', hstate, hsched⟩ := ledger_reject rt os hl ((hreg t).mpr ht) ht
      (fun hm => hf t hm ht) hn
    have hnt : t ∉ ids ++ rest := (List.nodup_cons.mp hn).1
    have hreg' : ∀ k, ((rt.rejectGpuPresentation os t 0 0).resources.state k).isSome = true ↔
        k ∈ ids ++ rest := by
      intro k
      rw [hstate k]
      by_cases hk : t = k
      · subst hk
        simpa using hnt
      · have hr := hreg k
        rw [List.cons_append, List.mem_cons] at hr
        rw [if_neg hk, hr]
        exact or_iff_right (Ne.symm hk)
    have herase : (t :: ids ++ rest).erase t = ids ++ rest := by simp
    rw [herase] at hl'
    obtain ⟨hl, hreg, hs⟩ := ih (rt.rejectGpuPresentation os t 0 0) hl' hreg'
      (fun k hk hm => hf k hk (List.mem_cons_of_mem _ hm)) (List.nodup_cons.mp hn).2
    exact ⟨hl, hreg, hs.trans hsched⟩

theorem ledger_rejectQueued (os : Os) (h : Resolved begun flipped rt) :
    Ledger {t | t ∈ begun} {t | t ∈ (rt.scheduler.submitted.map (·.transaction)).toList}
        (verdict flipped) (modesOf (rt.rejectQueued os).feedback) ∧
      (∀ t, ((rt.rejectQueued os).resources.state t).isSome = true ↔
        t ∈ (rt.scheduler.submitted.map (·.transaction)).toList) ∧
      (rt.rejectQueued os).scheduler = { rt.scheduler with queued := [] } := by
  have hflips : ∀ t ∈ flipped, t ∉ rt.scheduler.queued.map (·.submission.transaction) ++
      (rt.scheduler.submitted.map (·.transaction)).toList := fun t ht => (h.flips t ht).2
  exact ledger_rejectAll os _ _ { rt with scheduler := { rt.scheduler with queued := [] } }
    h.ledger h.registered hflips h.nodup

/-- With the queue drained, the submitted presentation is the only debt left. -/
theorem ledger_rejectSubmitted (os : Os) {drained : LiveProductionVisualRuntime}
    (hl : Ledger {t | t ∈ begun}
      {t | t ∈ (drained.scheduler.submitted.map (·.transaction)).toList} (verdict flipped)
      (modesOf drained.feedback))
    (hreg : ∀ t, (drained.resources.state t).isSome = true ↔
      t ∈ (drained.scheduler.submitted.map (·.transaction)).toList)
    (hf : ∀ t ∈ flipped, t ∉ (drained.scheduler.submitted.map (·.transaction)).toList) :
    Ledger {t | t ∈ begun} {t | t ∈ ([] : List TransactionId)} (verdict flipped)
        (modesOf (drained.rejectSubmitted os).feedback) ∧
      (drained.rejectSubmitted os).scheduler = { drained.scheduler with submitted := none } := by
  unfold LiveProductionVisualRuntime.rejectSubmitted
  cases hsub : drained.scheduler.submitted with
  | none =>
    rw [hsub] at hl
    refine ⟨hl, ?_⟩
    show drained.scheduler = { drained.scheduler with submitted := none }
    rw [← hsub]
  | some sub =>
    rw [hsub] at hl hreg hf
    have hmem : sub.transaction ∈ [sub.transaction] := List.mem_singleton_self _
    obtain ⟨hl', -, hs'⟩ := ledger_reject
      { drained with scheduler := { drained.scheduler with submitted := none } } os
      hl ((hreg sub.transaction).mpr hmem) hmem (fun ht => hf _ ht hmem) (List.nodup_singleton _)
    exact ⟨by simpa using hl', hs'⟩

/-- Shutting down settles whatever is pending and empties the registry. -/
theorem resolved_shutdown (os : Os) (h : Resolved begun flipped rt) :
    Resolved begun flipped (rt.shutdownPresentations os).2 ∧
      pending (rt.shutdownPresentations os).2.scheduler = [] ∧
      (rt.shutdownPresentations os).2.resources.presentations = ∅ ∧
      (rt.shutdownPresentations os).2.resources.sources = ∅ ∧
      (rt.shutdownPresentations os).2.resources.fences = ∅ := by
  obtain ⟨hl, hreg, hs⟩ := ledger_rejectQueued os h
  have hsub : (rt.rejectQueued os).scheduler.submitted = rt.scheduler.submitted := by rw [hs]
  rw [← hsub] at hl hreg
  obtain ⟨hlc, hsc⟩ := ledger_rejectSubmitted os hl hreg (by
    rw [hsub]
    exact fun t ht hm => (h.flips t ht).2 (List.mem_append_right _ hm))
  rw [hs] at hsc
  obtain ⟨hp, hsrc, hfen⟩ := ((rt.rejectQueued os).rejectSubmitted os).resources.disconnect_empty os
  have hsched : (rt.shutdownPresentations os).2.scheduler =
      { rt.scheduler with queued := [], submitted := none } := hsc
  have hpending : pending (rt.shutdownPresentations os).2.scheduler = [] := by
    simp [hsched, pending]
  refine ⟨?_, hpending, hp, hsrc, hfen⟩
  constructor
  · rw [hpending]
    exact hlc
  · intro t
    have hnone : (rt.shutdownPresentations os).2.resources.state t = none := by
      have : (rt.shutdownPresentations os).2.resources.presentations = ∅ := hp
      simp [LiveDmaBufPresentationRegistry.state, this]
    simp [hnone, hpending]
  · rw [hpending]
    exact List.nodup_nil
  · simp [hsched]
  · simp [hsched]
  · intro t ht
    rw [hpending]
    exact ⟨(h.flips t ht).1, by simp⟩
  · rw [hsched]
    exact h.quiet

/-- The runtime with its history: what was begun and which flips were applied. -/
structure Traced where
  runtime : LiveProductionVisualRuntime
  begun : List TransactionId
  flipped : List TransactionId

def tracedStep (s : Traced) (a : Action) : Traced where
  runtime := step s.runtime a
  begun := s.begun ++ begunBy s.runtime a
  flipped := s.flipped ++ flippedBy s.runtime a

/-- A page flip finds the baseline of the submitted presentation unchanged. -/
def FlipsCurrent (s : Traced) : Action → Prop
  | .pageFlip _ _ _ => FlipCurrent s.runtime
  | _ => True

def startTraced (committed : List CommittedSurfaceState)
    (scheduler : LiveProductionPresentScheduler) : Traced :=
  ⟨.withCommittedSurfaces committed scheduler, [], []⟩

theorem resolved_start (committed : List CommittedSurfaceState)
    {scheduler : LiveProductionPresentScheduler} (hq : scheduler.queued = [])
    (hs : scheduler.submitted = none) (hd : scheduler.diagnoseFirstMixedExport = false) :
    Resolved [] [] (startTraced committed scheduler).runtime := by
  have hp : pending scheduler = [] := by simp [pending, hq, hs]
  have hnone : ∀ t, (startTraced committed scheduler).runtime.resources.state t = none := by
    intro t
    simp [startTraced, LiveProductionVisualRuntime.withCommittedSurfaces,
      LiveDmaBufPresentationRegistry.withLimits, LiveDmaBufPresentationRegistry.state]
  constructor
  · exact ⟨by simp [startTraced, LiveProductionVisualRuntime.withCommittedSurfaces, hp],
      fun _ _ => rfl, by simp⟩
  · intro t
    rw [hnone t]
    simp [startTraced, LiveProductionVisualRuntime.withCommittedSurfaces, hp]
  · simp [startTraced, LiveProductionVisualRuntime.withCommittedSurfaces, hp]
  · simp [startTraced, LiveProductionVisualRuntime.withCommittedSurfaces, hq]
  · simp [startTraced, LiveProductionVisualRuntime.withCommittedSurfaces, hs]
  · simp
  · exact hd

theorem resolved_tracedStep {s : Traced} {a : Action} (hok : FlipsCurrent s a)
    (h : Resolved s.begun s.flipped s.runtime)
    (hnodup : (a.submissions.map (·.transaction)).Nodup)
    (hfresh : ∀ submission ∈ a.submissions, submission.transaction ∉ s.begun) :
    Resolved (tracedStep s a).begun (tracedStep s a).flipped (tracedStep s a).runtime ∧
      ∀ t ∈ begunBy s.runtime a, t ∈ a.submissions.map (·.transaction) := by
  cases a with
  | cpuCycle env batch =>
    exact ⟨by simpa [tracedStep, step, begunBy, flippedBy] using resolved_cpuCycle env batch h,
      by simp [begunBy]⟩
  | runBatch env batch =>
    obtain ⟨hres, hsub⟩ := resolved_runBatch env batch h hnodup hfresh
    refine ⟨?_, hsub⟩
    rw [show (tracedStep s (.runBatch env batch)).flipped = s.flipped by simp [tracedStep, flippedBy]]
    exact hres
  | drive env =>
    exact ⟨by simpa [tracedStep, step, begunBy, flippedBy] using resolved_drive h env, by simp [begunBy]⟩
  | pageFlip os ust msc =>
    refine ⟨?_, by simp [begunBy]⟩
    rw [show (tracedStep s (.pageFlip os ust msc)).begun = s.begun by simp [tracedStep, begunBy]]
    exact resolved_pageFlip os ust msc h hok
  | shutdown os =>
    exact ⟨by simpa [tracedStep, step, begunBy, flippedBy] using (resolved_shutdown os h).1,
      by simp [begunBy]⟩

theorem resolved_run {s : Traced} (h : Resolved s.begun s.flipped s.runtime)
    (hempty : s.begun = []) {actions : List Action}
    (hids : (actions.flatMap fun a => a.submissions.map (·.transaction)).Nodup)
    (hok : Run.Guarded tracedStep FlipsCurrent s actions) :
    Resolved (Run.exec tracedStep s actions).begun (Run.exec tracedStep s actions).flipped
        (Run.exec tracedStep s actions).runtime ∧
      ∀ t ∈ (Run.exec tracedStep s actions).begun,
        t ∈ actions.flatMap fun a => a.submissions.map (·.transaction) := by
  induction actions using List.reverseRecOn with
  | nil => exact ⟨h, by simp [hempty]⟩
  | append_singleton actions a ih =>
    rw [List.flatMap_append, List.nodup_append] at hids
    obtain ⟨hids, hlast, hdisjoint⟩ := hids
    obtain ⟨hres, hsub⟩ := ih hids hok.left
    simp only [List.flatMap_singleton] at hlast hdisjoint
    have hfresh : ∀ submission ∈ a.submissions,
        submission.transaction ∉ (Run.exec tracedStep s actions).begun := by
      intro submission hm hb
      exact hdisjoint _ (hsub _ hb) _ (List.mem_map_of_mem hm) rfl
    obtain ⟨hres', hnew⟩ := resolved_tracedStep hok.last hres hlast hfresh
    rw [Run.exec_snoc]
    refine ⟨hres', ?_⟩
    intro t ht
    rw [List.flatMap_append, List.flatMap_singleton]
    rcases List.mem_append.mp ht with ht | ht
    · exact List.mem_append_left _ (hsub t ht)
    · exact List.mem_append_right _ (hnew t ht)

/-- With distinct ids, the diagnostic export off and every page flip finding its baseline
unchanged, each presentation begun is pending and silent, or was reported exactly once, as a
flip exactly when it was applied; after shutdown none is pending and nothing is registered. -/
theorem presentations_resolved_once {committed : List CommittedSurfaceState}
    {scheduler : LiveProductionPresentScheduler} (hq : scheduler.queued = [])
    (hs : scheduler.submitted = none) (hd : scheduler.diagnoseFirstMixedExport = false)
    {actions : List Action}
    (hids : (actions.flatMap fun a => a.submissions.map (·.transaction)).Nodup)
    (hok : Run.Guarded tracedStep FlipsCurrent (startTraced committed scheduler) actions)
    (os : Os) :
    let final := Run.exec tracedStep (startTraced committed scheduler) actions
    let closed := tracedStep final (.shutdown os)
    (∀ t, t ∉ final.begun → modesOf final.runtime.feedback t = []) ∧
    (∀ t ∈ final.begun,
      (final.runtime.resources.state t ≠ none ∧ t ∈ pending final.runtime.scheduler ∧
        modesOf final.runtime.feedback t = []) ∨
      (final.runtime.resources.state t = none ∧ t ∉ pending final.runtime.scheduler ∧
        modesOf final.runtime.feedback t =
          [if t ∈ final.flipped then some .flip else some .skip])) ∧
    (∀ t ∈ final.begun, modesOf closed.runtime.feedback t =
      [if t ∈ final.flipped then some .flip else some .skip]) ∧
    closed.runtime.resources.presentations = ∅ ∧ closed.runtime.resources.sources = ∅ ∧
    closed.runtime.resources.fences = ∅ := by
  intro final closed
  obtain ⟨hres, -⟩ := resolved_run (resolved_start committed hq hs hd) rfl hids hok
  obtain ⟨hclosed, hpending, hp, hsrc, hfen⟩ := resolved_shutdown os hres
  refine ⟨fun t ht => hres.ledger.unanswered t (Or.inr ht), ?_, ?_, hp, hsrc, hfen⟩
  · intro t ht
    have hreg := hres.registered t
    by_cases hpt : t ∈ pending final.runtime.scheduler
    · refine Or.inl ⟨?_, hpt, hres.ledger.unanswered t (Or.inl hpt)⟩
      exact Option.isSome_iff_ne_none.mp (hreg.mpr hpt)
    · refine Or.inr ⟨?_, hpt, hres.ledger.settled t ht hpt⟩
      exact Option.not_isSome_iff_eq_none.mp (mt hreg.mp hpt)
  · intro t ht
    exact hclosed.ledger.settled t ht (by simp [hpending])

/-- A window draws, presents a DMA buffer and sees that frame flipped. -/
def drawnAndPresented : List Action :=
  [.cpuCycle Sample.env { Sample.drawBatch ⟨1⟩ ⟨1, 1⟩ 1 1 with
      dmaBufRegistrations := [⟨Sample.descriptor ⟨7⟩, [3]⟩] },
   .runBatch Sample.env (Sample.presentBatch ⟨2⟩ ⟨1, 1⟩ 2 ⟨7⟩),
   .pageFlip Sample.os 1 1]

theorem drawn_and_presented_reported :
    let final := Run.exec tracedStep (startTraced [] {}) drawnAndPresented
    final.begun = [⟨2⟩] ∧ final.flipped = [⟨2⟩] ∧
    modesOf (tracedStep final (.shutdown Sample.os)).runtime.feedback ⟨2⟩ = [some .flip] := by
  intro final
  have hbegun : final.begun = [⟨2⟩] := by decide +kernel
  have hflipped : final.flipped = [⟨2⟩] := by decide +kernel
  have hguard : Run.Guarded tracedStep FlipsCurrent (startTraced [] {}) drawnAndPresented :=
    .cons trivial (.cons trivial (.cons (show FlipCurrent _ by decide +kernel) Run.guarded_nil))
  have hresolved := (presentations_resolved_once rfl rfl rfl (by decide +kernel) hguard
    Sample.os).2.2.1 ⟨2⟩ (hbegun ▸ List.mem_singleton_self _)
  exact ⟨hbegun, hflipped, hresolved.trans (by rw [hflipped]; rfl)⟩

/-- A window draws, presents a DMA buffer and is destroyed while that frame is in flight. -/
def destroyedInFlight : List Action :=
  [.cpuCycle Sample.env { Sample.drawBatch ⟨1⟩ ⟨1, 1⟩ 1 1 with
      dmaBufRegistrations := [⟨Sample.descriptor ⟨7⟩, [3]⟩] },
   .runBatch Sample.env (Sample.presentBatch ⟨2⟩ ⟨1, 1⟩ 2 ⟨7⟩),
   .cpuCycle Sample.env (Sample.destroyBatch ⟨3⟩ ⟨1, 1⟩),
   .pageFlip Sample.os 1 1]

/-- The flip fails on the changed baseline: the presentation is never reported, not even by
the shutdown that drops its registration. -/
theorem destroyed_in_flight_unreported :
    let final := Run.exec tracedStep (startTraced [] {}) destroyedInFlight
    (destroyedInFlight.flatMap fun a => a.submissions.map (·.transaction)).Nodup ∧
    final.begun = [⟨2⟩] ∧ final.runtime.resources.presentations.contains ⟨2⟩ = true ∧
    pending final.runtime.scheduler = [] ∧
    modesOf (tracedStep final (.shutdown Sample.os)).runtime.feedback ⟨2⟩ = [] := by
  decide +kernel

end Sophia.Backend
