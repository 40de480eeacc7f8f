import Sophia.Backend.RuntimeFrames

/-! The authority's generation counters against the generations the Engine commits. -/
namespace Sophia.Backend

open Protocol Engine Std

/-- The runtime, the authority's window generation counters, and how far each counter runs ahead
of the committed generation of its surface. -/
structure Session where
  runtime : LiveProductionVisualRuntime
  generation : SurfaceId → UInt64
  lead : SurfaceId → ℤ

/-- What the authority and the display do. A drawing or Present request carries one surface
transaction; other batches register, retire and destroy. -/
inductive Event where
  | draw (env : Env) (batch : LiveProductionAuthorityBatch) (tx : SurfaceTransaction)
  | present (env : Env) (batch : LiveProductionAuthorityBatch) (tx : SurfaceTransaction)
  | other (env : Env) (batch : LiveProductionAuthorityBatch)
  | drive (env : Env)
  | pageFlip (os : Os) (ust msc : UInt64)
  | shutdown (os : Os)

/-- `advance_generation`: at the last generation the authority sends no transaction. -/
def advanceGeneration (generation : UInt64) : Option UInt64 :=
  if generation.toNat + 1 < UInt64.size then some (generation + 1) else none

/-- The transaction as the authority sends it, over its current counter. -/
def stamp (generation : SurfaceId → UInt64) (batch : LiveProductionAuthorityBatch)
    (tx : SurfaceTransaction) : SurfaceTransaction :=
  { tx with
    transaction := batch.transaction
    previousCommittedGeneration := generation tx.surface }

def drawBatch (generation : SurfaceId → UInt64) (batch : LiveProductionAuthorityBatch)
    (tx : SurfaceTransaction) : LiveProductionAuthorityBatch :=
  { batch with transactions := [stamp generation batch tx], presentSubmissions := [] }

def presentBatch (generation : SurfaceId → UInt64) (batch : LiveProductionAuthorityBatch)
    (tx : SurfaceTransaction) : LiveProductionAuthorityBatch :=
  { batch with transactions := [stamp generation batch tx] }

def otherBatch (batch : LiveProductionAuthorityBatch) : LiveProductionAuthorityBatch :=
  { batch with transactions := [], presentSubmissions := [] }

/-- A transaction that readiness accepts over any entry of a matching generation. -/
def Fit (tx : SurfaceTransaction) : Prop :=
  tx.surface.isValid = true ∧ tx.targetGeometry.isEmpty = false ∧ tx.readiness = .ready

instance (tx : SurfaceTransaction) : Decidable (Fit tx) :=
  inferInstanceAs (Decidable (_ ∧ _ ∧ _))

/-- The lead after a draw: of the drawn surface it grows unless the draw commits; a draw of an
uncommitted surface also enters every other missing layer, one transaction behind. -/
def leadAfterDraw (session : Session) (batch : LiveProductionAuthorityBatch)
    (tx : SurfaceTransaction) (s : SurfaceId) : ℤ :=
  let committed := session.runtime.committedSurfaces
  if s = tx.surface then
    if find committed s = none then if Fit tx then 0 else 1
    else if Fit tx ∧ session.lead s = 0 then 0 else session.lead s + 1
  else if find committed tx.surface = none ∧ find committed s = none ∧
      s ∈ updateLayers session.runtime.layers batch.removedSurfaces [tx] then 1
  else session.lead s

/-- The submitted presentation is applied to the surface when its page flip completes. -/
def FlipApplies (rt : LiveProductionVisualRuntime) (s : SurfaceId) : Prop :=
  ∃ submitted ∈ rt.scheduler.submitted,
    submitted.prepared.TouchedBaselineIsCurrent rt.committedSurfaces ∧
      s ∈ submitted.prepared.commit.appliedSurfaces

instance (rt : LiveProductionVisualRuntime) (s : SurfaceId) : Decidable (FlipApplies rt s) :=
  inferInstanceAs (Decidable (∃ submitted ∈ rt.scheduler.submitted, _))

/-- The lead after a page flip: an applied presentation catches up by one; on an uncommitted
surface it starts at generation one. -/
def leadAfterFlip (session : Session) (s : SurfaceId) : ℤ :=
  if FlipApplies session.runtime s then
    if find session.runtime.committedSurfaces s = none then (session.generation s).toNat - 1
    else session.lead s - 1
  else session.lead s

def sessionStep (session : Session) : Event → Session
  | .draw env batch tx => match advanceGeneration (session.generation tx.surface) with
    | none => session
    | some next =>
      { runtime := step session.runtime (.cpuCycle env (drawBatch session.generation batch tx))
        generation := Function.update session.generation tx.surface next
        lead := leadAfterDraw session batch tx }
  | .present env batch tx => match advanceGeneration (session.generation tx.surface) with
    | none => session
    | some next =>
      { runtime := step session.runtime (.runBatch env (presentBatch session.generation batch tx))
        generation := Function.update session.generation tx.surface next
        lead := Function.update session.lead tx.surface (session.lead tx.surface + 1) }
  | .other env batch =>
    { session with runtime := step session.runtime (.cpuCycle env (otherBatch batch)) }
  | .drive env => { session with runtime := step session.runtime (.drive env) }
  | .pageFlip os ust msc =>
    { session with
      runtime := step session.runtime (.pageFlip os ust msc)
      lead := leadAfterFlip session }
  | .shutdown os => { session with runtime := step session.runtime (.shutdown os) }

/-- The session goes on: the resources of the batch are taken, a Present batch presents and its
submissions are queued, and no presentation is applied at the last generation. -/
def Continues (session : Session) : Event → Prop
  | .draw env batch tx =>
    session.runtime.observes env (drawBatch session.generation batch tx) = true
  | .present env batch tx => batch.presentSubmissions ≠ [] ∧
    session.runtime.observes env (presentBatch session.generation batch tx) = true ∧
    session.runtime.enqueues env (presentBatch session.generation batch tx) = true
  | .other env batch => session.runtime.observes env (otherBatch batch) = true
  | .pageFlip _ _ _ => ∀ s, FlipApplies session.runtime s →
    (currentGeneration (find session.runtime.committedSurfaces s)).toNat + 1 < UInt64.size
  | _ => True

/-- A fit draw that the authority sends is committed. -/
def DrawCommits (session : Session) : Event → Prop
  | .draw env batch tx => Fit tx → (advanceGeneration (session.generation tx.surface)).isSome →
    CommitsBatch session.runtime env (drawBatch session.generation batch tx)
  | _ => True

/-- A fit draw finds its surface uncommitted, or in step with the authority's counter: as many of
its Presents applied as were sent. -/
def DrawInStep (session : Session) : Event → Prop
  | .draw _ _ tx => Fit tx → (advanceGeneration (session.generation tx.surface)).isSome →
    find session.runtime.committedSurfaces tx.surface = none ∨ session.lead tx.surface = 0
  | _ => True

/-- Committed generations trail the counters by the lead, and every layer holds the latest
transaction of its surface. -/
structure InStep (session : Session) : Prop where
  sound : Sound session.runtime
  generation : ∀ s entry, find session.runtime.committedSurfaces s = some entry →
    (entry.committedGeneration.toNat : ℤ) = (session.generation s).toNat - session.lead s
  latest : ∀ s tx, session.runtime.layers[s]? = some tx →
    tx.previousCommittedGeneration.toNat + 1 = (session.generation s).toNat

section Step

variable {session : Session} {env : Env} {batch : LiveProductionAuthorityBatch}
  {tx : SurfaceTransaction} {next : UInt64} {s : SurfaceId}

theorem toNat_advanceGeneration {generation : UInt64}
    (h : advanceGeneration generation = some next) :
    next.toNat = generation.toNat + 1 ∧ saturatingAdd generation 1 = next := by
  unfold advanceGeneration at h
  split at h
  · rename_i hlt
    have he : generation + 1 = next := Option.some.inj h
    have hone : (1 : UInt64).toNat = 1 := rfl
    have hnext : next.toNat = generation.toNat + 1 := by
      rw [← he, UInt64.toNat_add, hone]
      exact Nat.mod_eq_of_lt hlt
    refine ⟨hnext, UInt64.toNat_inj.mp ?_⟩
    rw [toNat_saturatingAdd, hnext, hone]
    omega
  · cases h

theorem latest_updateLayers {removed : List SurfaceId} (h : InStep session)
    (hadv : advanceGeneration (session.generation tx.surface) = some next) {layer : SurfaceTransaction}
    (hlayer : (updateLayers session.runtime.layers removed
      [stamp session.generation batch tx])[s]? = some layer) :
    layer.previousCommittedGeneration.toNat + 1 =
      (Function.update session.generation tx.surface next s).toNat := by
  by_cases hs : s = tx.surface
  · subst hs
    have he := hlayer.symm.trans (getElem?_updateLayers_singleton (stamp session.generation batch tx))
    cases he
    rw [Function.update_self, (toNat_advanceGeneration hadv).1]
    rfl
  · rw [getElem?_updateLayers_of_forall_ne (by simpa [stamp] using fun he => hs he.symm)] at hlayer
    rw [Function.update_of_ne hs]
    split at hlayer
    · cases hlayer
    · exact h.latest s layer hlayer

theorem find_validatedAgainst_drawn (h : Sound session.runtime)
    (batch : LiveProductionAuthorityBatch) (tx : SurfaceTransaction) :
    find (session.runtime.validatedAgainst (drawBatch session.generation batch tx)) tx.surface =
      some ((find session.runtime.committedSurfaces tx.surface).getD
        (seedState (stamp session.generation batch tx))) := by
  rw [find_validatedAgainst h]
  cases hc : find session.runtime.committedSurfaces tx.surface with
  | some entry => rfl
  | none =>
    have hnames : namesUncommitted (drawBatch session.generation batch tx).transactions
        session.runtime.committedSurfaces = true :=
      namesUncommitted_iff.mpr ⟨_, List.mem_singleton_self _, hc⟩
    have hlayer : (updateLayers session.runtime.layers
        (drawBatch session.generation batch tx).removedSurfaces
        (drawBatch session.generation batch tx).transactions)[tx.surface]? =
          some (stamp session.generation batch tx) := getElem?_updateLayers_singleton _
    rw [if_pos hnames, hlayer]
    rfl

/-- A draw is ready exactly when it is fit and its surface is new or in step. -/
theorem batchReady_draw (h : InStep session) (batch : LiveProductionAuthorityBatch)
    (tx : SurfaceTransaction) :
    BatchReady batch.transaction [stamp session.generation batch tx]
        (session.runtime.validatedAgainst (drawBatch session.generation batch tx)) ↔
      Fit tx ∧ (find session.runtime.committedSurfaces tx.surface = none ∨
        session.lead tx.surface = 0) := by
  have hfind := find_validatedAgainst_drawn h.sound batch tx
  have hgen : currentGeneration (some ((find session.runtime.committedSurfaces tx.surface).getD
      (seedState (stamp session.generation batch tx)))) = session.generation tx.surface ↔
        find session.runtime.committedSurfaces tx.surface = none ∨
          session.lead tx.surface = 0 := by
    cases hc : find session.runtime.committedSurfaces tx.surface with
    | none => simp [seedState, stamp]
    | some entry =>
      have hentry := h.generation tx.surface entry hc
      simp only [Option.getD_some, currentGeneration_some, reduceCtorEq, false_or]
      rw [← UInt64.toNat_inj]
      omega
  rw [BatchReady, List.forall_mem_singleton]
  constructor
  · rintro ⟨-, hready⟩
    have hready : ReadyOver (find _ tx.surface) (stamp session.generation batch tx) := hready
    rw [hfind] at hready
    exact ⟨⟨hready.valid, hready.nonempty, hready.ready⟩, hgen.mp hready.generation⟩
  · rintro ⟨⟨hvalid, hnonempty, hready⟩, hstep⟩
    refine ⟨rfl, ?_⟩
    show ReadyOver (find _ tx.surface) (stamp session.generation batch tx)
    rw [hfind]
    exact ⟨hvalid, hnonempty, fun _ => by simp, hready, hgen.mpr hstep⟩

/-- The drawn surface: committed at the advanced counter, or left behind by one more. -/
theorem generation_drawn (h : InStep session)
    (hadv : advanceGeneration (session.generation tx.surface) = some next)
    (ho : session.runtime.observes env (drawBatch session.generation batch tx) = true)
    {entry : CommittedSurfaceState}
    (hentry : find (step session.runtime (.cpuCycle env
      (drawBatch session.generation batch tx))).committedSurfaces tx.surface = some entry) :
    (entry.committedGeneration.toNat : ℤ) =
      next.toNat - leadAfterDraw session batch tx tx.surface := by
  obtain ⟨hnext, hsat⟩ := toNat_advanceGeneration hadv
  have hc := committed_cpuCycle session.runtime env (drawBatch session.generation batch tx)
  have hn : NodupSurfaces (session.runtime.validatedAgainst
      (drawBatch session.generation batch tx)) := nodup_seededFor h.sound.nodup
  have hready := batchReady_draw h batch tx
  simp only [step, (hc.observed ho).2] at hentry
  simp only [leadAfterDraw, if_true]
  by_cases hb : BatchReady batch.transaction [stamp session.generation batch tx]
      (session.runtime.validatedAgainst (drawBatch session.generation batch tx))
  · rw [find_intake_of_ready hn hb] at hentry
    split at hentry
    · cases hentry
    obtain ⟨tx', hm, -, he⟩ := find_nextCommitted_of_mem (session.runtime.validatedAgainst
      (drawBatch session.generation batch tx)) ⟨_, List.mem_singleton_self _, rfl⟩
    cases List.mem_singleton.mp hm
    cases he.symm.trans hentry
    have hgen : (nextState (stamp session.generation batch tx)).committedGeneration = next := hsat
    obtain ⟨hfit, hstep⟩ := hready.mp hb
    rw [hgen]
    by_cases hnone : find session.runtime.committedSurfaces tx.surface = none
    · simp [hnone, hfit]
    · simp [hnone, hfit, hstep.resolve_left hnone]
  · have hrejected := mt hready.mpr hb
    rw [intake_of_not_ready hn hb, find_validatedAgainst_drawn h.sound] at hentry
    cases hfind : find session.runtime.committedSurfaces tx.surface with
    | none =>
      rw [hfind] at hentry
      cases hentry
      have hunfit : ¬ Fit tx := fun hf => hrejected ⟨hf, Or.inl hfind⟩
      simp only [if_true, hunfit, if_false]
      show ((session.generation tx.surface).toNat : ℤ) = _
      omega
    | some old =>
      rw [hfind] at hentry
      cases hentry
      have hlead : ¬ (Fit tx ∧ session.lead tx.surface = 0) :=
        fun hf => hrejected ⟨hf.1, Or.inr hf.2⟩
      have hold := h.generation tx.surface old hfind
      simp only [reduceCtorEq, if_false, hlead]
      simp only [Option.getD_some]
      omega

/-- Another surface: as it was, entered from its layer, or destroyed. -/
theorem generation_other (h : InStep session)
    (ho : session.runtime.observes env (drawBatch session.generation batch tx) = true)
    (hs : s ≠ tx.surface) {entry : CommittedSurfaceState}
    (hentry : find (step session.runtime (.cpuCycle env
      (drawBatch session.generation batch tx))).committedSurfaces s = some entry) :
    (entry.committedGeneration.toNat : ℤ) =
      (session.generation s).toNat - leadAfterDraw session batch tx s := by
  have hc := committed_cpuCycle session.runtime env (drawBatch session.generation batch tx)
  have hn : NodupSurfaces (session.runtime.validatedAgainst
      (drawBatch session.generation batch tx)) := nodup_seededFor h.sound.nodup
  have hne : ∀ tx' ∈ [stamp session.generation batch tx], tx'.surface ≠ s := by
    simpa [stamp] using fun he => hs he.symm
  have hvalidated : find (session.runtime.validatedAgainst
      (drawBatch session.generation batch tx)) s = some entry := by
    simp only [step, (hc.observed ho).2] at hentry
    by_cases hb : BatchReady batch.transaction [stamp session.generation batch tx]
        (session.runtime.validatedAgainst (drawBatch session.generation batch tx))
    · rw [find_intake_of_ready hn hb] at hentry
      split at hentry
      · cases hentry
      · exact (find_nextCommitted_of_notMem _ hne).symm.trans hentry
    · rwa [intake_of_not_ready hn hb] at hentry
  rw [find_validatedAgainst h.sound] at hvalidated
  simp only [leadAfterDraw, hs, if_false]
  cases hfind : find session.runtime.committedSurfaces s with
  | some old =>
    rw [hfind] at hvalidated
    have he : old = entry := Option.some.inj hvalidated
    simpa [he] using h.generation s old hfind
  | none =>
    rw [hfind, Option.none_or] at hvalidated
    split at hvalidated
    swap
    · cases hvalidated
    rename_i hnames
    obtain ⟨layer, hlayer, he⟩ := Option.map_eq_some_iff.mp hvalidated
    have hdrawn : find session.runtime.committedSurfaces tx.surface = none := by
      obtain ⟨tx', hm, hnone⟩ := namesUncommitted_iff.mp hnames
      cases List.mem_singleton.mp hm
      exact hnone
    have hlayer : (updateLayers session.runtime.layers batch.removedSurfaces
        [stamp session.generation batch tx])[s]? = some layer := hlayer
    rw [getElem?_updateLayers_of_forall_ne hne] at hlayer
    have hmem : s ∈ updateLayers session.runtime.layers batch.removedSurfaces [tx] := by
      rw [ExtTreeMap.mem_iff_isSome_getElem?,
        getElem?_updateLayers_of_forall_ne (by simpa using fun he => hs he.symm), hlayer]
      rfl
    have hlatest : layer.previousCommittedGeneration.toNat + 1 = (session.generation s).toNat := by
      split at hlayer
      · cases hlayer
      · exact h.latest s layer hlayer
    rw [if_pos ⟨hdrawn, rfl, hmem⟩, ← he]
    show (layer.previousCommittedGeneration.toNat : ℤ) = _
    omega

theorem inStep_draw (h : InStep session)
    (hadv : advanceGeneration (session.generation tx.surface) = some next)
    (ho : session.runtime.observes env (drawBatch session.generation batch tx) = true) :
    InStep ⟨step session.runtime (.cpuCycle env (drawBatch session.generation batch tx)),
      Function.update session.generation tx.surface next, leadAfterDraw session batch tx⟩ := by
  have hc := committed_cpuCycle session.runtime env (drawBatch session.generation batch tx)
  refine ⟨sound_step h.sound (.cpuCycle env (drawBatch session.generation batch tx)), ?_, ?_⟩
  · intro s entry hentry
    by_cases hs : s = tx.surface
    · subst hs
      simp only [Function.update_self]
      exact generation_drawn h hadv ho hentry
    · simp only [Function.update_of_ne hs]
      exact generation_other h ho hs hentry
  · intro s layer hlayer
    simp only [step, (hc.observed ho).1] at hlayer
    exact latest_updateLayers h hadv hlayer

theorem inStep_present (h : InStep session)
    (hadv : advanceGeneration (session.generation tx.surface) = some next)
    (hcont : Continues session (.present env batch tx)) :
    InStep ⟨step session.runtime (.runBatch env (presentBatch session.generation batch tx)),
      Function.update session.generation tx.surface next,
      Function.update session.lead tx.surface (session.lead tx.surface + 1)⟩ := by
  obtain ⟨hb, ho, hq⟩ := hcont
  have hp := presented_runBatch session.runtime env
    (show (presentBatch session.generation batch tx).presentSubmissions ≠ [] from hb)
  refine ⟨sound_step h.sound (.runBatch env (presentBatch session.generation batch tx)), ?_, ?_⟩
  · intro s entry hentry
    simp only [step, hp.committed] at hentry
    have hold := h.generation s entry hentry
    by_cases hs : s = tx.surface
    · subst hs
      have hnext := (toNat_advanceGeneration hadv).1
      simp only [Function.update_self]
      omega
    · simpa [Function.update_of_ne hs] using hold
  · intro s layer hlayer
    simp only [step, hp.layers, ho, hq, and_self, if_true] at hlayer
    exact latest_updateLayers h hadv hlayer

theorem inStep_other (h : InStep session)
    (ho : session.runtime.observes env (otherBatch batch) = true) :
    InStep { session with runtime := step session.runtime (.cpuCycle env (otherBatch batch)) } := by
  have hc := committed_cpuCycle session.runtime env (otherBatch batch)
  have hn : NodupSurfaces (session.runtime.validatedAgainst (otherBatch batch)) :=
    nodup_seededFor h.sound.nodup
  have hb : BatchReady (otherBatch batch).transaction (otherBatch batch).transactions
      (session.runtime.validatedAgainst (otherBatch batch)) := fun tx htx => nomatch htx
  refine ⟨sound_step h.sound (.cpuCycle env (otherBatch batch)), ?_, ?_⟩
  · intro s entry hentry
    simp only [step, (hc.observed ho).2] at hentry
    rw [find_intake_of_ready hn hb] at hentry
    split at hentry
    · cases hentry
    · exact h.generation s entry hentry
  · intro s layer hlayer
    have hnone : ∀ tx ∈ (otherBatch batch).transactions, tx.surface ≠ s :=
      fun tx htx => nomatch (htx : tx ∈ [])
    simp only [step, (hc.observed ho).1] at hlayer
    rw [getElem?_updateLayers_of_forall_ne hnone] at hlayer
    split at hlayer
    · cases hlayer
    · exact h.latest s layer hlayer

theorem inStep_pageFlip (h : InStep session) (os : Os) (ust msc : UInt64)
    (hcont : Continues session (.pageFlip os ust msc)) :
    InStep { session with
      runtime := step session.runtime (.pageFlip os ust msc), lead := leadAfterFlip session } := by
  obtain ⟨hl, -, hc⟩ := pageFlip_frame session.runtime os ust msc
  refine ⟨sound_step h.sound (.pageFlip os ust msc), ?_, ?_⟩
  swap
  · intro s layer hlayer
    simp only [step, hl] at hlayer
    exact h.latest s layer hlayer
  intro s entry hentry
  simp only [step, hc] at hentry
  cases hsub : session.runtime.scheduler.submitted with
  | none =>
    rw [hsub] at hentry
    have hno : ¬ FlipApplies session.runtime s := by simp [FlipApplies, hsub]
    simpa [leadAfterFlip, hno] using h.generation s entry hentry
  | some submitted =>
    rw [hsub] at hentry
    dsimp only at hentry
    obtain ⟨t, transactions, committed, hn, hprep, hready⟩ := h.sound.submitted submitted hsub
    have happlies : FlipApplies session.runtime s ↔
        submitted.prepared.TouchedBaselineIsCurrent session.runtime.committedSurfaces ∧
          s ∈ submitted.prepared.commit.appliedSurfaces := by simp [FlipApplies, hsub]
    by_cases hf : FlipApplies session.runtime s
    · obtain ⟨hcurrent, hmem⟩ := happlies.mp hf
      have hcommit := apply_outcome_iff.mpr ⟨hready, hcurrent⟩
      have hfrom : PreparedFrom (Rebased transactions) submitted.prepared :=
        hprep ▸ preparedFrom_fullStatePresent hn
      have hgen := generation_of_apply hfrom hcommit hmem
      have hbound := hcont s hf
      rw [hentry, currentGeneration_some] at hgen
      have hnat : entry.committedGeneration.toNat =
          (currentGeneration (find session.runtime.committedSurfaces s)).toNat + 1 := by
        rw [hgen, toNat_saturatingAdd]
        have hone : (1 : UInt64).toNat = 1 := rfl
        omega
      simp only [leadAfterFlip, hf, if_true]
      cases hfind : find session.runtime.committedSurfaces s with
      | none =>
        rw [hfind, currentGeneration_none] at hnat
        have hzero : (0 : UInt64).toNat = 0 := rfl
        simp only [if_true]
        omega
      | some old =>
        have hold := h.generation s old hfind
        rw [hfind, currentGeneration_some] at hnat
        simp only [reduceCtorEq, if_false]
        omega
    · have hsame : find session.runtime.committedSurfaces s = some entry := by
        by_cases hcurrent : submitted.prepared.TouchedBaselineIsCurrent
            session.runtime.committedSurfaces
        · rwa [find_apply_untouched fun hmem => hf (happlies.mpr ⟨hcurrent, hmem⟩)] at hentry
        · rwa [apply_of_not_committed fun ho => hcurrent (apply_outcome_iff.mp ho).2] at hentry
      simpa [leadAfterFlip, hf] using h.generation s entry hsame

theorem inStep_step (h : InStep session) (event : Event) (hcont : Continues session event) :
    InStep (sessionStep session event) := by
  cases event with
  | draw env batch tx =>
    cases hadv : advanceGeneration (session.generation tx.surface) with
    | none => simpa [sessionStep, hadv] using h
    | some next => simpa [sessionStep, hadv] using inStep_draw h hadv hcont
  | present env batch tx =>
    cases hadv : advanceGeneration (session.generation tx.surface) with
    | none => simpa [sessionStep, hadv] using h
    | some next => simpa [sessionStep, hadv] using inStep_present h hadv hcont
  | other env batch => exact inStep_other h hcont
  | drive env =>
    have hd := driven_drive session.runtime env
    refine ⟨sound_step h.sound (.drive env), ?_, ?_⟩
    · intro s entry hentry
      simp only [sessionStep, step, hd.committed] at hentry
      exact h.generation s entry hentry
    · intro s layer hlayer
      simp only [sessionStep, step, hd.layers] at hlayer
      exact h.latest s layer hlayer
  | pageFlip os ust msc => exact inStep_pageFlip h os ust msc hcont
  | shutdown os =>
    obtain ⟨hc, hl, -⟩ := shutdown_frame session.runtime os
    refine ⟨sound_step h.sound (.shutdown os), ?_, ?_⟩
    · intro s entry hentry
      simp only [sessionStep, step, hc] at hentry
      exact h.generation s entry hentry
    · intro s layer hlayer
      simp only [sessionStep, step, hl] at hlayer
      exact h.latest s layer hlayer

theorem drawCommits_iff (h : InStep session) (event : Event) (hcont : Continues session event) :
    DrawCommits session event ↔ DrawInStep session event := by
  cases event with
  | draw env batch tx =>
    have hready := batchReady_draw h batch tx
    simp only [DrawCommits, DrawInStep, commitsBatch_iff h.sound hcont]
    constructor
    · exact fun hc hfit hsent => (hready.mp (hc hfit hsent)).2
    · exact fun hstep hfit hsent => hready.mpr ⟨hfit, hstep hfit hsent⟩
  | _ => exact Iff.rfl

end Step

def startSession (generation : SurfaceId → UInt64) (scheduler : LiveProductionPresentScheduler) :
    Session :=
  ⟨.withCommittedSurfaces [] scheduler, generation, fun _ => 0⟩

theorem inStep_run {scheduler : LiveProductionPresentScheduler} (hs : scheduler.submitted = none)
    {generation : SurfaceId → UInt64} {events : List Event}
    (hcont : Run.Guarded sessionStep Continues (startSession generation scheduler) events) :
    InStep (Run.exec sessionStep (startSession generation scheduler) events) := by
  refine Run.invariant ?_ (fun session event hc h => inStep_step h event hc) hcont
  refine ⟨sound_start Keyed.nodupKeys_nil hs, ?_, ?_⟩
  · intro s entry hentry
    cases hentry
  · intro s tx htx
    simp [startSession, LiveProductionVisualRuntime.withCommittedSurfaces] at htx

/-- Two draws of one window. -/
def drawnTwice : List Event :=
  [.draw Sample.env { transaction := ⟨1⟩, transactions := [] } (.draw ⟨1⟩ ⟨1, 1⟩ 0 1),
   .draw Sample.env { transaction := ⟨2⟩, transactions := [] } (.draw ⟨2⟩ ⟨1, 1⟩ 0 2)]

/-- A window draws, presents a frame that is flipped late or never, and draws again. -/
def drawnAfterPresent : List Event :=
  [.draw Sample.env
    { transaction := ⟨1⟩, transactions := []
      dmaBufRegistrations := [⟨Sample.descriptor ⟨7⟩, [3]⟩] } (.draw ⟨1⟩ ⟨1, 1⟩ 0 1),
   .present Sample.env
    { transaction := ⟨2⟩, transactions := [], presentSubmissions := [⟨⟨2⟩, ⟨1, 1⟩, ⟨7⟩, none, none⟩] }
    { SurfaceTransaction.draw ⟨2⟩ ⟨1, 1⟩ 0 0 with targetBuffer := .dmaBuf 7 },
   .draw Sample.env { transaction := ⟨3⟩, transactions := [] } (.draw ⟨3⟩ ⟨1, 1⟩ 0 2)]

end Sophia.Backend
