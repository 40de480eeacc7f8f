import Sophia.Lib.History
import Sophia.Backend.RuntimeFrames

/-! When a destroyed surface leaves the runtime, and when it comes back. -/
namespace Sophia.Backend

open Protocol Engine Std Ordered

def Action.batch? : Action → Option LiveProductionAuthorityBatch
  | .cpuCycle _ batch | .runBatch _ batch => some batch
  | _ => none

/-- The action is a batch that destroys the surface. -/
def Action.Removes (a : Action) (s : SurfaceId) : Prop :=
  ∃ batch ∈ a.batch?, s ∈ batch.removedSurfaces

/-- The action is a batch with a transaction of the surface. -/
def Action.Names (a : Action) (s : SurfaceId) : Prop :=
  ∃ batch ∈ a.batch?, ∃ tx ∈ batch.transactions, tx.surface = s

/-- Destroyed by some batch, and not drawn or presented by any batch since. -/
abbrev Destroyed (actions : List Action) (s : SurfaceId) : Prop :=
  Run.Marked Action.Removes Action.Names actions s

/-- The surface is on screen, in the layer map or open to input. -/
def Shown (rt : LiveProductionVisualRuntime) (s : SurfaceId) : Prop :=
  (∃ state ∈ rt.committedSurfaces, state.surface = s) ∨ s ∈ rt.layers ∨
    ∃ layer ∈ rt.inputLayers, layer.surface = s

theorem mem_inputLayers_surface {rt : LiveProductionVisualRuntime} (h : LayersKeyed rt.layers)
    {s : SurfaceId} : (∃ layer ∈ rt.inputLayers, layer.surface = s) ↔ s ∈ rt.layers := by
  have hsurfaces : rt.inputLayers.map (·.surface) = (values rt.layers).map (·.surface) := by
    rw [LiveProductionVisualRuntime.inputLayers, List.map_map]
    conv_rhs => rw [← List.zipIdx_map_fst 0 (values rt.layers), List.map_map]
    rfl
  have hmem : (∃ layer ∈ rt.inputLayers, layer.surface = s) ↔
      s ∈ (values rt.layers).map (·.surface) := by
    rw [← hsurfaces, List.mem_map]
  rw [hmem, List.mem_map, ExtTreeMap.mem_iff_isSome_getElem?, Option.isSome_iff_exists]
  constructor
  · rintro ⟨tx, htx, rfl⟩
    exact ⟨tx, h.mem_values_iff.mp htx⟩
  · rintro ⟨tx, htx⟩
    have hs := h s tx htx
    exact ⟨tx, h.mem_values_iff.mpr (hs.symm ▸ htx), hs⟩

theorem not_shown_iff {rt : LiveProductionVisualRuntime} (h : LayersKeyed rt.layers)
    {s : SurfaceId} : ¬ Shown rt s ↔ find rt.committedSurfaces s = none ∧ rt.layers[s]? = none := by
  rw [Shown, mem_inputLayers_surface h, or_self, not_or, Keyed.lookup_eq_none_iff,
    ExtTreeMap.mem_iff_isSome_getElem?, Option.not_isSome_iff_eq_none]
  simp only [not_exists, not_and, ne_eq]

/-- What lets a batch without Present submissions take a surface off the screen: its resources
are taken, and its transactions are all ready if the surface is committed. -/
def DropsCommitted (rt : LiveProductionVisualRuntime) (env : Env)
    (batch : LiveProductionAuthorityBatch) (s : SurfaceId) : Prop :=
  rt.observes env batch = true ∧ (find rt.committedSurfaces s ≠ none →
    BatchReady batch.transaction batch.transactions (rt.validatedAgainst batch))

/-- The same for a batch with Present submissions, which leaves the committed vector alone. -/
def DropsPresented (rt : LiveProductionVisualRuntime) (env : Env)
    (batch : LiveProductionAuthorityBatch) (s : SurfaceId) : Prop :=
  rt.observes env batch = true ∧ rt.enqueues env batch = true ∧
    find rt.committedSurfaces s = none

/-- Every surface the action destroys is gone already or leaves, and a page flip does not show
a destroyed surface. -/
def RemovalHolds (before : List Action) (rt : LiveProductionVisualRuntime) : Action → Prop
  | .cpuCycle env batch => ∀ s ∈ batch.removedSurfaces, Shown rt s → DropsCommitted rt env batch s
  | .runBatch env batch => ∀ s ∈ batch.removedSurfaces, Shown rt s →
    if batch.presentSubmissions = [] then DropsCommitted rt env batch s
    else DropsPresented rt env batch s
  | .pageFlip _ _ _ => ∀ submitted ∈ rt.scheduler.submitted,
    submitted.prepared.TouchedBaselineIsCurrent rt.committedSurfaces →
      ∀ s ∈ submitted.prepared.commit.appliedSurfaces, ¬ Destroyed before s
  | _ => True

section Step

variable {before : List Action} {rt rt' : LiveProductionVisualRuntime} {env : Env}
  {batch : LiveProductionAuthorityBatch} {s : SurfaceId}

theorem find_validatedAgainst_of_forall_ne (h : Sound rt)
    (hne : ∀ tx ∈ batch.transactions, tx.surface ≠ s)
    (hs : s ∈ batch.removedSurfaces ∨ rt.layers[s]? = none) :
    find (rt.validatedAgainst batch) s = find rt.committedSurfaces s := by
  have hlayer : (updateLayers rt.layers batch.removedSurfaces batch.transactions)[s]? = none := by
    rw [getElem?_updateLayers_of_forall_ne hne]
    rcases hs with hs | hs <;> simp [hs]
  rw [LiveProductionVisualRuntime.validatedAgainst,
    find_seededFor h.nodup (layersKeyed_updateLayers h.keyed), hlayer]
  simp

/-- What a batch leaves of a surface it destroys. -/
theorem find_of_removed (h : Sound rt) (hc : Committed rt rt' env batch)
    (ho : rt.observes env batch = true) (hs : s ∈ batch.removedSurfaces)
    (hne : ∀ tx ∈ batch.transactions, tx.surface ≠ s) :
    rt'.layers[s]? = none ∧ find rt'.committedSurfaces s =
      if BatchReady batch.transaction batch.transactions (rt.validatedAgainst batch) then none
      else find rt.committedSurfaces s := by
  obtain ⟨hl, hcom⟩ := hc.observed ho
  have hn : NodupSurfaces (rt.validatedAgainst batch) := nodup_seededFor h.nodup
  rw [hl, hcom, getElem?_updateLayers_of_forall_ne hne, if_pos hs]
  refine ⟨rfl, ?_⟩
  split
  · rename_i hb
    rw [find_intake_of_ready hn hb, if_pos hs]
  · rename_i hb
    rw [intake_of_not_ready hn hb, find_validatedAgainst_of_forall_ne h hne (Or.inl hs)]

/-- A surface the batch destroys ends up out of sight exactly under the condition. -/
theorem gone_of_committed (h : Sound rt) (hc : Committed rt rt' env batch)
    (hs : s ∈ batch.removedSurfaces) (hne : ∀ tx ∈ batch.transactions, tx.surface ≠ s) :
    ¬ Shown rt' s ↔ (Shown rt s → DropsCommitted rt env batch s) := by
  rw [not_shown_iff (sound_committed h hc).keyed, ← not_imp_not, not_shown_iff h.keyed,
    DropsCommitted]
  cases ho : rt.observes env batch with
  | false =>
    obtain ⟨hcom, hl⟩ := hc.refused ho
    rw [hcom, hl]
    simp
  | true =>
    obtain ⟨hl, hcom⟩ := find_of_removed h hc ho hs hne
    rw [hl, hcom]
    split <;> simp_all

/-- A surface that is out of sight stays so when the batch does not name it. -/
theorem gone_of_committed_unnamed (h : Sound rt) (hc : Committed rt rt' env batch)
    (hgone : ¬ Shown rt s) (hne : ∀ tx ∈ batch.transactions, tx.surface ≠ s) : ¬ Shown rt' s := by
  rw [not_shown_iff h.keyed] at hgone
  rw [not_shown_iff (sound_committed h hc).keyed]
  cases ho : rt.observes env batch with
  | false =>
    obtain ⟨hcom, hl⟩ := hc.refused ho
    rwa [hcom, hl]
  | true =>
    obtain ⟨hl, hcom⟩ := hc.observed ho
    have hn : NodupSurfaces (rt.validatedAgainst batch) := nodup_seededFor h.nodup
    have hv := find_validatedAgainst_of_forall_ne h hne (Or.inr hgone.2)
    refine ⟨?_, by simp [hl, getElem?_updateLayers_of_forall_ne hne, hgone.2]⟩
    rw [hcom]
    by_cases hb : BatchReady batch.transaction batch.transactions (rt.validatedAgainst batch)
    · rw [find_intake_of_ready hn hb, find_nextCommitted_of_notMem _ hne, hv, hgone.1]
      simp
    · rw [intake_of_not_ready hn hb, hv, hgone.1]

theorem gone_of_presented (h : Sound rt) (h' : Sound rt') (hp : Presented rt rt' env batch)
    (hs : s ∈ batch.removedSurfaces) (hne : ∀ tx ∈ batch.transactions, tx.surface ≠ s) :
    ¬ Shown rt' s ↔ (Shown rt s → DropsPresented rt env batch s) := by
  rw [not_shown_iff h'.keyed, ← not_imp_not, not_shown_iff h.keyed, DropsPresented, hp.committed,
    hp.layers]
  split
  · rename_i hok
    rw [getElem?_updateLayers_of_forall_ne hne, if_pos hs]
    simp_all
  · rename_i hok
    simp_all

theorem gone_of_presented_unnamed (h : Sound rt) (h' : Sound rt')
    (hp : Presented rt rt' env batch) (hgone : ¬ Shown rt s)
    (hne : ∀ tx ∈ batch.transactions, tx.surface ≠ s) : ¬ Shown rt' s := by
  rw [not_shown_iff h.keyed] at hgone
  rw [not_shown_iff h'.keyed, hp.committed, hp.layers]
  split
  · rw [getElem?_updateLayers_of_forall_ne hne]
    simp [hgone]
  · exact hgone

theorem shown_congr (hc : rt'.committedSurfaces = rt.committedSurfaces)
    (hl : rt'.layers = rt.layers) : Shown rt' s ↔ Shown rt s := by
  simp only [Shown, LiveProductionVisualRuntime.inputLayers, hc, hl]

/-- A page flip shows a surface that was out of sight exactly when it applies a presentation
of it. -/
theorem gone_of_pageFlip (h : Sound rt) (os : Os) (ust msc : UInt64) (hgone : ¬ Shown rt s) :
    ¬ Shown (step rt (.pageFlip os ust msc)) s ↔ ∀ submitted ∈ rt.scheduler.submitted,
      submitted.prepared.TouchedBaselineIsCurrent rt.committedSurfaces →
        s ∉ submitted.prepared.commit.appliedSurfaces := by
  obtain ⟨hl, -, hc⟩ := pageFlip_frame rt os ust msc
  rw [not_shown_iff h.keyed] at hgone
  rw [not_shown_iff (sound_step h _).keyed]
  simp only [step, hl, hc, hgone.2, and_true]
  cases hsub : rt.scheduler.submitted with
  | none => simp [hgone.1]
  | some submitted =>
    obtain ⟨_, _, _, _, _, hready⟩ := h.submitted submitted hsub
    simp only [Option.mem_some_iff, forall_eq']
    constructor
    · intro hnone hcurrent hmem
      have happlied := apply_outcome_iff.mpr ⟨hready, hcurrent⟩
      rw [find_apply_touched happlied hmem] at hnone
      have hsome := submitted.prepared.candidate_isSome s hmem
      simp [hnone] at hsome
    · intro himp
      by_cases hcurrent : submitted.prepared.TouchedBaselineIsCurrent rt.committedSurfaces
      · rw [find_apply_untouched (himp hcurrent), hgone.1]
      · have hrefused : (applyPreparedSurfaceCommit submitted.prepared
            rt.committedSurfaces).1.outcome ≠ .committed :=
          fun ho => hcurrent (apply_outcome_iff.mp ho).2
        rw [apply_of_not_committed hrefused, hgone.1]

/-- No destroyed surface is shown. -/
def DestroyedGone (before : List Action) (rt : LiveProductionVisualRuntime) : Prop :=
  ∀ s, Destroyed before s → ¬ Shown rt s

/-- A batch keeps the property exactly when the surfaces it destroys leave. -/
theorem destroyedGone_batch {a : Action} {leaves : SurfaceId → Prop} (ha : a.batch? = some batch)
    (hdisjoint : ∀ s ∈ batch.removedSurfaces, ∀ tx ∈ batch.transactions, tx.surface ≠ s)
    (hbefore : DestroyedGone before rt)
    (hremoved : ∀ s ∈ batch.removedSurfaces, (∀ tx ∈ batch.transactions, tx.surface ≠ s) →
      (¬ Shown rt' s ↔ leaves s))
    (hunnamed : ∀ s, ¬ Shown rt s → (∀ tx ∈ batch.transactions, tx.surface ≠ s) →
      ¬ Shown rt' s) :
    DestroyedGone (before ++ [a]) rt' ↔ ∀ s ∈ batch.removedSurfaces, leaves s := by
  have hr : ∀ s, a.Removes s ↔ s ∈ batch.removedSurfaces := by simp [Action.Removes, ha]
  have hnm : ∀ s, a.Names s ↔ ∃ tx ∈ batch.transactions, tx.surface = s := by
    simp [Action.Names, ha]
  constructor
  · intro h s hs
    exact (hremoved s hs (hdisjoint s hs)).mp (h s (Run.marked_snoc.mpr (Or.inl ((hr s).mpr hs))))
  · intro h s hd
    rcases Run.marked_snoc.mp hd with hrem | ⟨hold, hname⟩
    · have hs := (hr s).mp hrem
      exact (hremoved s hs (hdisjoint s hs)).mpr (h s hs)
    · refine hunnamed s (hbefore s hold) ?_
      intro tx htx he
      exact hname ((hnm s).mpr ⟨tx, htx, he⟩)

theorem destroyed_snoc {a : Action} (ha : a.batch? = none) :
    Destroyed (before ++ [a]) s ↔ Destroyed before s := by
  rw [Destroyed, Run.marked_snoc]
  simp [Action.Removes, Action.Names, ha]

/-- No batch of the run names a surface both in its transactions and in its removals. -/
def Action.Disjoint (a : Action) : Prop :=
  ∀ batch ∈ a.batch?, ∀ s ∈ batch.removedSurfaces, ∀ tx ∈ batch.transactions, tx.surface ≠ s

theorem destroyedGone_step (h : Sound rt) {a : Action} (ha : a.Disjoint)
    (hbefore : DestroyedGone before rt) :
    DestroyedGone (before ++ [a]) (step rt a) ↔ RemovalHolds before rt a := by
  cases a with
  | cpuCycle env batch =>
    have hc := committed_cpuCycle rt env batch
    exact destroyedGone_batch rfl (ha batch rfl) hbefore
      (fun s hs hne => gone_of_committed h hc hs hne)
      (fun s hgone hne => gone_of_committed_unnamed h hc hgone hne)
  | runBatch env batch =>
    by_cases hb : batch.presentSubmissions = []
    · have hc := committed_runBatch rt env hb
      simp only [RemovalHolds, if_pos hb]
      exact destroyedGone_batch rfl (ha batch rfl) hbefore
        (fun s hs hne => gone_of_committed h hc hs hne)
        (fun s hgone hne => gone_of_committed_unnamed h hc hgone hne)
    · have hp := presented_runBatch rt env hb
      have h' := sound_step h (.runBatch env batch)
      simp only [RemovalHolds, if_neg hb]
      exact destroyedGone_batch rfl (ha batch rfl) hbefore
        (fun s hs hne => gone_of_presented h h' hp hs hne)
        (fun s hgone hne => gone_of_presented_unnamed h h' hp hgone hne)
  | drive env =>
    have hd := driven_drive rt env
    simp only [RemovalHolds, iff_true]
    intro s hs
    rw [step, shown_congr hd.committed hd.layers]
    exact hbefore s ((destroyed_snoc rfl).mp hs)
  | pageFlip os ust msc =>
    constructor
    · intro hafter submitted hsub hcurrent s hs hd
      have hgone := hafter s ((destroyed_snoc rfl).mpr hd)
      exact (gone_of_pageFlip h os ust msc (hbefore s hd)).mp hgone submitted hsub hcurrent hs
    · intro hflip s hd
      have hd := (destroyed_snoc rfl).mp hd
      refine (gone_of_pageFlip h os ust msc (hbefore s hd)).mpr ?_
      exact fun submitted hsub hcurrent hs => hflip submitted hsub hcurrent s hs hd
  | shutdown os =>
    obtain ⟨hc, hl, -⟩ := shutdown_frame rt os
    simp only [RemovalHolds, iff_true]
    intro s hs
    rw [step, shown_congr hc hl]
    exact hbefore s ((destroyed_snoc rfl).mp hs)

end Step

section Intake

variable {intake : AuthorityTransactionIntake} {committed : List CommittedSurfaceState}

def intakeStep (committed : List CommittedSurfaceState) (intake : AuthorityTransactionIntake) :
    List CommittedSurfaceState :=
  (intake.commit committed).2

/-- No surface destroyed by an intake, and not named since, is committed. -/
def DestroyedUncommitted (before : List AuthorityTransactionIntake)
    (committed : List CommittedSurfaceState) : Prop :=
  ∀ s, Run.Marked (fun intake s => s ∈ intake.removedSurfaces)
    (fun intake s => ∃ tx ∈ intake.transactions, tx.surface = s) before s →
      ∀ state ∈ committed, state.surface ≠ s

/-- The intake destroys no committed surface, or all its transactions are ready. -/
def IntakeRemovalHolds (_ : List AuthorityTransactionIntake)
    (committed : List CommittedSurfaceState) (intake : AuthorityTransactionIntake) : Prop :=
  ∀ s ∈ intake.removedSurfaces, find committed s ≠ none →
    BatchReady intake.transaction intake.transactions committed

theorem find_intake_of_forall_ne (hn : NodupSurfaces committed) {s : SurfaceId}
    (hne : ∀ tx ∈ intake.transactions, tx.surface ≠ s) :
    find (intake.commit committed).2 s =
      if s ∈ intake.removedSurfaces ∧ BatchReady intake.transaction intake.transactions committed
      then none else find committed s := by
  by_cases hb : BatchReady intake.transaction intake.transactions committed
  · rw [find_intake_of_ready hn hb, find_nextCommitted_of_notMem _ hne]
    simp [hb]
  · rw [intake_of_not_ready hn hb]
    simp [hb]

theorem destroyedUncommitted_step {before : List AuthorityTransactionIntake}
    (hn : NodupSurfaces committed)
    (hdisjoint : ∀ s ∈ intake.removedSurfaces, ∀ tx ∈ intake.transactions, tx.surface ≠ s)
    (hbefore : DestroyedUncommitted before committed) :
    DestroyedUncommitted (before ++ [intake]) (intakeStep committed intake) ↔
      IntakeRemovalHolds before committed intake := by
  constructor
  · intro h s hs hcommitted
    have hgone : find (intake.commit committed).2 s = none :=
      Keyed.lookup_eq_none_iff.mpr (h s (Run.marked_snoc.mpr (Or.inl hs)))
    rw [find_intake_of_forall_ne hn (hdisjoint s hs)] at hgone
    by_contra hb
    rw [if_neg fun hc => hb hc.2] at hgone
    exact hcommitted hgone
  · intro h s hd
    have hfind : find (intake.commit committed).2 s = none := by
      rcases Run.marked_snoc.mp hd with hs | ⟨hold, hname⟩
      · rw [find_intake_of_forall_ne hn (hdisjoint s hs)]
        by_cases hc : find committed s = none
        · simp [hc]
        · simp [hs, h s hs hc]
      · have hne : ∀ tx ∈ intake.transactions, tx.surface ≠ s :=
          fun tx htx he => hname ⟨tx, htx, he⟩
        have hgone : find committed s = none := Keyed.lookup_eq_none_iff.mpr (hbefore s hold)
        rw [find_intake_of_forall_ne hn hne, hgone]
        simp
    exact Keyed.lookup_eq_none_iff.mp hfind

end Intake

/-- In every run of the runtime, and of the bare intake, no destroyed surface is ever shown
exactly when each removal takes effect and no page flip shows a destroyed surface again. -/
theorem destroyed_surface_stays_gone {committed : List CommittedSurfaceState}
    (hn : NodupSurfaces committed) {scheduler : LiveProductionPresentScheduler}
    (hs : scheduler.submitted = none) {actions : List Action}
    (hactions : ∀ a ∈ actions, a.Disjoint) {intakes : List AuthorityTransactionIntake}
    (hintakes : ∀ intake ∈ intakes, ∀ s ∈ intake.removedSurfaces,
      ∀ tx ∈ intake.transactions, tx.surface ≠ s) :
    (Run.Throughout step DestroyedGone (.withCommittedSurfaces committed scheduler) actions ↔
      Run.GuardedBy step RemovalHolds (.withCommittedSurfaces committed scheduler) actions) ∧
    (Run.Throughout intakeStep DestroyedUncommitted committed intakes ↔
      Run.GuardedBy intakeStep IntakeRemovalHolds committed intakes) := by
  constructor
  · refine Run.throughout_iff (fun s hd => absurd hd Run.not_marked_nil) ?_
    intro before a after he hbefore
    exact destroyedGone_step (sound_run hn hs before) (hactions a (by simp [he])) hbefore
  · refine Run.throughout_iff (fun s hd => absurd hd Run.not_marked_nil) ?_
    intro before intake after he hbefore
    have hnodup : NodupSurfaces (Run.exec intakeStep committed before) :=
      Run.invariant hn (fun _ _ _ h => nodup_intake h) Run.guarded_true
    exact destroyedUncommitted_step hnodup (hintakes intake (by simp [he])) hbefore

/-- A window draws and is destroyed. -/
def drawnAndDestroyed : List Action :=
  [.cpuCycle Sample.env (Sample.drawBatch ⟨1⟩ ⟨1, 1⟩ 1 1),
   .cpuCycle Sample.env (Sample.destroyBatch ⟨2⟩ ⟨1, 1⟩)]

theorem drawn_and_destroyed_gone :
    ¬ Shown (Run.exec step (.withCommittedSurfaces [] {}) drawnAndDestroyed) ⟨1, 1⟩ := by
  have hdisjoint : ∀ a ∈ drawnAndDestroyed, a.Disjoint := by
    simp [drawnAndDestroyed, Action.Disjoint, Action.batch?, Sample.drawBatch,
      Sample.destroyBatch]
  refine (destroyed_surface_stays_gone Keyed.nodupKeys_nil rfl hdisjoint
    (fun _ h => nomatch (h : _ ∈ []))).1.mpr ?_ drawnAndDestroyed [] rfl ⟨1, 1⟩ ?_
  · intro before a after he
    rcases before with _ | ⟨_, _ | ⟨_, _⟩⟩
    · cases he
      simp [RemovalHolds, Sample.drawBatch]
    · cases he
      intro s _ _
      exact ⟨by decide +kernel, fun _ tx htx => nomatch (htx : tx ∈ [])⟩
    · simp [drawnAndDestroyed] at he
  · exact ⟨drawnAndDestroyed.take 1, _, [], rfl, ⟨_, rfl, List.mem_singleton_self _⟩, by simp⟩

/-- A window presents its first frame and is destroyed while that frame is in flight. -/
def destroyedBeforeFlip : List Action :=
  [.cpuCycle Sample.env
    { transaction := ⟨1⟩, transactions := []
      dmaBufRegistrations := [⟨Sample.descriptor ⟨7⟩, [3]⟩] },
   .runBatch Sample.env (Sample.presentBatch ⟨2⟩ ⟨1, 1⟩ 1 ⟨7⟩),
   .cpuCycle Sample.env (Sample.destroyBatch ⟨3⟩ ⟨1, 1⟩),
   .pageFlip Sample.os 1 1]

/-- A window is destroyed in the batch in which another one is not ready. -/
def destroyedBesidePending : List Action :=
  [.cpuCycle Sample.env (Sample.drawBatch ⟨1⟩ ⟨1, 1⟩ 1 1),
   .cpuCycle Sample.env
    { transaction := ⟨2⟩
      transactions := [{ SurfaceTransaction.draw ⟨2⟩ ⟨2, 1⟩ 1 2 with readiness := .pending }]
      removedSurfaces := [⟨1, 1⟩] }]

/-- The flip brings the destroyed window back, and the pending window keeps it on screen. -/
theorem destroyed_surface_shown :
    (∀ a ∈ destroyedBeforeFlip ++ destroyedBesidePending, a.Disjoint) ∧
    Destroyed destroyedBeforeFlip ⟨1, 1⟩ ∧
    Shown (Run.exec step (.withCommittedSurfaces [] {}) destroyedBeforeFlip) ⟨1, 1⟩ ∧
    Destroyed destroyedBesidePending ⟨1, 1⟩ ∧
    Shown (Run.exec step (.withCommittedSurfaces [] {}) destroyedBesidePending) ⟨1, 1⟩ := by
  refine ⟨?_, ?_, ?_, ?_, ?_⟩
  · simp [destroyedBeforeFlip, destroyedBesidePending, Action.Disjoint, Action.batch?,
      Sample.drawBatch, Sample.destroyBatch, Sample.presentBatch, SurfaceTransaction.draw]
  · refine ⟨destroyedBeforeFlip.take 2, _, _, rfl, ⟨_, rfl, List.mem_singleton_self _⟩, ?_⟩
    simp [Action.Names, Action.batch?]
  · exact Or.inl (by decide +kernel)
  · exact ⟨destroyedBesidePending.take 1, _, [], rfl, ⟨_, rfl, List.mem_singleton_self _⟩, by simp⟩
  · exact Or.inl (by decide +kernel)

end Sophia.Backend
