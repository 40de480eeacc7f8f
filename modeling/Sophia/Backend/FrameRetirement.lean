import Sophia.Backend.RenderedScanout

/-! What the ticks of one runtime do to its frame in flight. -/
namespace Sophia.Backend

open Protocol

variable {ρ : Type}

/-- The output takes the callback for a new page flip of its own. -/
def accepts (primaryOutput : OutputId) (intake : LivePageFlipCallbackIntake)
    (callback : LivePageFlipCallback) : Bool :=
  callback.output = primaryOutput && (intake.observe callback).1.decision = .accepted

/-- Between the reports and the intakes at least one flip was accepted, the last of them newer than
all before. -/
structure TookFlip (report report' : LivePageFlipCallbackQueueReport)
    (intake intake' : LivePageFlipCallbackIntake) : Prop where
  more : report.accepted < report'.accepted
  newest : ∃ serial, report'.lastAccepted = some ⟨.accepted, ⟨.presented, some serial⟩⟩ ∧
    intake'.lastFrameSerial = some serial ∧ ∀ last ∈ intake.lastFrameSerial, last < serial

/-- Between the reports and the intakes no flip was accepted. -/
structure TookNone (report report' : LivePageFlipCallbackQueueReport)
    (intake intake' : LivePageFlipCallbackIntake) : Prop where
  accepted : report'.accepted = report.accepted
  lastAccepted : report'.lastAccepted = report.lastAccepted
  intake : intake' = intake

section Drain

variable {primaryOutput : OutputId} {intake intake' : LivePageFlipCallbackIntake}
  {state : LiveRenderedOutputState ρ} {callback : LivePageFlipCallback}
  {callbacks : List LivePageFlipCallback} {report : LivePageFlipCallbackQueueReport}

theorem observe_of_accepts (h : accepts primaryOutput intake callback = true) :
    intake.observe callback = (⟨.accepted, ⟨.presented, some callback.frameSerial⟩⟩,
      { intake with lastFrameSerial := some callback.frameSerial }) ∧
    ∀ last ∈ intake.lastFrameSerial, last < callback.frameSerial := by
  simp only [accepts, Bool.and_eq_true, decide_eq_true_eq] at h
  obtain ⟨-, h⟩ := h
  unfold LivePageFlipCallbackIntake.observe at h ⊢
  split at h
  · cases h
  · split at h
    · cases h
    · rename_i hout hstale
      refine ⟨by rw [if_neg hout, if_neg hstale], ?_⟩
      intro last hlast
      have hl : intake.lastFrameSerial = some last := hlast
      rw [hl] at hstale
      simpa [UInt64.not_le] using hstale

theorem observePageFlipCallback_of_accepts
    (h : accepts primaryOutput state.pageFlipCallbackIntake callback = true) :
    observePageFlipCallback primaryOutput state callback =
      (⟨.accepted, ⟨.presented, some callback.frameSerial⟩⟩, { state with
        pageFlipEvent := ⟨.presented, some callback.frameSerial⟩
        pageFlipCallbackIntake := { state.pageFlipCallbackIntake with
          lastFrameSerial := some callback.frameSerial } }) := by
  have hout : callback.output = primaryOutput := by
    simp only [accepts, Bool.and_eq_true, decide_eq_true_eq] at h
    exact h.1
  rw [observePageFlipCallback, if_pos hout, (observe_of_accepts h).1]

theorem observePageFlipCallback_of_not_accepts
    (h : accepts primaryOutput state.pageFlipCallbackIntake callback = false) :
    ∃ event callbackReport, callbackReport.decision ≠ .accepted ∧
      observePageFlipCallback primaryOutput state callback =
        (callbackReport, { state with pageFlipEvent := event }) := by
  by_cases hout : callback.output = primaryOutput
  · have hd : (state.pageFlipCallbackIntake.observe callback).1.decision ≠ .accepted := by
      simpa [accepts, hout] using h
    have hsame : (state.pageFlipCallbackIntake.observe callback).2 = state.pageFlipCallbackIntake := by
      unfold LivePageFlipCallbackIntake.observe at hd ⊢
      split
      · rfl
      · split
        · rfl
        · rename_i hn hs
          rw [if_neg hn, if_neg hs] at hd
          exact (hd rfl).elim
    refine ⟨(state.pageFlipCallbackIntake.observe callback).1.event, _, hd, ?_⟩
    simp only [observePageFlipCallback, if_pos hout, hsame]
  · refine ⟨state.pageFlipEvent, ⟨.rejectedUnexpectedOutput, ⟨.waitingForOutput, none⟩⟩,
      by simp, ?_⟩
    rw [observePageFlipCallback, if_neg hout]

theorem record_of_not_accepted (report : LivePageFlipCallbackQueueReport)
    {callbackReport : LivePageFlipCallbackReport} (h : callbackReport.decision ≠ .accepted) :
    (report.record callbackReport).accepted = report.accepted ∧
      (report.record callbackReport).lastAccepted = report.lastAccepted := by
  unfold LivePageFlipCallbackQueueReport.record
  rw [if_neg h]
  cases hd : callbackReport.decision with
  | accepted => exact (h hd).elim
  | rejectedUnexpectedOutput => exact ⟨rfl, rfl⟩
  | rejectedStaleFrameSerial => exact ⟨rfl, rfl⟩

/-- Draining only moves the intake and the last page-flip event; which way depends on whether the
callbacks hold an acceptable one. -/
theorem drainReadyWith_spec {report' : LivePageFlipCallbackQueueReport}
    {state' : LiveRenderedOutputState ρ}
    (h : drainReadyWith (observePageFlipCallback primaryOutput) callbacks report state =
      (report', state')) :
    ∃ event intake', state' = { state with
        pageFlipEvent := event, pageFlipCallbackIntake := intake' } ∧
      if callbacks.any (accepts primaryOutput state.pageFlipCallbackIntake) then
        TookFlip report report' state.pageFlipCallbackIntake intake'
      else TookNone report report' state.pageFlipCallbackIntake intake' := by
  induction callbacks generalizing report state with
  | nil =>
    cases h
    exact ⟨_, _, rfl, rfl, rfl, rfl⟩
  | cons callback rest ih =>
    rw [drainReadyWith] at h
    rw [List.any_cons]
    cases hc : accepts primaryOutput state.pageFlipCallbackIntake callback with
    | true =>
      rw [observePageFlipCallback_of_accepts hc] at h
      obtain ⟨event, intake', hstate, hcase⟩ := ih h
      have hnew := (observe_of_accepts hc).2
      refine ⟨event, intake', hstate, ?_⟩
      rw [Bool.true_or, if_pos rfl]
      split at hcase
      · obtain ⟨serial, hlast, hintake, hgt⟩ := hcase.newest
        refine ⟨Nat.lt_of_succ_lt hcase.more, serial, hlast, hintake, ?_⟩
        exact fun last hm => UInt64.lt_trans (hnew last hm) (hgt _ rfl)
      · refine ⟨?_, callback.frameSerial, hcase.lastAccepted, by rw [hcase.intake], hnew⟩
        rw [hcase.accepted]
        exact Nat.lt_succ_self _
    | false =>
      obtain ⟨event, callbackReport, hd, hobs⟩ := observePageFlipCallback_of_not_accepts hc
      rw [hobs] at h
      obtain ⟨event, intake', hstate, hcase⟩ := ih h
      obtain ⟨hacc, hlast⟩ := record_of_not_accepted report hd
      refine ⟨event, intake', hstate, ?_⟩
      rw [Bool.false_or]
      split at hcase
      · rename_i hany
        rw [if_pos hany]
        exact ⟨hacc ▸ hcase.more, hcase.newest⟩
      · rename_i hany
        rw [if_neg hany]
        exact ⟨hcase.accepted.trans hacc, hcase.lastAccepted.trans hlast, hcase.intake⟩

end Drain

namespace LiveBackendRuntimeAssembly

variable (rt : LiveBackendRuntimeAssembly ρ)

def lastFrameSerial : Option UInt64 := rt.state.pageFlipCallbackIntake.lastFrameSerial

/-- A page flip the runtime would accept waits in its queue. -/
def flipWaiting : Bool :=
  rt.pageFlipCallbackQueue.items.any (accepts rt.primaryOutput rt.state.pageFlipCallbackIntake)

/-- The frame in flight, if any, has missed no page flip. -/
def UpToDate : Prop :=
  ∀ submission ∈ rt.state.scanoutSubmission,
    rt.lastFrameSerial = submission.submittedAfterPageFlipSerial

instance : Decidable rt.UpToDate :=
  inferInstanceAs (Decidable (∀ submission ∈ rt.state.scanoutSubmission,
    rt.lastFrameSerial = submission.submittedAfterPageFlipSerial))

/-- What the ticks of a runtime leave as it is, and that they empty its queue. -/
structure Drained (rt rt' : LiveBackendRuntimeAssembly ρ) : Prop where
  primaryOutput : rt'.primaryOutput = rt.primaryOutput
  retain : rt'.state.retainDisplayedSubmission = rt.state.retainDisplayedSubmission
  queue : rt'.pageFlipCallbackQueue.items = []

/-- The frame in flight stays as it is. -/
structure SameFrame (rt rt' : LiveBackendRuntimeAssembly ρ) : Prop where
  submission : rt'.state.scanoutSubmission = rt.state.scanoutSubmission
  displayed : rt'.state.displayedSubmission = rt.state.displayedSubmission

/-- A page flip was accepted and has moved the frame in flight to the screen. -/
structure Landed (rt rt' : LiveBackendRuntimeAssembly ρ) : Prop where
  newer : rt'.lastFrameSerial ≠ rt.lastFrameSerial
  submission : rt'.state.scanoutSubmission = none
  displayed : rt.state.retainDisplayedSubmission = true →
    ∀ submission ∈ rt.state.scanoutSubmission, rt'.state.displayedSubmission = some submission

variable {rt} {rt' : LiveBackendRuntimeAssembly ρ} {report : LivePageFlipCallbackQueueReport}

theorem lastFrameSerial_ne_of_newer {last : Option UInt64} (last' : Option UInt64) {serial : UInt64}
    (h : last' = some serial) (hnew : ∀ l ∈ last, l < serial) : last' ≠ last := by
  intro he
  have hlt := hnew serial (he ▸ h)
  exact UInt64.lt_irrefl _ hlt

theorem drain_spec (h : rt.drainPageFlipCallbackQueue = (report, rt')) :
    Drained rt rt' ∧ SameFrame rt rt' ∧
      if rt.flipWaiting then
        TookFlip {} report rt.state.pageFlipCallbackIntake rt'.state.pageFlipCallbackIntake
      else TookNone {} report rt.state.pageFlipCallbackIntake rt'.state.pageFlipCallbackIntake := by
  unfold drainPageFlipCallbackQueue at h
  rw [SyncChannel.take_capacity] at h
  generalize hd : drainReadyWith (observePageFlipCallback rt.primaryOutput)
    rt.pageFlipCallbackQueue.items {} rt.state = drained at h
  obtain ⟨drainReport, state⟩ := drained
  obtain ⟨event, intake', rfl, hcase⟩ := drainReadyWith_spec hd
  cases h
  refine ⟨⟨rfl, rfl, List.drop_of_length_le rt.pageFlipCallbackQueue.bounded⟩, ⟨rfl, rfl⟩, ?_⟩
  rw [flipWaiting]
  split at hcase
  · rename_i hany
    rw [if_pos hany]
    exact ⟨hcase.more, hcase.newest⟩
  · rename_i hany
    rw [if_neg hany]
    exact ⟨hcase.accepted, hcase.lastAccepted, hcase.intake⟩

end LiveBackendRuntimeAssembly

section Retire

variable {state : LiveRenderedOutputState ρ} {submission : ScanoutSubmission ρ}
  {destroy : ResourceDestroyReport ρ} {serial : UInt64}

theorem retire_of_no_submission {callback : LivePageFlipCallbackReport}
    (h : state.scanoutSubmission = none) :
    (state.retireTrackedOutputAfterPageFlip destroy callback).2 = state := by
  simp [LiveRenderedOutputState.retireTrackedOutputAfterPageFlip, h]

theorem retire_of_newer (destroy : ResourceDestroyReport ρ)
    (h : state.scanoutSubmission = some submission)
    (hnew : ∀ baseline ∈ submission.submittedAfterPageFlipSerial, baseline < serial) :
    ∃ status displayed cleanup, (state.retireTrackedOutputAfterPageFlip destroy
        ⟨.accepted, ⟨.presented, some serial⟩⟩).2 =
      (state.takeOutOfFlight displayed cleanup).pushRetireState status ∧
      (state.retainDisplayedSubmission = true → displayed = some submission) := by
  have hwait : submission.waitingForNewerPageFlip ⟨.accepted, ⟨.presented, some serial⟩⟩ = false := by
    simp only [ScanoutSubmission.waitingForNewerPageFlip]
    cases hb : submission.submittedAfterPageFlipSerial with
    | none => rfl
    | some baseline => simpa [UInt64.not_le] using hnew baseline hb
  simp only [LiveRenderedOutputState.retireTrackedOutputAfterPageFlip, h, hwait, Bool.false_eq_true,
    if_false]
  cases hretain : state.retainDisplayedSubmission with
  | false => exact ⟨_, _, _, rfl, fun h => by cases h⟩
  | true =>
    cases state.displayedSubmission with
    | none => exact ⟨_, _, _, rfl, fun _ => rfl⟩
    | some previous => exact ⟨_, _, _, rfl, fun _ => rfl⟩

/-- The state after the engine's part of a tick with a device, which may submit a frame. -/
structure MaySubmit (state state' : LiveRenderedOutputState ρ) : Prop where
  intake : state'.pageFlipCallbackIntake = state.pageFlipCallbackIntake
  retain : state'.retainDisplayedSubmission = state.retainDisplayedSubmission
  displayed : state'.displayedSubmission = state.displayedSubmission
  submission : state'.scanoutSubmission = state.scanoutSubmission ∨
    state.scanoutSubmission = none ∧ ∀ submission ∈ state'.scanoutSubmission,
      submission.submittedAfterPageFlipSerial = state.pageFlipCallbackIntake.lastFrameSerial

/-- Submitting leaves a frame in flight alone, and a new one remembers the last serial. -/
theorem trackSubmit_spec {result : SubmitResult ρ} : MaySubmit state
    (state.trackSubmit state.pageFlipCallbackIntake.lastFrameSerial result).2 := by
  unfold LiveRenderedOutputState.trackSubmit
  split
  · exact ⟨rfl, rfl, rfl, Or.inl rfl⟩
  · rename_i hflight
    have hnone : state.scanoutSubmission = none := by
      simpa [LiveRenderedOutputState.inFlight] using hflight
    split
    · exact ⟨rfl, rfl, rfl, Or.inl rfl⟩
    · refine ⟨rfl, rfl, rfl, Or.inr ⟨hnone, ?_⟩⟩
      intro submission hm
      obtain ⟨resource, -, rfl⟩ := Option.map_eq_some_iff.mp hm
      rfl

theorem submitScanout_spec (state : LiveRenderedOutputState ρ)
    (submit : Option (SubmitResult ρ)) :
    MaySubmit state (state.submitScanout submit).2 := by
  cases submit with
  | none => exact ⟨rfl, rfl, rfl, Or.inl rfl⟩
  | some result => exact trackSubmit_spec

theorem advanceAge_eq :
    state.advanceAgeIfInFlight.drainPendingRuntimeScanoutStates = { state with
      inFlightTicks := state.advanceAgeIfInFlight.inFlightTicks
      pendingRuntimeScanoutStates := [] } := by
  unfold LiveRenderedOutputState.advanceAgeIfInFlight
  split <;> rfl

theorem tickSubmit_spec (submit : Option (SubmitResult ρ)) : MaySubmit state
    (state.advanceAgeIfInFlight.drainPendingRuntimeScanoutStates.submitScanout submit).2 := by
  rw [advanceAge_eq]
  obtain ⟨hintake, hretain, hdisplayed, hsub⟩ := submitScanout_spec { state with
    inFlightTicks := state.advanceAgeIfInFlight.inFlightTicks
    pendingRuntimeScanoutStates := [] } submit
  exact ⟨hintake, hretain, hdisplayed, hsub⟩

theorem retryCleanup_eq {retried : ResourceDestroyReport ρ} :
    state.retryTrackedOutputCleanup retried = { state with
      scanoutCleanup := (state.retryTrackedOutputCleanup retried).scanoutCleanup } := by
  unfold LiveRenderedOutputState.retryTrackedOutputCleanup
  split <;> rfl

end Retire

namespace LiveBackendRuntimeAssembly

variable {rt rt' : LiveBackendRuntimeAssembly ρ} {report : LivePageFlipCallbackQueueReport}

theorem drainWith_spec {destroy : ResourceDestroyReport ρ} {retire : Option TrackedRetireReport}
    (hup : rt.UpToDate) (h : rt.drainPageFlipCallbacksWith destroy = (report, retire, rt')) :
    Drained rt rt' ∧ if rt.flipWaiting then 0 < report.accepted ∧ Landed rt rt'
      else report.accepted = 0 ∧ rt'.lastFrameSerial = rt.lastFrameSerial ∧ SameFrame rt rt' := by
  unfold drainPageFlipCallbacksWith at h
  generalize hd : rt.drainPageFlipCallbackQueue = drained at h
  obtain ⟨drainReport, mid⟩ := drained
  obtain ⟨hdrained, hframe, hcase⟩ := drain_spec hd
  split at hcase
  · rename_i hwaiting
    rw [if_pos hwaiting]
    obtain ⟨serial, hlast, hintake, hnew⟩ := hcase.newest
    have hnewer := lastFrameSerial_ne_of_newer mid.lastFrameSerial hintake hnew
    simp only [hlast] at h
    cases hsub : rt.state.scanoutSubmission with
    | none =>
      rw [← hframe.submission] at hsub
      simp only [Prod.mk.injEq] at h
      obtain ⟨rfl, -, rfl⟩ := h
      rw [retire_of_no_submission hsub]
      refine ⟨hdrained, hcase.more, hnewer, hsub, ?_⟩
      intro _ submission hm
      rw [← hframe.submission, hsub] at hm
      cases hm
    | some submission =>
      have hbase : ∀ baseline ∈ submission.submittedAfterPageFlipSerial, baseline < serial := by
        rw [← hup submission hsub]
        exact hnew
      obtain ⟨status, displayed, cleanup, hretire, hdisplayed⟩ :=
        retire_of_newer destroy (hframe.submission.trans hsub) hbase
      simp only [Prod.mk.injEq] at h
      obtain ⟨rfl, -, rfl⟩ := h
      rw [hretire]
      refine ⟨⟨hdrained.primaryOutput, hdrained.retain, hdrained.queue⟩, hcase.more, hnewer, rfl, ?_⟩
      intro hretain submission' hm
      cases hsub.symm.trans hm
      exact hdisplayed (hdrained.retain.trans hretain)
  · rename_i hwaiting
    rw [if_neg hwaiting]
    have hnone : drainReport.lastAccepted = none := hcase.lastAccepted
    simp only [hnone] at h
    cases h
    exact ⟨hdrained, hcase.accepted, by rw [lastFrameSerial, hcase.intake, lastFrameSerial], hframe⟩

theorem runTick_spec (rt : LiveBackendRuntimeAssembly ρ) (engine : Except String Unit) :
    Drained rt (rt.runTick engine).2 ∧ SameFrame rt (rt.runTick engine).2 ∧
      ((rt.runTick engine).2.lastFrameSerial ≠ rt.lastFrameSerial ↔ rt.flipWaiting = true) := by
  unfold runTick
  generalize hd : rt.drainPageFlipCallbackQueue = drained
  obtain ⟨report, mid⟩ := drained
  obtain ⟨hdrained, hframe, hcase⟩ := drain_spec hd
  simp only [advanceAge_eq]
  refine ⟨⟨hdrained.primaryOutput, hdrained.retain, hdrained.queue⟩,
    ⟨hframe.submission, hframe.displayed⟩, ?_⟩
  split at hcase
  · rename_i hwaiting
    obtain ⟨serial, -, hintake, hnew⟩ := hcase.newest
    exact iff_of_true (lastFrameSerial_ne_of_newer _ hintake hnew) hwaiting
  · rename_i hwaiting
    refine iff_of_false ?_ hwaiting
    rw [not_not]
    exact congrArg (·.lastFrameSerial) hcase.intake

/-- What a tick with a device does to the frame in flight. -/
structure Ticked (rt rt' : LiveBackendRuntimeAssembly ρ) : Prop where
  drained : Drained rt rt'
  upToDate : rt'.UpToDate
  landed : rt.flipWaiting = true → rt'.lastFrameSerial ≠ rt.lastFrameSerial ∧
    (rt.state.retainDisplayedSubmission = true →
      ∀ submission ∈ rt.state.scanoutSubmission, rt'.state.displayedSubmission = some submission)
  waited : rt.flipWaiting = false → rt'.lastFrameSerial = rt.lastFrameSerial ∧
    ∀ submission ∈ rt.state.scanoutSubmission, rt'.state.scanoutSubmission = some submission

/-- A submission after the drain starts from the flips seen so far. -/
theorem ticked_of_maySubmit {mid : LiveBackendRuntimeAssembly ρ} {accepted : ℕ} (hup : rt.UpToDate)
    (hdrained : Drained rt mid)
    (hcase : if rt.flipWaiting then 0 < accepted ∧ Landed rt mid
      else accepted = 0 ∧ mid.lastFrameSerial = rt.lastFrameSerial ∧ SameFrame rt mid)
    {state' : LiveRenderedOutputState ρ} (hmay : MaySubmit mid.state state') :
    Ticked rt { mid with state := state' } ∧ (0 < accepted ↔ rt.flipWaiting = true) := by
  have hlast : ({ mid with state := state' } : LiveBackendRuntimeAssembly ρ).lastFrameSerial =
      mid.lastFrameSerial := congrArg (·.lastFrameSerial) hmay.intake
  have hdrained' : Drained rt { mid with state := state' } :=
    ⟨hdrained.primaryOutput, hmay.retain.trans hdrained.retain, hdrained.queue⟩
  cases hw : rt.flipWaiting with
  | true =>
    rw [hw, if_pos rfl] at hcase
    obtain ⟨hacc, hlanded⟩ := hcase
    refine ⟨⟨hdrained', ?_, ?_, fun h => ?_⟩, iff_of_true hacc rfl⟩
    · intro submission hm
      rcases hmay.submission with hsub | ⟨-, hsub⟩
      · rw [hsub, hlanded.submission] at hm
        cases hm
      · rw [hlast, hsub submission hm, lastFrameSerial]
    · intro _
      refine ⟨by rw [hlast]; exact hlanded.newer, ?_⟩
      intro hretain submission hm
      exact hmay.displayed.trans (hlanded.displayed hretain submission hm)
    · rw [hw] at h
      cases h
  | false =>
    rw [hw, if_neg Bool.false_ne_true] at hcase
    obtain ⟨hacc, hsame, hframe⟩ := hcase
    refine ⟨⟨hdrained', ?_, fun h => ?_, ?_⟩, iff_of_false (by omega) Bool.false_ne_true⟩
    · intro submission hm
      rcases hmay.submission with hsub | ⟨-, hsub⟩
      · rw [hsub, hframe.submission] at hm
        rw [hlast, hsame]
        exact hup submission hm
      · rw [hlast, hsub submission hm, lastFrameSerial]
    · rw [hw] at h
      cases h
    · intro _
      refine ⟨hlast.trans hsame, ?_⟩
      intro submission hm
      rcases hmay.submission with hsub | ⟨hnone, -⟩
      · exact hsub.trans (hframe.submission.trans hm)
      · rw [hframe.submission] at hnone
        cases hnone.symm.trans hm

theorem runTickWithScanout_spec (env : TickEnv ρ) (hup : rt.UpToDate) :
    ∃ report : RuntimeTickReport, (rt.runTickWithScanout env).1 = env.engine.map (fun _ => report) ∧
      (0 < report.pageFlipCallbacks.accepted ↔ rt.flipWaiting = true) ∧
      Ticked rt (rt.runTickWithScanout env).2 := by
  have hup₀ : ({ rt with
      state := rt.state.retryTrackedOutputCleanup env.cleanupRetry }).UpToDate := by
    rw [retryCleanup_eq]
    exact hup
  rcases hd : ({ rt with
    state := rt.state.retryTrackedOutputCleanup env.cleanupRetry }).drainPageFlipCallbacksWith
      env.destroy with ⟨report, retire, mid⟩
  obtain ⟨hdrained, hcase⟩ := drainWith_spec hup₀ hd
  obtain ⟨hticked, hacc⟩ := ticked_of_maySubmit hup₀ hdrained hcase
    (tickSubmit_spec env.submit)
  rw [retryCleanup_eq] at hticked hacc
  simp only [runTickWithScanout, hd]
  obtain ⟨⟨hout, hretain, hqueue⟩, hup', hlanded, hwaited⟩ := hticked
  exact ⟨_, rfl, hacc, ⟨hout, hretain, hqueue⟩, hup', hlanded, hwaited⟩

end LiveBackendRuntimeAssembly

end Sophia.Backend
