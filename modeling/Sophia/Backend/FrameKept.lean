import Sophia.Backend.FrameExport
import Sophia.Backend.PageFlipDelivery

/-! Whether the frame queued last stays with its head until it is on screen. -/
namespace Sophia.Backend

open Protocol

variable {φ β κ ρ : Type}

section Runtime

variable {rt rt' : LiveBackendRuntimeAssembly ρ} {state : LiveRenderedOutputState ρ}

/-- Nothing keeps a submission from being made. -/
def LiveRenderedOutputState.free (state : LiveRenderedOutputState ρ) : Bool :=
  !state.inFlight && !state.cleanupPending

/-- A submission was made: it is in flight and reported as such. -/
structure Submits (state state' : LiveRenderedOutputState ρ) (submit : Option TrackedSubmitReport)
    (resource : ρ) : Prop where
  free : state.free = true
  submission : state'.scanoutSubmission =
    some ⟨resource, state.pageFlipCallbackIntake.lastFrameSerial⟩
  report : ∀ head content, submit.elim head (LiveProductionNativeHead.observeSubmit head content) =
    { head with
      lastSubmitReport := submit
      submissions := head.submissions + 1
      submittedChecksum := some head.lastChecksum
      submittedSequence := some (head.submissions + 1)
      submittedContent := content }

/-- No submission was made. -/
structure SubmitsNone (state state' : LiveRenderedOutputState ρ)
    (submit : Option TrackedSubmitReport) : Prop where
  submission : state'.scanoutSubmission = state.scanoutSubmission
  report : ∀ head content, (submit.elim head
    (LiveProductionNativeHead.observeSubmit head content)).submittedContent = head.submittedContent

theorem submitScanout_submits (h : state.free = true) (resource : ρ) :
    Submits state (state.submitScanout (some (.submitted resource))).2
      (state.submitScanout (some (.submitted resource))).1 resource := by
  have hfree := h
  simp only [LiveRenderedOutputState.free, Bool.and_eq_true, Bool.not_eq_true'] at h
  obtain ⟨hflight, hcleanup⟩ := h
  simp only [LiveRenderedOutputState.submitScanout, LiveRenderedOutputState.trackSubmit, hflight,
    hcleanup, Bool.false_eq_true, if_false]
  exact ⟨hfree, rfl, fun _ _ => rfl⟩

theorem submitScanout_submitsNone {submit : Option (SubmitResult ρ)}
    (h : ∀ resource, submit = some (.submitted resource) → state.free = false) :
    SubmitsNone state (state.submitScanout submit).2 (state.submitScanout submit).1 := by
  cases submit with
  | none => exact ⟨rfl, fun _ _ => rfl⟩
  | some result =>
    simp only [LiveRenderedOutputState.submitScanout, LiveRenderedOutputState.trackSubmit]
    split
    · exact ⟨rfl, fun _ _ => rfl⟩
    · rename_i hflight
      split
      · exact ⟨rfl, fun _ _ => rfl⟩
      · rename_i hcleanup
        have hfree : state.free = true := by
          simp only [LiveRenderedOutputState.free, hflight, hcleanup, Bool.not_false, Bool.and_self]
        have hnone : state.scanoutSubmission = none := by
          simpa [LiveRenderedOutputState.inFlight] using hflight
        cases result with
        | submitted resource => exact absurd (h resource rfl) (by simp [hfree])
        | scanoutTargetNotReady => exact ⟨hnone.symm, fun _ _ => rfl⟩
        | frameTargetUnavailable => exact ⟨hnone.symm, fun _ _ => rfl⟩
        | scanoutExportFailed => exact ⟨hnone.symm, fun _ _ => rfl⟩
        | primaryPlaneSubmitFailed cleanup => exact ⟨hnone.symm, fun _ _ => rfl⟩

theorem advanceAge_free (state : LiveRenderedOutputState ρ) :
    state.advanceAgeIfInFlight.drainPendingRuntimeScanoutStates.free = state.free := by
  rw [advanceAge_eq]
  rfl

/-- How a tick of the head ends that returns Ok, told from the state its submission finds. -/
structure Told (out out' : NativeOutput ρ) (env : TickEnv ρ) (mid : LiveRenderedOutputState ρ) :
    Prop where
  sound : out'.Sound
  displayed : out'.runtime.state.displayedSubmission = mid.displayedSubmission
  pending : out'.head.pendingContent =
    if env.exporterPending then out.head.pendingContent else none
  presented : out'.head.presentedContent =
    if out.runtime.flipWaiting then out.head.submittedContent else out.head.presentedContent
  submits : ∀ resource, env.submit = some (.submitted resource) → mid.free = true →
    out'.head.submittedContent = out.head.pendingContent ∧
    ∃ serial, out'.runtime.state.scanoutSubmission = some ⟨resource, serial⟩
  submitsNone : (∀ resource, env.submit = some (.submitted resource) → mid.free = false) →
    out'.runtime.state.scanoutSubmission = mid.scanoutSubmission ∧
    out'.head.submittedContent =
      if out.runtime.flipWaiting then none else out.head.submittedContent

theorem observeRetire_contents (head : LiveProductionNativeHead)
    (retire : Option TrackedRetireReport) :
    (retire.elim head head.observeRetire).pendingContent = head.pendingContent ∧
    (retire.elim head head.observeRetire).submittedContent = head.submittedContent ∧
    (retire.elim head head.observeRetire).presentedContent = head.presentedContent := by
  cases retire with
  | none => exact ⟨rfl, rfl, rfl⟩
  | some retire =>
    simp only [Option.elim, LiveProductionNativeHead.observeRetire]
    split <;> exact ⟨rfl, rfl, rfl⟩

theorem observeCallbacks_contents (head : LiveProductionNativeHead)
    {report : LivePageFlipCallbackQueueReport} {flipped : Bool}
    (h : 0 < report.accepted ↔ flipped = true) :
    (head.observeCallbacks report).pendingContent = head.pendingContent ∧
    (head.observeCallbacks report).submittedContent =
      (if flipped then none else head.submittedContent) ∧
    (head.observeCallbacks report).presentedContent =
      (if flipped then head.submittedContent else head.presentedContent) := by
  unfold LiveProductionNativeHead.observeCallbacks
  cases flipped with
  | true =>
    rw [if_pos (h.mpr rfl)]
    exact ⟨rfl, rfl, rfl⟩
  | false =>
    rw [if_neg (fun hpos => Bool.false_ne_true (h.mp hpos))]
    exact ⟨rfl, rfl, rfl⟩

theorem observeSubmit_contents (head : LiveProductionNativeHead)
    (content : Option LiveProductionScanoutContent) (submit : Option TrackedSubmitReport) :
    (submit.elim head (head.observeSubmit content)).pendingContent = head.pendingContent ∧
    (submit.elim head (head.observeSubmit content)).presentedContent = head.presentedContent := by
  cases submit with
  | none => exact ⟨rfl, rfl⟩
  | some submit =>
    simp only [Option.elim, LiveProductionNativeHead.observeSubmit]
    split <;> exact ⟨rfl, rfl⟩

theorem nativeTick_told {out : NativeOutput ρ} {env : TickEnv ρ} (hs : out.Sound)
    (hok : (out.nativeTick env).1 = .ok ()) :
    Told out (out.nativeTick env).2 env (out.runtime.retired env.cleanupRetry env.destroy) := by
  obtain ⟨report, hresult, hacc, -⟩ := LiveBackendRuntimeAssembly.runTickWithScanout_spec env
    hs.upToDate
  have hengine : env.engine = .ok () := by
    cases he : env.engine with
    | ok _ => rfl
    | error e =>
      rw [he] at hresult
      unfold NativeOutput.nativeTick at hok
      split at hok
      · cases hok
      · rename_i h
        rw [h] at hresult
        cases hresult
  have hsound := nativeTick_sound env hs
  unfold LiveBackendRuntimeAssembly.retired
  generalize hd : LiveBackendRuntimeAssembly.drainPageFlipCallbacksWith { out.runtime with
    state := out.runtime.state.retryTrackedOutputCleanup env.cleanupRetry } env.destroy = drained
  obtain ⟨callbacks, retire, rt⟩ := drained
  have hrun : out.runtime.runTickWithScanout env = (.ok ⟨callbacks,
      (rt.state.advanceAgeIfInFlight.drainPendingRuntimeScanoutStates.submitScanout env.submit).1,
      retire, (rt.state.advanceAgeIfInFlight.drainPendingRuntimeScanoutStates.submitScanout
        env.submit).2.inFlightTicks⟩, { rt with state :=
      (rt.state.advanceAgeIfInFlight.drainPendingRuntimeScanoutStates.submitScanout env.submit).2 })
      := by
    simp only [LiveBackendRuntimeAssembly.runTickWithScanout, hd, hengine]
    rfl
  rw [hengine, hrun] at hresult
  cases hresult
  have hmay : MaySubmit rt.state _ := tickSubmit_spec env.submit
  have hfree := advanceAge_free rt.state
  have hsame : rt.state.advanceAgeIfInFlight.drainPendingRuntimeScanoutStates.scanoutSubmission =
      rt.state.scanoutSubmission := by rw [advanceAge_eq]
  simp only [NativeOutput.nativeTick, hrun] at hsound ⊢
  generalize hhead : (if env.exporterPending = true then out.head
    else { out.head with pendingContent := none }) = head at hsound ⊢
  have hcontents : head.submittedContent = out.head.submittedContent ∧
      head.presentedContent = out.head.presentedContent ∧ head.pendingContent =
        if env.exporterPending then out.head.pendingContent else none := by
    rw [← hhead]
    split <;> exact ⟨rfl, rfl, rfl⟩
  obtain ⟨hsubmitted, hpresented, hpending⟩ := hcontents
  obtain ⟨hrp, hrs, hrd⟩ := observeRetire_contents head retire
  obtain ⟨hcp, hcs, hcd⟩ := observeCallbacks_contents (retire.elim head head.observeRetire) hacc
  generalize (retire.elim head head.observeRetire).observeCallbacks callbacks = seen at *
  refine ⟨hsound, hmay.displayed, ?_, ?_, ?_, ?_⟩
  · rw [(observeSubmit_contents seen _ _).1, hcp, hrp, hpending]
  · rw [(observeSubmit_contents seen _ _).2, hcd, hrs, hrd, hsubmitted, hpresented]
  · intro resource hresource hmid
    have hsubmits := submitScanout_submits (hfree.trans hmid) resource
    rw [hresource, hsubmits.report]
    exact ⟨rfl, _, hsubmits.submission⟩
  · intro hnone
    have hsubmits := submitScanout_submitsNone fun resource hresource =>
      hfree.trans (hnone resource hresource)
    refine ⟨hsubmits.submission.trans hsame, ?_⟩
    rw [hsubmits.report, hcs, hrs, hsubmitted]

/-- Where the frames are after a drain, if a flip can only have been for a frame in flight. -/
theorem drainWith_frames {destroy : ResourceDestroyReport ρ}
    {report : LivePageFlipCallbackQueueReport} {retire : Option TrackedRetireReport}
    (hup : rt.UpToDate) (hretain : rt.state.retainDisplayedSubmission = true)
    (hflips : rt.flipWaiting = true → rt.inFlight = true)
    (h : rt.drainPageFlipCallbacksWith destroy = (report, retire, rt')) :
    (0 < report.accepted ↔ rt.flipWaiting = true) ∧
    rt'.state.scanoutSubmission =
      (if rt.flipWaiting then none else rt.state.scanoutSubmission) ∧
    rt'.state.displayedSubmission =
      if rt.flipWaiting then rt.state.scanoutSubmission else rt.state.displayedSubmission := by
  obtain ⟨-, hcase⟩ := LiveBackendRuntimeAssembly.drainWith_spec hup h
  cases hw : rt.flipWaiting with
  | true =>
    rw [hw, if_pos rfl] at hcase
    obtain ⟨haccepted, hlanded⟩ := hcase
    obtain ⟨submission, hsubmission⟩ := Option.isSome_iff_exists.mp (hflips hw)
    refine ⟨iff_of_true haccepted rfl, hlanded.submission, ?_⟩
    rw [if_pos rfl, hsubmission]
    exact hlanded.displayed hretain submission hsubmission
  | false =>
    rw [hw, if_neg Bool.false_ne_true] at hcase
    obtain ⟨haccepted, -, hsame⟩ := hcase
    exact ⟨iff_of_false (by omega) Bool.false_ne_true, hsame.submission, hsame.displayed⟩

theorem retired_frames {out : NativeOutput ρ} (cleanupRetry destroy : ResourceDestroyReport ρ)
    (hs : out.Sound) (hflips : out.runtime.flipWaiting = true → out.runtime.inFlight = true) :
    (out.runtime.retired cleanupRetry destroy).scanoutSubmission =
      (if out.runtime.flipWaiting then none else out.runtime.state.scanoutSubmission) ∧
    (out.runtime.retired cleanupRetry destroy).displayedSubmission =
      if out.runtime.flipWaiting then out.runtime.state.scanoutSubmission
      else out.runtime.state.displayedSubmission := by
  have hup : LiveBackendRuntimeAssembly.UpToDate { out.runtime with
      state := out.runtime.state.retryTrackedOutputCleanup cleanupRetry } := by
    rw [retryCleanup_eq]
    exact hs.upToDate
  unfold LiveBackendRuntimeAssembly.retired
  rw [retryCleanup_eq] at hup ⊢
  generalize hd : LiveBackendRuntimeAssembly.drainPageFlipCallbacksWith _ destroy = drained
  obtain ⟨report, retire, rt⟩ := drained
  have hframes := drainWith_frames hup hs.retain hflips hd
  exact hframes.2

end Runtime

section Exporter

variable {exporter : NativeGbmRenderedScanoutBufferDiscoveryExporter φ}

namespace NativeGbmRenderedScanoutBufferDiscoveryExporter

@[simp] theorem openContext_pendingFrame (env : ExportEnv β) :
    (exporter.openContext env).pendingFrame = exporter.pendingFrame := by
  unfold openContext
  split <;> rfl

@[simp] theorem openContext_context (env : ExportEnv β) :
    (exporter.openContext env).context = (exporter.context || env.context) := by
  unfold openContext
  split
  · rename_i h
    simp [h]
  · rename_i h
    simp [h]

theorem missing_ne_exported : (LiveRenderedScanoutBufferExport.new exporter.missingContextStatus
    (none : Option β)).status ≠ .exported := by
  unfold missingContextStatus
  cases exporter.contextStatus with
  | none => simp [LiveRenderedScanoutBufferExport.new]
  | some status => cases status <;> simp [LiveRenderedScanoutBufferExport.new]

/-- The renderer is asked for a buffer; short of that the pending frame stays. -/
theorem export_cases (exporter : NativeGbmRenderedScanoutBufferDiscoveryExporter φ)
    (target : LiveGbmEglFrameTargetRecord) (env : ExportEnv β) :
    if target.isValidScanoutTarget && (exporter.context || env.context) then
      (exporter.exportRenderedScanoutBuffer target env).1 =
        .new env.status (env.buffer.map (⟨·, exporter.pendingFrame⟩)) ∧
      (exporter.exportRenderedScanoutBuffer target env).2.pendingFrame = none
    else
      (exporter.exportRenderedScanoutBuffer target env).1.status ≠ .exported ∧
      (exporter.exportRenderedScanoutBuffer target env).2.pendingFrame =
        exporter.pendingFrame := by
  unfold exportRenderedScanoutBuffer
  cases hv : target.isValidScanoutTarget with
  | false =>
    refine ⟨?_, rfl⟩
    intro hstatus
    cases hstatus
  | true =>
    cases hc : (exporter.context || env.context) with
    | true => simp [hc]
    | false => simp [hc, missing_ne_exported]

end NativeGbmRenderedScanoutBufferDiscoveryExporter

/-- The output can take a frame of the target's size. -/
def SubmitEnv.targetReady (env : SubmitEnv β κ) : Bool :=
  env.scanoutTarget = .ready && env.target.any fun target =>
    reducedScanoutTargetStatus env.scanoutTarget target env.selected = .ready

/-- The renderer hands out a buffer and the commit of it is accepted. -/
def SubmitEnv.accepted (env : SubmitEnv β κ) : Bool :=
  env.renderer.status = .exported && env.renderer.buffer.isSome && env.commit.isOk

/-- The submission gets as far as the renderer. -/
def NativeGbmRenderedScanoutBufferDiscoveryExporter.renders
    (exporter : NativeGbmRenderedScanoutBufferDiscoveryExporter φ) (env : SubmitEnv β κ) : Bool :=
  env.targetReady && (exporter.context || env.renderer.context)

theorem isValid_of_reduced {currentStatus : LiveKmsScanoutTargetStatus}
    {target : LiveGbmEglFrameTargetRecord} {selected : Option Size}
    (h : reducedScanoutTargetStatus currentStatus target selected = .ready) :
    target.isValidScanoutTarget = true := by
  unfold reducedScanoutTargetStatus at h
  split at h
  · rename_i hcurrent
    exact absurd h hcurrent
  · split at h
    · cases h
    · rename_i hvalid
      simpa using hvalid

/-- What became of the pending frame: it is in the buffer submitted, it is gone with nothing
submitted, or it is still pending. -/
theorem submit_cases (exporter : NativeGbmRenderedScanoutBufferDiscoveryExporter φ)
    (env : SubmitEnv β κ) :
    if exporter.renders env then
      (submitRenderedPrimaryPlaneScanout exporter env).2.pendingFrame = none ∧
      if env.accepted then ∃ owner plane, (submitRenderedPrimaryPlaneScanout exporter env).1 =
        .submitted ⟨⟨owner, exporter.pendingFrame⟩, plane⟩
      else ∀ resource, (submitRenderedPrimaryPlaneScanout exporter env).1 ≠ .submitted resource
    else
      (submitRenderedPrimaryPlaneScanout exporter env).2.pendingFrame = exporter.pendingFrame ∧
      ∀ resource, (submitRenderedPrimaryPlaneScanout exporter env).1 ≠ .submitted resource := by
  obtain ⟨scanoutTarget, target, selected, ⟨opened, context, status, buffer⟩, commit⟩ := env
  simp only [submitRenderedPrimaryPlaneScanout, SubmitEnv.accepted, SubmitEnv.targetReady,
    NativeGbmRenderedScanoutBufferDiscoveryExporter.renders]
  by_cases hready : scanoutTarget = .ready
  swap
  · simp [hready]
  subst hready
  cases target with
  | none => simp
  | some target =>
    by_cases hreduced : reducedScanoutTargetStatus .ready target selected = .ready
    swap
    · simp [hreduced]
    have hexport := NativeGbmRenderedScanoutBufferDiscoveryExporter.export_cases exporter target
      ⟨opened, context, status, buffer⟩
    simp only [Option.any_some, hreduced, isValid_of_reduced hreduced] at hexport ⊢
    generalize exporter.exportRenderedScanoutBuffer target _ = exported at hexport ⊢
    obtain ⟨exported, exporter'⟩ := exported
    cases hc : (exporter.context || context) with
    | false =>
      simp only [hc] at hexport ⊢
      obtain ⟨hstatus, hpending⟩ := hexport
      obtain ⟨status, owner⟩ := exported
      cases status with
      | exported => exact absurd rfl hstatus
      | invalidTarget => exact ⟨hpending, fun _ h => nomatch h⟩
      | unavailable => exact ⟨hpending, fun _ h => nomatch h⟩
      | degraded => exact ⟨hpending, fun _ h => nomatch h⟩
    | true =>
      simp only [hc] at hexport ⊢
      obtain ⟨rfl, hpending⟩ := hexport
      cases status with
      | exported =>
        cases buffer with
        | none => exact ⟨hpending, fun _ h => nomatch h⟩
        | some owner =>
          cases commit with
          | error cleanup => exact ⟨hpending, fun _ h => nomatch h⟩
          | ok plane => exact ⟨hpending, owner, plane, rfl⟩
      | invalidTarget => exact ⟨hpending, fun _ h => nomatch h⟩
      | unavailable => exact ⟨hpending, fun _ h => nomatch h⟩
      | degraded => exact ⟨hpending, fun _ h => nomatch h⟩

end Exporter

/-- The frame in the buffer of a submission. -/
def renderedIn (submission : Option (ScanoutSubmission (ScanoutFrame φ β κ))) :
    Option (PendingRenderedFrame φ) :=
  submission.bind (·.resource.buffer.rendered)

namespace ProductionHead

variable (head : ProductionHead φ β κ)

def inFlightFrame : Option (PendingRenderedFrame φ) :=
  renderedIn head.out.runtime.state.scanoutSubmission

def displayedFrame : Option (PendingRenderedFrame φ) :=
  renderedIn head.out.runtime.state.displayedSubmission

/-- The frame waits to be rendered, is in flight or is on screen. -/
def Holds (frame : PendingRenderedFrame φ) : Prop :=
  head.exporter.pendingFrame = some frame ∨ head.inFlightFrame = some frame ∨
    head.displayedFrame = some frame

/-- The head's names are those of the frames in its buffers, in flight and on screen. -/
structure Traced : Prop where
  submitted : head.out.head.submittedContent = head.inFlightFrame.bind (·.content)
  presented : head.out.head.presentedContent = head.displayedFrame.bind (·.content)

/-- The last frame to have come in: the one that waits, else the one in flight, else the one on
screen. -/
def newest : Option (PendingRenderedFrame φ) :=
  match head.exporter.pendingFrame, head.out.runtime.state.scanoutSubmission with
  | some frame, _ => some frame
  | none, some submission => submission.resource.buffer.rendered
  | none, none => head.displayedFrame

/-- The page flips that have arrived are those of a frame in flight. -/
def FlipsInFlight : Prop :=
  head.out.runtime.flipWaiting = true → head.out.runtime.inFlight = true

/-- A CPU frame the tick takes from the exporter gets into a buffer and into flight, and one that
is on screen is not replaced by the renderer's own pattern. -/
def KeepsFrame (latest : Option (PendingRenderedFrame φ)) (env : HeadTickEnv φ β κ) : Prop :=
  head.asksExporter env = true → head.exporter.renders env.submit = true →
    (head.exporter.pendingCpuFrame = true → env.submit.accepted = true) ∧
    (head.exporter.pendingFrame.isNone = true → latest.any (·.isCpu) = true →
      env.submit.accepted = false)

structure Inv : Prop where
  sound : head.out.Sound
  pending : head.out.head.pendingContent = head.exporter.pendingFrame.bind (·.content)
  traced : head.Traced

variable {head} {head' : ProductionHead φ β κ}

theorem holds_of_newest {frame : PendingRenderedFrame φ} (h : head.newest = some frame) :
    head.Holds frame := by
  unfold newest at h
  split at h
  · rename_i hpending
    exact Or.inl (hpending.trans h)
  · rename_i hsubmission
    refine Or.inr (Or.inl ?_)
    rw [inFlightFrame, hsubmission]
    exact h
  · exact Or.inr (Or.inr h)

/-- The frames are where they were. -/
structure SameFrames (head head' : ProductionHead φ β κ) : Prop where
  pending : head'.exporter.pendingFrame = head.exporter.pendingFrame
  submission : head'.out.runtime.state.scanoutSubmission =
    head.out.runtime.state.scanoutSubmission
  displayed : head'.out.runtime.state.displayedSubmission =
    head.out.runtime.state.displayedSubmission
  head : head'.out.head = head.out.head

theorem SameFrames.newest (h : SameFrames head head') : head'.newest = head.newest := by
  unfold ProductionHead.newest displayedFrame
  rw [h.pending, h.submission, h.displayed]

theorem SameFrames.inv (h : SameFrames head head') (hs : head'.out.Sound) (hi : head.Inv) :
    head'.Inv := by
  refine ⟨hs, ?_, ?_, ?_⟩
  · rw [h.head, h.pending]
    exact hi.pending
  · rw [h.head, inFlightFrame, h.submission]
    exact hi.traced.submitted
  · rw [h.head, displayedFrame, h.displayed]
    exact hi.traced.presented

theorem poll_received (head : ProductionHead φ β κ) (arrived : List LivePageFlipCallback) :
    Received head.out (head.pollGroupCallbacks arrived).2.out := by
  unfold pollGroupCallbacks
  refine Run.tryEach_invariant _ (Received head.out) (fun mid callback mid' h hr => ?_) arrived
    .refl
  split at h
  · cases h
  · rename_i hsent
    cases h
    exact hr.trans (received_trySend hsent)

theorem poll_sameFrames (head : ProductionHead φ β κ) (arrived : List LivePageFlipCallback) :
    SameFrames head (head.pollGroupCallbacks arrived).2 := by
  have hr := poll_received head arrived
  exact ⟨rfl, by rw [hr.state], by rw [hr.state], hr.head⟩

theorem poll_inv (arrived : List LivePageFlipCallback) (hi : head.Inv) :
    (head.pollGroupCallbacks arrived).2.Inv :=
  (poll_sameFrames head arrived).inv ((poll_received head arrived).quiet.sound hi.sound) hi

/-- A flip takes the frame in flight to the screen, and the head's names with it. -/
structure Flips (head head' : ProductionHead φ β κ) : Prop where
  submission : head'.out.runtime.state.scanoutSubmission =
    if head.out.runtime.flipWaiting then none else head.out.runtime.state.scanoutSubmission
  displayed : head'.out.runtime.state.displayedSubmission =
    if head.out.runtime.flipWaiting then head.out.runtime.state.scanoutSubmission
    else head.out.runtime.state.displayedSubmission
  submitted : head'.out.head.submittedContent =
    if head.out.runtime.flipWaiting then none else head.out.head.submittedContent
  presented : head'.out.head.presentedContent =
    if head.out.runtime.flipWaiting then head.out.head.submittedContent
    else head.out.head.presentedContent

theorem Flips.traced (h : Flips head head') (ht : head.Traced) : head'.Traced := by
  constructor
  · rw [h.submitted, inFlightFrame, h.submission]
    split
    · rfl
    · exact ht.submitted
  · rw [h.presented, displayedFrame, h.displayed]
    split
    · exact ht.submitted
    · exact ht.presented

theorem Flips.newest (h : Flips head head') (hflips : head.FlipsInFlight)
    (hpending : head'.exporter.pendingFrame = head.exporter.pendingFrame) :
    head'.newest = head.newest := by
  unfold ProductionHead.newest
  rw [hpending, h.submission, displayedFrame, h.displayed]
  cases hw : head.out.runtime.flipWaiting with
  | false => rfl
  | true =>
    obtain ⟨submission, hsubmission⟩ := Option.isSome_iff_exists.mp (hflips hw)
    rw [hsubmission]
    cases head.exporter.pendingFrame with
    | some frame => rfl
    | none => rfl

theorem retireReady_flips (destroy : ResourceDestroyReport (ScanoutFrame φ β κ)) (hi : head.Inv)
    (hflips : head.FlipsInFlight) :
    Flips head { head with out := head.out.retireReady destroy } := by
  rcases hd : head.out.runtime.drainPageFlipCallbacksWith destroy with ⟨report, retire, runtime⟩
  obtain ⟨hacc, hsubmission, hdisplayed⟩ :=
    drainWith_frames hi.sound.upToDate hi.sound.retain hflips hd
  obtain ⟨-, hcs, hcd⟩ := observeCallbacks_contents head.out.head hacc
  obtain ⟨-, hrs, hrd⟩ := observeRetire_contents (head.out.head.observeCallbacks report) retire
  simp only [NativeOutput.retireReady, hd]
  exact ⟨hsubmission, hdisplayed, hrs.trans hcs, hrd.trans hcd⟩

theorem retireReady_pending {destroy : ResourceDestroyReport ρ} (out : NativeOutput ρ) :
    (out.retireReady destroy).head.pendingContent = out.head.pendingContent := by
  rcases hd : out.runtime.drainPageFlipCallbacksWith destroy with ⟨report, retire, runtime⟩
  simp only [NativeOutput.retireReady, hd]
  rw [(observeRetire_contents _ retire).1]
  unfold LiveProductionNativeHead.observeCallbacks
  split <;> rfl

theorem retireReady_inv {destroy : ResourceDestroyReport (ScanoutFrame φ β κ)} (hi : head.Inv)
    (hflips : head.FlipsInFlight) :
    Inv { head with out := head.out.retireReady destroy } ∧
    newest { head with out := head.out.retireReady destroy } = head.newest := by
  have hmoved := retireReady_flips destroy hi hflips
  refine ⟨⟨retireReady_sound destroy hi.sound, ?_, hmoved.traced hi.traced⟩,
    hmoved.newest hflips rfl⟩
  exact (retireReady_pending head.out).trans hi.pending

/-- The tick submits a buffer. -/
def submitsBuffer (head : ProductionHead φ β κ) (env : HeadTickEnv φ β κ) : Bool :=
  head.asksExporter env && head.exporter.renders env.submit && env.submit.accepted

theorem submitResult_cases (head : ProductionHead φ β κ) (env : HeadTickEnv φ β κ) :
    (head.submitResult env).2.pendingFrame =
      (if head.asksExporter env && head.exporter.renders env.submit then none
      else head.exporter.pendingFrame) ∧
    if head.submitsBuffer env then ∃ owner plane, (head.submitResult env).1 =
      .submitted ⟨⟨owner, head.exporter.pendingFrame⟩, plane⟩
    else ∀ resource, (head.submitResult env).1 ≠ .submitted resource := by
  have hcases := submit_cases head.exporter env.submit
  unfold submitResult submitsBuffer
  cases head.asksExporter env with
  | false => exact ⟨rfl, fun _ h => nomatch h⟩
  | true =>
    cases hr : head.exporter.renders env.submit with
    | false => simpa [hr] using hcases
    | true => simpa [hr] using hcases

/-- The head's name for the pending frame after a submission that may have taken it. -/
theorem pending_taken {exporter : NativeGbmRenderedScanoutBufferDiscoveryExporter φ} {taken : Bool}
    (hi : head.Inv) (h : exporter.pendingFrame =
      if taken then none else head.exporter.pendingFrame) :
    (if exporter.pendingFrame.isSome then head.out.head.pendingContent else none) =
      exporter.pendingFrame.bind (·.content) := by
  rw [h, hi.pending]
  cases taken with
  | true => rfl
  | false =>
    cases head.exporter.pendingFrame with
    | none => rfl
    | some frame => rfl

/-- What a tick that returns Ok does with the frames: it submits the pending one, or only retires
what has flipped. -/
theorem nativeTick_cases {env : HeadTickEnv φ β κ} (hi : head.Inv) (hflips : head.FlipsInFlight)
    (hok : (head.nativeTick env).1 = .ok ()) :
    (head.nativeTick env).2.Inv ∧
    (head.nativeTick env).2.exporter.pendingFrame =
      (if head.asksExporter env && head.exporter.renders env.submit then none
      else head.exporter.pendingFrame) ∧
    if head.submitsBuffer env then
      ∃ submission, (head.nativeTick env).2.out.runtime.state.scanoutSubmission =
        some submission ∧ submission.resource.buffer.rendered = head.exporter.pendingFrame
    else Flips head (head.nativeTick env).2 := by
  obtain ⟨hpending, hsubmit⟩ := submitResult_cases head env
  obtain ⟨hsubmission, hdisplayed⟩ := retired_frames env.cleanupRetry env.destroy hi.sound hflips
  have hfree : (env.submits && (head.out.runtime.retired env.cleanupRetry env.destroy).free) =
      head.asksExporter env := by
    rw [asksExporter, LiveRenderedOutputState.free, Bool.and_assoc]
  unfold nativeTick at hok ⊢
  generalize head.submitResult env = answer at *
  obtain ⟨submit, exporter⟩ := answer
  have htold := nativeTick_told hi.sound hok
  have hcontent := htold.pending.trans (pending_taken hi hpending)
  cases hb : head.submitsBuffer env with
  | false =>
    rw [hb] at hsubmit
    have hnone := htold.submitsNone fun resource hresource => by
      rcases hs : env.submits with _ | _
      · simp [hs] at hresource
      · exact absurd (by simpa [hs] using hresource) (hsubmit resource)
    have hmoved : Flips head ⟨exporter, _⟩ := ⟨hnone.1.trans hsubmission,
      htold.displayed.trans hdisplayed, hnone.2, htold.presented⟩
    exact ⟨⟨htold.sound, hcontent, hmoved.traced hi.traced⟩, hpending, hmoved⟩
  | true =>
    rw [hb] at hsubmit
    obtain ⟨owner, plane, rfl⟩ := hsubmit
    simp only [submitsBuffer, Bool.and_eq_true] at hb
    rw [hb.1.1, Bool.and_eq_true] at hfree
    obtain ⟨hcontents, serial, hflight⟩ := htold.submits _ (if_pos hfree.1) hfree.2
    refine ⟨⟨htold.sound, hcontent, ⟨?_, ?_⟩⟩, hpending, _, hflight, rfl⟩
    · rw [inFlightFrame, hflight]
      exact hcontents.trans hi.pending
    · rw [htold.presented, displayedFrame, htold.displayed, hdisplayed]
      split
      · exact hi.traced.submitted
      · exact hi.traced.presented

theorem newest_of_pending {frame : PendingRenderedFrame φ}
    (h : head.exporter.pendingFrame = some frame) : head.newest = some frame := by
  unfold newest
  rw [h]

theorem nativeTick_newest {env : HeadTickEnv φ β κ} {frame : φ} {checksum : UInt64}
    (hi : head.Inv) (hflips : head.FlipsInFlight) (hok : (head.nativeTick env).1 = .ok ())
    (hkeeps : head.KeepsFrame (some (.cpu frame checksum)) env)
    (hnewest : head.newest = some (.cpu frame checksum)) :
    (head.nativeTick env).2.newest = some (.cpu frame checksum) := by
  obtain ⟨-, hpending, hcase⟩ := nativeTick_cases hi hflips hok
  cases hr : (head.asksExporter env && head.exporter.renders env.submit) with
  | false =>
    rw [submitsBuffer, hr] at hcase
    rw [hr] at hpending
    exact (Flips.newest hcase hflips hpending).trans hnewest
  | true =>
    have hasks := hr
    rw [Bool.and_eq_true] at hasks
    have hkeeps := hkeeps hasks.1 hasks.2
    rw [hr] at hpending
    rw [submitsBuffer, hr, Bool.true_and] at hcase
    cases hp : head.exporter.pendingFrame with
    | none =>
      rw [hp] at hpending
      rw [hkeeps.2 (by rw [hp]; rfl) rfl] at hcase
      exact (Flips.newest hcase hflips (hpending.trans hp.symm)).trans hnewest
    | some pending =>
      rw [newest_of_pending hp] at hnewest
      cases hnewest
      have hcpu : head.exporter.pendingCpuFrame = true := by
        rw [NativeGbmRenderedScanoutBufferDiscoveryExporter.pendingCpuFrame, hp]
        rfl
      rw [hkeeps.1 hcpu] at hcase
      obtain ⟨submission, hflight, hrendered⟩ := hcase
      unfold newest
      rw [hpending, hflight]
      exact hrendered.trans hp

/-- The buffer of the initial modeset has the frame in it that was pending. -/
theorem exportInitialModeset_eq_some (exporter : NativeGbmRenderedScanoutBufferDiscoveryExporter φ)
    (selected : Size) (renderer : ExportEnv β) (buffer : RenderedBuffer φ β)
    (h : (exporter.exportInitialModeset selected renderer).1 = some buffer) :
    buffer.rendered = exporter.pendingFrame ∧
      (exporter.exportInitialModeset selected renderer).2.pendingFrame = none := by
  unfold NativeGbmRenderedScanoutBufferDiscoveryExporter.exportInitialModeset at h ⊢
  have hcases := exporter.export_cases (.new selected) renderer
  generalize exporter.exportRenderedScanoutBuffer _ renderer = answer at h hcases ⊢
  obtain ⟨exported, exporter'⟩ := answer
  split at h
  · cases h
  · rename_i hready
    rw [if_neg hready]
    split at hcases
    · obtain ⟨rfl, hpending⟩ := hcases
      refine ⟨?_, hpending⟩
      obtain ⟨owner, howner, rfl⟩ : ∃ owner, renderer.buffer = some owner ∧
          buffer = ⟨owner, exporter.pendingFrame⟩ := by
        cases hs : renderer.status <;> cases hb : renderer.buffer <;>
          simp_all [LiveRenderedScanoutBufferExport.new]
      rfl
    · dsimp only at h
      rw [if_neg hcases.1] at h
      cases h

theorem initializeNative_ok {out : NativeOutput ρ} {checksum : UInt64} {modeset : Option ρ}
    (hok : (out.initializeNative checksum modeset).1 = .ok ()) :
    out.runtime.state.scanoutSubmission = none ∧ ∃ resource, modeset = some resource ∧
      (out.initializeNative checksum modeset).2 = ⟨{ out.head.queueFrame checksum with
          submissions := out.head.submissions + 1
          presentedChecksum := checksum
          presentedSubmissions := out.head.submissions + 1
          presentedContent := some (.cpu checksum)
          pendingContent := none },
        { out.runtime with state :=
          { out.runtime.state with displayedSubmission := some ⟨resource, none⟩ } }⟩ := by
  unfold NativeOutput.initializeNative at hok ⊢
  cases hb : modeset.bind out.runtime.state.adoptPresented with
  | none =>
    rw [hb] at hok
    cases hok
  | some state =>
    obtain ⟨resource, hmodeset, hadopt⟩ := Option.bind_eq_some_iff.mp hb
    unfold LiveRenderedOutputState.adoptPresented at hadopt
    split at hadopt
    · cases hadopt
    · rename_i hfree
      cases hadopt
      simp only [Bool.or_eq_true, not_or, LiveRenderedOutputState.inFlight,
        Bool.not_eq_true, Option.isSome_eq_false_iff, Option.isNone_iff_eq_none] at hfree
      exact ⟨hfree.1.2, resource, hmodeset, rfl⟩

theorem initializeNative_inv {frame : φ} {checksum : UInt64} {selected : Size}
    {renderer : ExportEnv β} {commit : Option κ} (hi : head.Inv)
    (hok : (head.initializeNative frame checksum selected renderer commit).1 = .ok ()) :
    (head.initializeNative frame checksum selected renderer commit).2.Inv ∧
    (head.initializeNative frame checksum selected renderer commit).2.newest =
      some (.cpu frame checksum) := by
  have hexport := exportInitialModeset_eq_some (head.queueFrame frame checksum).exporter selected
    renderer
  have hcall : head.initializeNative frame checksum selected renderer commit =
      (((head.queueFrame frame checksum).out.initializeNative checksum (modesetFrame
        ((head.queueFrame frame checksum).exporter.exportInitialModeset selected renderer).1
          commit)).1,
      ⟨((head.queueFrame frame checksum).exporter.exportInitialModeset selected renderer).2,
        ((head.queueFrame frame checksum).out.initializeNative checksum (modesetFrame
          ((head.queueFrame frame checksum).exporter.exportInitialModeset selected renderer).1
            commit)).2⟩) := rfl
  rw [hcall] at hok ⊢
  generalize (head.queueFrame frame checksum).exporter.exportInitialModeset selected renderer =
    answer at hok hexport ⊢
  obtain ⟨buffer, exporter⟩ := answer
  obtain ⟨hidle, resource, hmodeset, hout⟩ := initializeNative_ok hok
  obtain ⟨buffer, rfl, hcommit⟩ := Option.bind_eq_some_iff.mp hmodeset
  obtain ⟨plane, -, rfl⟩ := Option.map_eq_some_iff.mp hcommit
  obtain ⟨hrendered, hpending⟩ := hexport buffer rfl
  rw [hout]
  refine ⟨⟨⟨hi.sound.retain, hi.sound.upToDate⟩, ?_, ⟨hi.traced.submitted, ?_⟩⟩, ?_⟩
  · exact (congrArg (·.bind PendingRenderedFrame.content) hpending).symm
  · exact (congrArg (·.bind PendingRenderedFrame.content) hrendered).symm
  · have hpending : exporter.pendingFrame = none := hpending
    unfold newest
    rw [hpending, hidle]
    exact hrendered

end ProductionHead

namespace FrameSession

/-- The page flips a drain finds are those of a frame in flight: the kernel sends one for each
accepted commit. -/
def FlipsInFlight (session : FrameSession φ β κ) : FrameAction φ β κ → Prop
  | .runTick arrived _ | .retireReady arrived _ =>
    (session.head.pollGroupCallbacks arrived).2.FlipsInFlight
  | _ => True

def KeepsFrame (session : FrameSession φ β κ) : FrameAction φ β κ → Prop
  | .runTick arrived env =>
    (session.head.pollGroupCallbacks arrived).2.KeepsFrame session.latest env
  | _ => True

structure Inv (session : FrameSession φ β κ) : Prop where
  head : session.head.Inv
  newest : ∀ frame checksum, session.latest = some (.cpu frame checksum) →
    session.head.newest = some (.cpu frame checksum)

theorem inv_new (group : ℕ) (output : OutputId) : (new group output : FrameSession φ β κ).Inv := by
  refine ⟨⟨⟨rfl, fun _ h => nomatch h⟩, rfl, ⟨rfl, rfl⟩⟩, fun _ _ h => nomatch h⟩

/-- After a call that returns Ok, what it was given for the head holds of the session. -/
theorem inv_after {session : FrameSession φ β κ} {call : Except String Unit × ProductionHead φ β κ}
    (hended : (session.after call).ended = false)
    (h : call.1 = .ok () → call.2.Inv ∧ ∀ frame checksum,
      session.latest = some (.cpu frame checksum) → call.2.newest = some (.cpu frame checksum)) :
    (session.after call).Inv := by
  obtain ⟨result, head⟩ := call
  cases result with
  | error e => cases hended
  | ok _ => exact ⟨(h rfl).1, (h rfl).2⟩

theorem inv_act {session : FrameSession φ β κ} {action : FrameAction φ β κ}
    (hflips : session.FlipsInFlight action) (hkeeps : session.KeepsFrame action)
    (hi : session.Inv) (hended : (session.act action).ended = false) :
    (session.act action).Inv := by
  cases action with
  | initializeNative frame checksum selected renderer commit =>
    refine inv_after hended fun hok => ?_
    obtain ⟨hinv, hnewest⟩ := ProductionHead.initializeNative_inv hi.head hok
    refine ⟨hinv, fun frame' checksum' hlatest => ?_⟩
    cases hlatest
    exact hnewest
  | queueFrame frame checksum =>
    refine ⟨⟨⟨hi.head.sound.retain, hi.head.sound.upToDate⟩, rfl,
      ⟨hi.head.traced.submitted, hi.head.traced.presented⟩⟩, ?_⟩
    intro frame' checksum' hlatest
    exact hlatest
  | queueMixedFrame transaction frame =>
    refine ⟨⟨⟨hi.head.sound.retain, hi.head.sound.upToDate⟩, rfl,
      ⟨hi.head.traced.submitted, hi.head.traced.presented⟩⟩, ?_⟩
    intro frame' checksum' hlatest
    cases hlatest
  | poll arrived =>
    refine inv_after hended fun _ => ⟨ProductionHead.poll_inv arrived hi.head, ?_⟩
    intro frame checksum hlatest
    exact (ProductionHead.poll_sameFrames _ arrived).newest.trans (hi.newest frame checksum hlatest)
  | runTick arrived env =>
    have hflips : (session.head.pollGroupCallbacks arrived).2.FlipsInFlight := hflips
    have hkeeps : (session.head.pollGroupCallbacks arrived).2.KeepsFrame session.latest env :=
      hkeeps
    have hinv := ProductionHead.poll_inv arrived hi.head
    have hsame := (ProductionHead.poll_sameFrames session.head arrived).newest
    refine inv_after hended fun hok => ?_
    unfold ProductionHead.runTick at hok ⊢
    generalize session.head.pollGroupCallbacks arrived = polled at *
    obtain ⟨result, mid⟩ := polled
    cases result with
    | error e => cases hok
    | ok _ =>
      refine ⟨(ProductionHead.nativeTick_cases hinv hflips hok).1, ?_⟩
      intro frame checksum hlatest
      rw [hlatest] at hkeeps
      have hnewest := hsame.trans (hi.newest frame checksum hlatest)
      exact ProductionHead.nativeTick_newest hinv hflips hok hkeeps hnewest
  | retireReady arrived destroy =>
    have hflips : (session.head.pollGroupCallbacks arrived).2.FlipsInFlight := hflips
    have hinv := ProductionHead.poll_inv arrived hi.head
    have hsame := (ProductionHead.poll_sameFrames session.head arrived).newest
    refine inv_after hended fun hok => ?_
    unfold ProductionHead.retireReady at hok ⊢
    generalize session.head.pollGroupCallbacks arrived = polled at *
    obtain ⟨result, mid⟩ := polled
    cases result with
    | error e => cases hok
    | ok _ =>
      obtain ⟨hretired, hnewest⟩ := ProductionHead.retireReady_inv hinv hflips
      refine ⟨hretired, fun frame checksum hlatest => ?_⟩
      exact hnewest.trans (hsame.trans (hi.newest frame checksum hlatest))
  | retryCleanup retried =>
    have hsame : ProductionHead.SameFrames session.head (session.head.retryCleanup retried) := by
      rw [ProductionHead.retryCleanup, NativeOutput.retryCleanup, retryCleanup_eq]
      exact ⟨rfl, rfl, rfl, rfl⟩
    refine ⟨hsame.inv (retryCleanup_quiet.sound hi.head.sound) hi.head, ?_⟩
    intro frame checksum hlatest
    exact hsame.newest.trans (hi.newest frame checksum hlatest)

theorem inv_step {session : FrameSession φ β κ} {action : FrameAction φ β κ}
    (hflips : session.FlipsInFlight action) (hkeeps : session.KeepsFrame action)
    (hi : session.ended = false → session.Inv) (hended : (session.step action).ended = false) :
    (session.step action).Inv := by
  unfold step at hended ⊢
  cases ho : session.ended with
  | true =>
    rw [ho, if_pos rfl, ho] at hended
    cases hended
  | false =>
    rw [ho, if_neg Bool.false_ne_true] at hended
    exact inv_act hflips hkeeps (hi ho) hended

/-- While no call has failed, the CPU frame queued last waits, is in flight or is on screen, and the
head's names are those of the frames in its buffers. -/
theorem queued_frame_kept (group : ℕ) (output : OutputId) (actions : List (FrameAction φ β κ))
    (hflips : Run.Guarded step FlipsInFlight (new group output) actions)
    (hkeeps : Run.Guarded step KeepsFrame (new group output) actions)
    (hended : (Run.exec step (new group output) actions).ended = false) :
    (∀ frame checksum,
      (Run.exec step (new group output) actions).latest = some (.cpu frame checksum) →
      (Run.exec step (new group output) actions).head.Holds (.cpu frame checksum)) ∧
    (Run.exec step (new group output) actions).head.Traced := by
  have hinv : (Run.exec step (new group output) actions).Inv := by
    have hboth : Run.Guarded step (fun session action => session.FlipsInFlight action ∧
        session.KeepsFrame action) (new group output : FrameSession φ β κ) actions :=
      fun before action after he => ⟨hflips before action after he, hkeeps before action after he⟩
    refine Run.invariant (P := fun session : FrameSession φ β κ => session.ended = false →
      session.Inv) (fun _ => inv_new group output) ?_ hboth hended
    intro session action hok hi hended
    exact inv_step hok.1 hok.2 hi hended
  refine ⟨fun frame checksum hlatest => ?_, hinv.head.traced⟩
  exact ProductionHead.holds_of_newest (hinv.newest frame checksum hlatest)

instance [DecidableEq φ] {head : ProductionHead φ β κ} {frame : PendingRenderedFrame φ} :
    Decidable (head.Holds frame) :=
  inferInstanceAs (Decidable (_ ∨ _ ∨ _))

instance {head : ProductionHead φ β κ} : Decidable head.FlipsInFlight :=
  inferInstanceAs (Decidable (_ → _))

instance (session : FrameSession φ β κ) :
    (action : FrameAction φ β κ) → Decidable (session.FlipsInFlight action)
  | .runTick arrived _ | .retireReady arrived _ =>
    inferInstanceAs (Decidable (session.head.pollGroupCallbacks arrived).2.FlipsInFlight)
  | .initializeNative _ _ _ _ _ | .queueFrame _ _ | .queueMixedFrame _ _ | .poll _
  | .retryCleanup _ => .isTrue trivial

instance (session : FrameSession φ β κ) :
    (action : FrameAction φ β κ) → Decidable (session.KeepsFrame action)
  | .runTick _ _ => inferInstanceAs (Decidable (_ → _ → (_ → _) ∧ (_ → _ → _)))
  | .initializeNative _ _ _ _ _ | .queueFrame _ _ | .queueMixedFrame _ _ | .poll _
  | .retireReady _ _ | .retryCleanup _ => .isTrue trivial

/-- A submission that comes through, and the tick that makes one. -/
def goodSubmit : SubmitEnv ℕ ℕ :=
  ⟨.ready, some (.new ⟨4, 4⟩), some ⟨4, 4⟩, ⟨.ready, true, .exported, some 7⟩, .ok 9⟩

def tickWith (submit : SubmitEnv ℕ ℕ) : FrameAction ℕ ℕ ℕ :=
  .runTick [] ⟨⟨.destroyed, none⟩, ⟨.destroyed, none⟩, true, submit, .ok ()⟩

/-- A head with its first frame on screen and a second one queued. -/
def queuedRun : List (FrameAction ℕ ℕ ℕ) :=
  [.initializeNative 0 100 ⟨4, 4⟩ ⟨.ready, true, .exported, some 6⟩ (some 8), .queueFrame 1 101]

def flippedRun : List (FrameAction ℕ ℕ ℕ) :=
  queuedRun ++ [tickWith goodSubmit, .retireReady [⟨⟨1⟩, 5⟩] ⟨.destroyed, none⟩]

theorem queued_frame_kept_flipped :
    (Run.exec step (new 0 ⟨1⟩) flippedRun).head.Holds (.cpu 1 101) ∧
    (Run.exec step (new 0 ⟨1⟩) flippedRun).head.Traced := by
  have h := queued_frame_kept 0 ⟨1⟩ flippedRun (by decide) (by decide) (by decide)
  exact ⟨h.1 1 101 (by decide), h.2⟩

/-- No call fails and every flip is that of a frame in flight, and yet the frame that a tick was
asked to submit is nowhere any more. -/
def LosesFrame (submit : SubmitEnv ℕ ℕ) : Prop :=
  Run.Guarded step FlipsInFlight (new 0 ⟨1⟩) (queuedRun ++ [tickWith submit]) ∧
    (Run.exec step (new 0 ⟨1⟩) (queuedRun ++ [tickWith submit])).ended = false ∧
    (Run.exec step (new 0 ⟨1⟩) (queuedRun ++ [tickWith submit])).latest = some (.cpu 1 101) ∧
    ¬ (Run.exec step (new 0 ⟨1⟩) (queuedRun ++ [tickWith submit])).head.Holds (.cpu 1 101)

instance (submit : SubmitEnv ℕ ℕ) : Decidable (LosesFrame submit) :=
  inferInstanceAs (Decidable (_ ∧ _ ∧ _ ∧ _))

/-- The renderer fails to export the pending frame, or the commit of its buffer would block. -/
theorem failed_submission_loses_frame :
    LosesFrame { goodSubmit with renderer := ⟨.ready, true, .degraded, none⟩ } ∧
      LosesFrame { goodSubmit with commit := .error none } := by
  decide

end FrameSession
end Sophia.Backend
