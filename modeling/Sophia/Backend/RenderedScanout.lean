import Sophia.Backend.PageFlip

/-! The scanout state of one output: the frame in flight, the frame displayed and its page flips.
Buffers and their plane resources are an arbitrary type; what the device and the engine do with
them comes in as an argument. -/
namespace Sophia.Backend

open Protocol

variable {ρ : Type}

inductive RuntimeScanoutState where
  | submitted
  | deferred
  | retired
  | rejected
  deriving DecidableEq

structure ScanoutSubmission (ρ : Type) where
  resource : ρ
  submittedAfterPageFlipSerial : Option UInt64
  deriving DecidableEq

structure LiveRenderedOutputState (ρ : Type) where
  pageFlipEvent : LivePageFlipEvent
  pageFlipCallbackIntake : LivePageFlipCallbackIntake
  scanoutSubmission : Option (ScanoutSubmission ρ)
  displayedSubmission : Option (ScanoutSubmission ρ)
  retainDisplayedSubmission : Bool
  scanoutCleanup : Option ρ
  runtimeScanoutState : Option RuntimeScanoutState
  inFlightTicks : UInt64
  pendingRuntimeScanoutStates : List RuntimeScanoutState
  deriving DecidableEq

namespace LiveRenderedOutputState

/-- A fresh output in persistent mode. -/
def ready (output : OutputId) : LiveRenderedOutputState ρ where
  pageFlipEvent := ⟨.ready, none⟩
  pageFlipCallbackIntake := ⟨output, none⟩
  scanoutSubmission := none
  displayedSubmission := none
  retainDisplayedSubmission := true
  scanoutCleanup := none
  runtimeScanoutState := none
  inFlightTicks := 0
  pendingRuntimeScanoutStates := []

def inFlight (state : LiveRenderedOutputState ρ) : Bool := state.scanoutSubmission.isSome

def cleanupPending (state : LiveRenderedOutputState ρ) : Bool := state.scanoutCleanup.isSome

end LiveRenderedOutputState

inductive ResourceDestroyStatus where
  | destroyed
  | framebufferDestroyFailed
  | modeBlobDestroyFailed
  | importedBufferCloseFailed
  deriving DecidableEq

inductive TrackedRetireStatus where
  | noSubmission
  | waitingForAcceptedPageFlip
  | retiredAfterPageFlip
  | resourceRetireFailed
  deriving DecidableEq

def TrackedRetireStatus.runtimeScanoutState : TrackedRetireStatus → Option RuntimeScanoutState
  | .retiredAfterPageFlip => some .retired
  | .resourceRetireFailed => some .rejected
  | .noSubmission | .waitingForAcceptedPageFlip => none

/-- What destroying a frame's resources on the device came to. -/
structure ResourceDestroyReport (ρ : Type) where
  status : ResourceDestroyStatus
  cleanup : Option ρ
  deriving DecidableEq

def ResourceDestroyReport.retireStatus (destroy : ResourceDestroyReport ρ) : TrackedRetireStatus :=
  if destroy.status = .destroyed then .retiredAfterPageFlip else .resourceRetireFailed

structure TrackedRetireReport where
  status : TrackedRetireStatus
  destroy : Option ResourceDestroyStatus
  runtimeScanoutState : Option RuntimeScanoutState
  inFlight : Bool
  inFlightTicks : UInt64
  cleanupPending : Bool
  deriving DecidableEq

/-- The callback is not an accepted flip newer than the submission. -/
def ScanoutSubmission.waitingForNewerPageFlip (submission : ScanoutSubmission ρ)
    (callback : LivePageFlipCallbackReport) : Bool :=
  callback.decision ≠ .accepted || callback.event.status ≠ .presented ||
    submission.submittedAfterPageFlipSerial.any fun baseline =>
      callback.event.frameSerial.all (· ≤ baseline)

inductive SubmitStatus where
  | submittedWaitingForPageFlip
  | scanoutTargetNotReady
  | frameTargetUnavailable
  | scanoutExportFailed
  | primaryPlaneSubmitFailed
  | alreadyInFlight
  | cleanupPending
  deriving DecidableEq

/-- How an attempt to export a frame and commit it to the primary plane ends. -/
inductive SubmitResult (ρ : Type) where
  | submitted (resource : ρ)
  | scanoutTargetNotReady
  | frameTargetUnavailable
  | scanoutExportFailed
  | primaryPlaneSubmitFailed (cleanup : Option ρ)
  deriving DecidableEq

namespace SubmitResult

def status : SubmitResult ρ → SubmitStatus
  | .submitted _ => .submittedWaitingForPageFlip
  | .scanoutTargetNotReady => .scanoutTargetNotReady
  | .frameTargetUnavailable => .frameTargetUnavailable
  | .scanoutExportFailed => .scanoutExportFailed
  | .primaryPlaneSubmitFailed _ => .primaryPlaneSubmitFailed

def submission : SubmitResult ρ → Option ρ
  | .submitted resource => some resource
  | _ => none

def cleanup : SubmitResult ρ → Option ρ
  | .primaryPlaneSubmitFailed cleanup => cleanup
  | _ => none

def runtimeScanoutState : SubmitResult ρ → RuntimeScanoutState
  | .submitted _ => .submitted
  | _ => .rejected

end SubmitResult

structure TrackedSubmitReport where
  status : SubmitStatus
  runtimeScanoutState : Option RuntimeScanoutState
  inFlight : Bool
  inFlightTicks : UInt64
  cleanupPending : Bool
  deriving DecidableEq

namespace LiveRenderedOutputState

variable (state : LiveRenderedOutputState ρ)

def retireReport (status : TrackedRetireStatus) (destroy : Option ResourceDestroyStatus) :
    TrackedRetireReport where
  status := status
  destroy := destroy
  runtimeScanoutState := status.runtimeScanoutState
  inFlight := state.inFlight
  inFlightTicks := state.inFlightTicks
  cleanupPending := state.cleanupPending

/-- Tells the runtime how a retirement ended. -/
def pushRetireState (status : TrackedRetireStatus) : LiveRenderedOutputState ρ :=
  { state with
    runtimeScanoutState := status.runtimeScanoutState.or state.runtimeScanoutState
    pendingRuntimeScanoutStates :=
      state.pendingRuntimeScanoutStates ++ status.runtimeScanoutState.toList }

/-- Takes the frame out of flight; what could not be destroyed stays for a later cleanup. -/
def takeOutOfFlight (displayed : Option (ScanoutSubmission ρ)) (cleanup : Option ρ) :
    LiveRenderedOutputState ρ :=
  { state with
    scanoutSubmission := none
    displayedSubmission := displayed
    scanoutCleanup := cleanup.or state.scanoutCleanup
    inFlightTicks := 0 }

-- `destroy` answers for the one frame whose resources go: the displayed one in persistent mode,
-- the flipped one itself otherwise.
def retireTrackedOutputAfterPageFlip (destroy : ResourceDestroyReport ρ)
    (callback : LivePageFlipCallbackReport) : TrackedRetireReport × LiveRenderedOutputState ρ :=
  match state.scanoutSubmission with
  | none => (⟨.noSubmission, none, none, false, 0, state.cleanupPending⟩, state)
  | some submission =>
    if submission.waitingForNewerPageFlip callback then
      (state.retireReport .waitingForAcceptedPageFlip none, state)
    else
      let (status, destroyed, cleanup, displayed) :=
        if state.retainDisplayedSubmission then
          match state.displayedSubmission with
          | none => (.retiredAfterPageFlip, none, none, some submission)
          | some _ => (destroy.retireStatus, some destroy.status,
            if destroy.status = .destroyed then none else destroy.cleanup, some submission)
        else (destroy.retireStatus, some destroy.status,
          if destroy.status = .destroyed then none else destroy.cleanup,
          state.displayedSubmission)
      let state' := (state.takeOutOfFlight displayed cleanup).pushRetireState status
      (state'.retireReport status destroyed, state')

def retryTrackedOutputCleanup (retried : ResourceDestroyReport ρ) : LiveRenderedOutputState ρ :=
  if state.cleanupPending then { state with scanoutCleanup := retried.cleanup } else state

def advanceAgeIfInFlight : LiveRenderedOutputState ρ :=
  if state.inFlight then { state with inFlightTicks := saturatingAdd state.inFlightTicks 1 }
  else state

def drainPendingRuntimeScanoutStates : LiveRenderedOutputState ρ :=
  { state with pendingRuntimeScanoutStates := [] }

def submitReport (status : SubmitStatus) (runtimeScanoutState : RuntimeScanoutState)
    (cleanupPending : Bool) : TrackedSubmitReport where
  status := status
  runtimeScanoutState := some runtimeScanoutState
  inFlight := state.inFlight
  inFlightTicks := state.inFlightTicks
  cleanupPending := cleanupPending

/-- `track_rendered_primary_plane_scanout_submit_from_target_and_selection_with`, as a tick calls
it. -/
def trackSubmit (submittedAfterPageFlipSerial : Option UInt64) (result : SubmitResult ρ) :
    TrackedSubmitReport × LiveRenderedOutputState ρ :=
  if state.inFlight then
    (state.submitReport .alreadyInFlight .deferred state.cleanupPending,
      { state with runtimeScanoutState := some .deferred })
  else if state.cleanupPending then
    (state.submitReport .cleanupPending .deferred true,
      { state with runtimeScanoutState := some .deferred })
  else
    let state' := { state with
      scanoutSubmission := result.submission.map (⟨·, submittedAfterPageFlipSerial⟩)
      scanoutCleanup := result.cleanup
      inFlightTicks := 0
      runtimeScanoutState := some result.runtimeScanoutState }
    (state'.submitReport result.status result.runtimeScanoutState result.cleanup.isSome, state')

/-- The engine's command loop submits at most one frame a tick. -/
def submitScanout :
    Option (SubmitResult ρ) → Option TrackedSubmitReport × LiveRenderedOutputState ρ
  | none => (none, state)
  | some result =>
    let (report, state) := state.trackSubmit state.pageFlipCallbackIntake.lastFrameSerial result
    (some report, state)

/-- Takes the frame of the initial modeset as displayed, unless there is a frame already. -/
def adoptPresented (resource : ρ) : Option (LiveRenderedOutputState ρ) :=
  if !state.retainDisplayedSubmission || state.displayedSubmission.isSome || state.inFlight ||
    state.cleanupPending then none
  else some { state with displayedSubmission := some ⟨resource, none⟩ }

end LiveRenderedOutputState

/-- How many callbacks a head's channel holds and a tick drains. -/
def pageFlipQueueCapacity : ℕ := 64

/-- A runtime and the receiving end of its head's callback channel. -/
structure LiveBackendRuntimeAssembly (ρ : Type) where
  primaryOutput : OutputId
  state : LiveRenderedOutputState ρ
  pageFlipCallbackQueue : SyncChannel pageFlipQueueCapacity LivePageFlipCallback
  deriving DecidableEq

structure RuntimeTickReport where
  pageFlipCallbacks : LivePageFlipCallbackQueueReport
  submit : Option TrackedSubmitReport
  retire : Option TrackedRetireReport
  inFlightTicks : UInt64
  deriving DecidableEq

/-- What the engine and the device do during one tick with a device. -/
structure TickEnv (ρ : Type) where
  cleanupRetry : ResourceDestroyReport ρ
  destroy : ResourceDestroyReport ρ
  submit : Option (SubmitResult ρ)
  engine : Except String Unit
  exporterPending : Bool

/-- Looks the callback's output up among the runtime's outputs, of which there is one. -/
def observePageFlipCallback (primaryOutput : OutputId) (state : LiveRenderedOutputState ρ)
    (callback : LivePageFlipCallback) :
    LivePageFlipCallbackReport × LiveRenderedOutputState ρ :=
  if callback.output = primaryOutput then
    let (report, intake) := state.pageFlipCallbackIntake.observe callback
    (report, { state with pageFlipCallbackIntake := intake, pageFlipEvent := report.event })
  else (⟨.rejectedUnexpectedOutput, ⟨.waitingForOutput, none⟩⟩, state)

namespace LiveBackendRuntimeAssembly

variable (rt : LiveBackendRuntimeAssembly ρ)

def inFlight : Bool := rt.state.inFlight

def drainPageFlipCallbackQueue : LivePageFlipCallbackQueueReport × LiveBackendRuntimeAssembly ρ :=
  let (report, state) := drainReadyWith (observePageFlipCallback rt.primaryOutput)
    (rt.pageFlipCallbackQueue.items.take pageFlipQueueCapacity) {} rt.state
  let event := report.lastAccepted.elim state.pageFlipEvent (·.event)
  ({ report with maxReached := report.drained = pageFlipQueueCapacity },
    { rt with
      state := { state with pageFlipEvent := event }
      pageFlipCallbackQueue := rt.pageFlipCallbackQueue.skip pageFlipQueueCapacity })

/-- `run_tick`: a tick without a device. The engine's result is returned after the drain. -/
def runTick (engine : Except String Unit) :
    Except String LivePageFlipCallbackQueueReport × LiveBackendRuntimeAssembly ρ :=
  let (report, rt) := rt.drainPageFlipCallbackQueue
  let state := rt.state.advanceAgeIfInFlight.drainPendingRuntimeScanoutStates
  (engine.map fun _ => report, { rt with state := state })

/-- Drains the callbacks and retires the frame in flight with the last accepted one. -/
def drainPageFlipCallbacksWith (destroy : ResourceDestroyReport ρ) :
    LivePageFlipCallbackQueueReport × Option TrackedRetireReport × LiveBackendRuntimeAssembly ρ :=
  let (report, rt) := rt.drainPageFlipCallbackQueue
  match report.lastAccepted with
  | none => (report, none, rt)
  | some callback =>
    let (retire, state) := rt.state.retireTrackedOutputAfterPageFlip destroy callback
    (report, some retire, { rt with state := state })

/-- `run_tick_with_rendered_primary_plane_scanout_with`. -/
def runTickWithScanout (env : TickEnv ρ) :
    Except String RuntimeTickReport × LiveBackendRuntimeAssembly ρ :=
  let rt := { rt with state := rt.state.retryTrackedOutputCleanup env.cleanupRetry }
  let (report, retire, rt) := rt.drainPageFlipCallbacksWith env.destroy
  let (submit, state) :=
    rt.state.advanceAgeIfInFlight.drainPendingRuntimeScanoutStates.submitScanout env.submit
  (env.engine.map fun _ => ⟨report, submit, retire, state.inFlightTicks⟩,
    { rt with state := state })

end LiveBackendRuntimeAssembly
end Sophia.Backend
