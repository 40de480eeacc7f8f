import Sophia.Backend.NativeScanout

/-! One head with its exporter: the frame that waits to be rendered, the buffer it is rendered to
and the tick that does it. Frames, renderer buffers and plane resources are arbitrary types. -/
namespace Sophia.Backend

open Protocol

variable {φ β κ : Type}

inductive PendingRenderedFrame (φ : Type) where
  | cpu (frame : φ) (checksum : UInt64)
  | dmaBuf (frame : φ)
  -- The exporter has no use for the transaction; it is the one the head queued the frame for.
  | mixed (transaction : TransactionId) (frame : φ)
  deriving DecidableEq

/-- How a head names the frame. -/
def PendingRenderedFrame.content : PendingRenderedFrame φ → Option LiveProductionScanoutContent
  | .cpu _ checksum => some (.cpu checksum)
  | .dmaBuf _ => none
  | .mixed transaction _ => some (.mixed transaction)

def PendingRenderedFrame.isCpu : PendingRenderedFrame φ → Bool
  | .cpu _ _ => true
  | _ => false

inductive LiveRendererScanoutBufferExportStatus where
  | exported
  | invalidTarget
  | unavailable
  | degraded
  deriving DecidableEq

inductive NativeGbmRenderedScanoutContextStatus where
  | ready
  | unavailable
  | degraded
  deriving DecidableEq

inductive LiveGbmEglFrameTargetStatus where
  | ready
  | invalidSize
  deriving DecidableEq

structure LiveGbmEglFrameTargetRecord where
  status : LiveGbmEglFrameTargetStatus
  size : Size
  deriving DecidableEq

namespace LiveGbmEglFrameTargetRecord

def new (size : Size) : LiveGbmEglFrameTargetRecord where
  status := if size.width > 0 ∧ size.height > 0 then .ready else .invalidSize
  size := size

def isValidScanoutTarget (target : LiveGbmEglFrameTargetRecord) : Bool :=
  target.status = .ready && target.size.width > 0 && target.size.height > 0

end LiveGbmEglFrameTargetRecord

inductive LiveKmsScanoutTargetStatus where
  | ready
  | outputUnavailable
  | frameTargetUnavailable
  | invalidFrameTarget
  | frameTargetSizeMismatch
  | presentationUnavailable
  | degraded
  deriving DecidableEq

/-- `reduced_scanout_target_status_from_native_selection`; the selection is the size of its mode. -/
def reducedScanoutTargetStatus (currentStatus : LiveKmsScanoutTargetStatus)
    (target : LiveGbmEglFrameTargetRecord) (selected : Option Size) : LiveKmsScanoutTargetStatus :=
  if currentStatus ≠ .ready then currentStatus
  else if !target.isValidScanoutTarget then .invalidFrameTarget
  else match selected with
    | none => .outputUnavailable
    | some size => if size ≠ target.size then .frameTargetSizeMismatch else .ready

/-- A buffer of the renderer and the frame rendered to it: none for the renderer's own pattern. -/
structure RenderedBuffer (φ β : Type) where
  owner : β
  rendered : Option (PendingRenderedFrame φ)
  deriving DecidableEq

structure LiveRenderedScanoutBufferExport (β : Type) where
  status : LiveRendererScanoutBufferExportStatus
  owner : Option β
  deriving DecidableEq

/-- An export without its buffer is no export. -/
def LiveRenderedScanoutBufferExport.new (status : LiveRendererScanoutBufferExportStatus)
    (owner : Option β) : LiveRenderedScanoutBufferExport β :=
  match status, owner with
  | .exported, some owner => ⟨.exported, some owner⟩
  | .exported, none => ⟨.degraded, none⟩
  | status, _ => ⟨status, none⟩

/-- What the render device and the renderer do during one export. -/
structure ExportEnv (β : Type) where
  opened : NativeGbmRenderedScanoutContextStatus
  context : Bool
  status : LiveRendererScanoutBufferExportStatus
  buffer : Option β
  deriving DecidableEq

structure NativeGbmRenderedScanoutBufferDiscoveryExporter (φ : Type) where
  context : Bool := false
  contextStatus : Option NativeGbmRenderedScanoutContextStatus := none
  contextOpenAttempts : ℕ := 0
  exportAttempts : ℕ := 0
  lastExportStatus : Option LiveRendererScanoutBufferExportStatus := none
  pendingFrame : Option (PendingRenderedFrame φ) := none
  cpuFrameExportAttempts : ℕ := 0
  dmaBufFrameExportAttempts : ℕ := 0
  dmaBufFrameExports : ℕ := 0
  mixedFrameExportAttempts : ℕ := 0
  mixedFrameExports : ℕ := 0
  lastCpuFrameChecksum : Option UInt64 := none
  lastCpuFrameExportStatus : Option LiveRendererScanoutBufferExportStatus := none
  deriving DecidableEq

namespace NativeGbmRenderedScanoutBufferDiscoveryExporter

variable (exporter : NativeGbmRenderedScanoutBufferDiscoveryExporter φ)

def pendingCpuFrame : Bool := exporter.pendingFrame.any (·.isCpu)

def openContext (env : ExportEnv β) : NativeGbmRenderedScanoutBufferDiscoveryExporter φ :=
  if exporter.context then exporter
  else { exporter with
    contextOpenAttempts := exporter.contextOpenAttempts + 1
    contextStatus := some env.opened
    context := env.context }

def missingContextStatus : LiveRendererScanoutBufferExportStatus :=
  match exporter.contextStatus with
  | some .degraded | some .ready => .degraded
  | some .unavailable | none => .unavailable

def countExport (status : LiveRendererScanoutBufferExportStatus) :
    NativeGbmRenderedScanoutBufferDiscoveryExporter φ :=
  let exports := if status = .exported then 1 else 0
  match exporter.pendingFrame with
  | some (.mixed _ _) => { exporter with
      mixedFrameExportAttempts := exporter.mixedFrameExportAttempts + 1
      mixedFrameExports := exporter.mixedFrameExports + exports }
  | some (.dmaBuf _) => { exporter with
      dmaBufFrameExportAttempts := exporter.dmaBufFrameExportAttempts + 1
      dmaBufFrameExports := exporter.dmaBufFrameExports + exports }
  | some (.cpu _ checksum) => { exporter with
      cpuFrameExportAttempts := exporter.cpuFrameExportAttempts + 1
      lastCpuFrameChecksum := some checksum
      lastCpuFrameExportStatus := some status }
  | none => exporter

-- The frame is taken before the renderer answers, whatever the answer.
def exportRenderedScanoutBuffer (target : LiveGbmEglFrameTargetRecord) (env : ExportEnv β) :
    LiveRenderedScanoutBufferExport (RenderedBuffer φ β) ×
      NativeGbmRenderedScanoutBufferDiscoveryExporter φ :=
  let exporter := { exporter with exportAttempts := exporter.exportAttempts + 1 }
  if !target.isValidScanoutTarget then
    (.new .invalidTarget none, { exporter with lastExportStatus := some .invalidTarget })
  else
    let exporter := exporter.openContext env
    if !exporter.context then
      (.new exporter.missingContextStatus none,
        { exporter with lastExportStatus := some exporter.missingContextStatus })
    else
      (.new env.status (env.buffer.map (⟨·, exporter.pendingFrame⟩)),
        { exporter.countExport env.status with
          pendingFrame := none, lastExportStatus := some env.status })

/-- The buffer of the initial modeset, whose target is the mode's own size. -/
def exportInitialModeset (selected : Size) (renderer : ExportEnv β) :
    Option (RenderedBuffer φ β) × NativeGbmRenderedScanoutBufferDiscoveryExporter φ :=
  if reducedScanoutTargetStatus .ready (.new selected) (some selected) ≠ .ready then
    (none, exporter)
  else
    let (exported, exporter) := exporter.exportRenderedScanoutBuffer (.new selected) renderer
    (if exported.status = .exported then exported.owner else none, exporter)

end NativeGbmRenderedScanoutBufferDiscoveryExporter

/-- What a submission holds on to: its buffer and the plane resources made from it. -/
structure ScanoutFrame (φ β κ : Type) where
  buffer : RenderedBuffer φ β
  plane : κ
  deriving DecidableEq

/-- What one submission meets: the target of its output, the renderer, and the commit, which is
accepted with its plane resources or refused with what could not be destroyed again. -/
structure SubmitEnv (β κ : Type) where
  scanoutTarget : LiveKmsScanoutTargetStatus
  target : Option LiveGbmEglFrameTargetRecord
  selected : Option Size
  renderer : ExportEnv β
  commit : Except (Option κ) κ
  deriving DecidableEq

/-- `submit_rendered_primary_plane_scanout_from_scanout_target_and_selection_with`. -/
def submitRenderedPrimaryPlaneScanout
    (exporter : NativeGbmRenderedScanoutBufferDiscoveryExporter φ) (env : SubmitEnv β κ) :
    SubmitResult (ScanoutFrame φ β κ) × NativeGbmRenderedScanoutBufferDiscoveryExporter φ :=
  if env.scanoutTarget ≠ .ready then (.scanoutTargetNotReady, exporter)
  else match env.target with
    | none => (.frameTargetUnavailable, exporter)
    | some target =>
      if reducedScanoutTargetStatus env.scanoutTarget target env.selected ≠ .ready then
        (.scanoutTargetNotReady, exporter)
      else
        let (exported, exporter) := exporter.exportRenderedScanoutBuffer target env.renderer
        match exported.status, exported.owner, env.commit with
        | .exported, some buffer, .ok plane => (.submitted ⟨buffer, plane⟩, exporter)
        | .exported, some buffer, .error cleanup =>
          (.primaryPlaneSubmitFailed (cleanup.map (⟨buffer, ·⟩)), exporter)
        | _, _, _ => (.scanoutExportFailed, exporter)

/-- What the engine, the device and the renderer do during one tick of a head. -/
structure HeadTickEnv (φ β κ : Type) where
  cleanupRetry : ResourceDestroyReport (ScanoutFrame φ β κ)
  destroy : ResourceDestroyReport (ScanoutFrame φ β κ)
  submits : Bool
  submit : SubmitEnv β κ
  engine : Except String Unit
  deriving DecidableEq

/-- What a tick's submission finds: the cleanup retried and the flips of the queue retired. -/
def LiveBackendRuntimeAssembly.retired {ρ : Type} (rt : LiveBackendRuntimeAssembly ρ)
    (cleanupRetry destroy : ResourceDestroyReport ρ) : LiveRenderedOutputState ρ :=
  (LiveBackendRuntimeAssembly.drainPageFlipCallbacksWith
    { rt with state := rt.state.retryTrackedOutputCleanup cleanupRetry } destroy).2.2.state

/-- A head of the native scanout, its exporter and the runtime of its output. -/
structure ProductionHead (φ β κ : Type) where
  exporter : NativeGbmRenderedScanoutBufferDiscoveryExporter φ
  out : NativeOutput (ScanoutFrame φ β κ)
  deriving DecidableEq

namespace ProductionHead

variable (head : ProductionHead φ β κ)

def new (group : ℕ) (output : OutputId) : ProductionHead φ β κ := ⟨{}, .new group output⟩

def queueFrame (frame : φ) (checksum : UInt64) : ProductionHead φ β κ where
  exporter := { head.exporter with pendingFrame := some (.cpu frame checksum) }
  out := { head.out with head := head.out.head.queueFrame checksum }

def queueMixedFrame (transaction : TransactionId) (frame : φ) : ProductionHead φ β κ where
  exporter := { head.exporter with pendingFrame := some (.mixed transaction frame) }
  out := { head.out with head := head.out.head.queueMixedFrame transaction }

/-- Polls the card, as far as this head goes: it is sent the callbacks of its output. -/
def pollGroupCallbacks (arrived : List LivePageFlipCallback) :
    Except String Unit × ProductionHead φ β κ :=
  let (result, out) := Run.tryEach (fun (out : NativeOutput (ScanoutFrame φ β κ)) callback =>
    match out.trySend callback with
    | none => .error "native output callback queue is full"
    | some out => .ok out) arrived head.out
  (result, { head with out := out })

/-- The engine submits and nothing stands in the way: the tick asks the exporter for a buffer. -/
def asksExporter (env : HeadTickEnv φ β κ) : Bool :=
  let state := head.out.runtime.retired env.cleanupRetry env.destroy
  env.submits && !state.inFlight && !state.cleanupPending

-- A result that is not asked for is not read.
def submitResult (env : HeadTickEnv φ β κ) :
    SubmitResult (ScanoutFrame φ β κ) × NativeGbmRenderedScanoutBufferDiscoveryExporter φ :=
  if head.asksExporter env then submitRenderedPrimaryPlaneScanout head.exporter env.submit
  else (.scanoutTargetNotReady, head.exporter)

/-- `run_tick` after its poll. -/
def nativeTick (env : HeadTickEnv φ β κ) : Except String Unit × ProductionHead φ β κ :=
  let (submit, exporter) := head.submitResult env
  let (result, out) := head.out.nativeTick
    ⟨env.cleanupRetry, env.destroy, if env.submits then some submit else none, env.engine,
      exporter.pendingFrame.isSome⟩
  (result, ⟨exporter, out⟩)

def runTick (arrived : List LivePageFlipCallback) (env : HeadTickEnv φ β κ) :
    Except String Unit × ProductionHead φ β κ :=
  match head.pollGroupCallbacks arrived with
  | (.error e, head) => (.error e, head)
  | (.ok _, head) => head.nativeTick env

def retireReady (arrived : List LivePageFlipCallback)
    (destroy : ResourceDestroyReport (ScanoutFrame φ β κ)) :
    Except String Unit × ProductionHead φ β κ :=
  match head.pollGroupCallbacks arrived with
  | (.error e, head) => (.error e, head)
  | (.ok _, head) => (.ok (), { head with out := head.out.retireReady destroy })

def retryCleanup (retried : ResourceDestroyReport (ScanoutFrame φ β κ)) : ProductionHead φ β κ :=
  { head with out := head.out.retryCleanup retried }

/-- What the initial modeset holds on to, if it is accepted. -/
def modesetFrame (buffer : Option (RenderedBuffer φ β)) (commit : Option κ) :
    Option (ScanoutFrame φ β κ) :=
  buffer.bind fun buffer => commit.map (⟨buffer, ·⟩)

/-- `initialize`: the first frame is rendered to a buffer for a blocking modeset. -/
def initializeNative (frame : φ) (checksum : UInt64) (selected : Size) (renderer : ExportEnv β)
    (commit : Option κ) : Except String Unit × ProductionHead φ β κ :=
  let head := head.queueFrame frame checksum
  let (buffer, exporter) := head.exporter.exportInitialModeset selected renderer
  let (result, out) := head.out.initializeNative checksum (modesetFrame buffer commit)
  (result, ⟨exporter, out⟩)

end ProductionHead

/-- The calls on one head, and the polls of other heads on its card. -/
inductive FrameAction (φ β κ : Type) where
  | initializeNative (frame : φ) (checksum : UInt64) (selected : Size) (renderer : ExportEnv β)
      (commit : Option κ)
  | queueFrame (frame : φ) (checksum : UInt64)
  | queueMixedFrame (transaction : TransactionId) (frame : φ)
  | poll (arrived : List LivePageFlipCallback)
  | runTick (arrived : List LivePageFlipCallback) (env : HeadTickEnv φ β κ)
  | retireReady (arrived : List LivePageFlipCallback)
      (destroy : ResourceDestroyReport (ScanoutFrame φ β κ))
  | retryCleanup (retried : ResourceDestroyReport (ScanoutFrame φ β κ))

/-- A head, the frame queued last, and whether a call has failed: its callers end the session. -/
structure FrameSession (φ β κ : Type) where
  head : ProductionHead φ β κ
  latest : Option (PendingRenderedFrame φ) := none
  ended : Bool := false
  deriving DecidableEq

namespace FrameSession

def new (group : ℕ) (output : OutputId) : FrameSession φ β κ := { head := .new group output }

/-- Goes on with a call's result. -/
def after (session : FrameSession φ β κ) (call : Except String Unit × ProductionHead φ β κ) :
    FrameSession φ β κ where
  head := call.2
  latest := session.latest
  ended := !call.1.isOk

def act (session : FrameSession φ β κ) : FrameAction φ β κ → FrameSession φ β κ
  | .initializeNative frame checksum selected renderer commit =>
    { session with latest := some (.cpu frame checksum) }.after
      (session.head.initializeNative frame checksum selected renderer commit)
  | .queueFrame frame checksum => { session with
      head := session.head.queueFrame frame checksum, latest := some (.cpu frame checksum) }
  | .queueMixedFrame transaction frame => { session with
      head := session.head.queueMixedFrame transaction frame
      latest := some (.mixed transaction frame) }
  | .poll arrived => session.after (session.head.pollGroupCallbacks arrived)
  | .runTick arrived env => session.after (session.head.runTick arrived env)
  | .retireReady arrived destroy => session.after (session.head.retireReady arrived destroy)
  | .retryCleanup retried => { session with head := session.head.retryCleanup retried }

def step (session : FrameSession φ β κ) (action : FrameAction φ β κ) : FrameSession φ β κ :=
  if session.ended then session else session.act action

end FrameSession
end Sophia.Backend
