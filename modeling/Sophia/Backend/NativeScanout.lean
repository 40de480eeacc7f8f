import Sophia.Lib.Run
import Sophia.Backend.RenderedScanout

/-! Several outputs on one or more DRM cards, each with its head and its runtime. -/
namespace Sophia.Backend

open Protocol

variable {ρ : Type}

inductive LiveProductionScanoutContent where
  | cpu (checksum : UInt64)
  | mixed (transaction : TransactionId)
  deriving DecidableEq

/-- One card: its event session and the channel its callbacks are polled into. -/
structure LiveProductionNativeGroup where
  session : PageFlipSession
  channel : SyncChannel pageFlipQueueCapacity LivePageFlipCallback
  deriving DecidableEq

structure LiveProductionNativeHead where
  group : ℕ
  output : OutputId
  lastChecksum : UInt64 := 0
  submittedChecksum : Option UInt64 := none
  submittedSequence : Option ℕ := none
  pendingContent : Option LiveProductionScanoutContent := none
  submittedContent : Option LiveProductionScanoutContent := none
  presentedContent : Option LiveProductionScanoutContent := none
  presentedChecksum : UInt64 := 0
  presentedSubmissions : ℕ := 0
  submissions : ℕ := 0
  retirements : ℕ := 0
  callbackAccepted : ℕ := 0
  lastSubmitReport : Option TrackedSubmitReport := none
  deriving DecidableEq

namespace LiveProductionNativeHead

variable (head : LiveProductionNativeHead)

def observeRetire (retire : TrackedRetireReport) : LiveProductionNativeHead :=
  if retire.status = .retiredAfterPageFlip then { head with retirements := head.retirements + 1 }
  else head

def observeCallbacks (report : LivePageFlipCallbackQueueReport) : LiveProductionNativeHead :=
  let head := { head with callbackAccepted := head.callbackAccepted + report.accepted }
  if report.accepted > 0 then
    { head with
      presentedChecksum := head.submittedChecksum.getD head.presentedChecksum
      submittedChecksum := none
      presentedSubmissions := head.submittedSequence.getD head.presentedSubmissions
      submittedSequence := none
      presentedContent := head.submittedContent
      submittedContent := none }
  else head

def observeSubmit (queuedContent : Option LiveProductionScanoutContent)
    (submit : TrackedSubmitReport) : LiveProductionNativeHead :=
  let head := { head with lastSubmitReport := some submit }
  if submit.status = .submittedWaitingForPageFlip then
    { head with
      submissions := head.submissions + 1
      submittedChecksum := some head.lastChecksum
      submittedSequence := some (head.submissions + 1)
      submittedContent := queuedContent }
  else head

def queueFrame (checksum : UInt64) : LiveProductionNativeHead :=
  { head with lastChecksum := checksum, pendingContent := some (.cpu checksum) }

def queueMixedFrame (transaction : TransactionId) : LiveProductionNativeHead :=
  { head with pendingContent := some (.mixed transaction) }

end LiveProductionNativeHead

/-- A head and the runtime of the same output, joined by the head's callback channel. -/
structure NativeOutput (ρ : Type) where
  head : LiveProductionNativeHead
  runtime : LiveBackendRuntimeAssembly ρ
  deriving DecidableEq

namespace NativeOutput

variable (out : NativeOutput ρ)

def new (group : ℕ) (output : OutputId) : NativeOutput ρ where
  head := ⟨group, output, 0, none, none, none, none, none, 0, 0, 0, 0, 0, none⟩
  runtime := ⟨output, .ready output, .empty⟩

/-- The sending half of the head's channel. -/
def trySend (callback : LivePageFlipCallback) : Option (NativeOutput ρ) :=
  (out.runtime.pageFlipCallbackQueue.trySend callback).map fun queue =>
    { out with runtime := { out.runtime with pageFlipCallbackQueue := queue } }

/-- `LiveProductionNativeScanout::run_tick` after its poll. -/
def nativeTick (env : TickEnv ρ) : Except String Unit × NativeOutput ρ :=
  let queuedContent := out.head.pendingContent
  match out.runtime.runTickWithScanout env with
  | (.error e, runtime) => (.error e, { out with runtime := runtime })
  | (.ok report, runtime) =>
    let head := if env.exporterPending then out.head else { out.head with pendingContent := none }
    let head := report.retire.elim head head.observeRetire
    let head := head.observeCallbacks report.pageFlipCallbacks
    let head := report.submit.elim head (head.observeSubmit queuedContent)
    (.ok (), ⟨head, runtime⟩)

/-- `retire_ready` after its poll. -/
def retireReady (destroy : ResourceDestroyReport ρ) : NativeOutput ρ :=
  let (report, retire, runtime) := out.runtime.drainPageFlipCallbacksWith destroy
  let head := out.head.observeCallbacks report
  ⟨retire.elim head head.observeRetire, runtime⟩

def retryCleanup (retried : ResourceDestroyReport ρ) : NativeOutput ρ :=
  { out with runtime := { out.runtime with
    state := out.runtime.state.retryTrackedOutputCleanup retried } }

def runtimeTick (engine : Except String Unit) : Except String Unit × NativeOutput ρ :=
  let (result, runtime) := out.runtime.runTick engine
  (result.map fun _ => (), { out with runtime := runtime })

/-- `initialize`: the blocking modeset of the first frame, whose buffer is adopted as displayed. -/
def initializeNative (checksum : UInt64) (modeset : Option ρ) :
    Except String Unit × NativeOutput ρ :=
  let head := out.head.queueFrame checksum
  match modeset.bind out.runtime.state.adoptPresented with
  | none => (.error "persistent native initial modeset failed", { out with head := head })
  | some state =>
    (.ok (), ⟨{ head with
        submissions := head.submissions + 1
        presentedChecksum := head.lastChecksum
        presentedSubmissions := head.submissions + 1
        presentedContent := head.pendingContent
        pendingContent := none },
      { out.runtime with state := state }⟩)

end NativeOutput

structure LiveProductionNativeScanout (ρ : Type) where
  groups : List LiveProductionNativeGroup
  outputs : List (NativeOutput ρ)
  deriving DecidableEq

namespace LiveProductionNativeScanout

variable (scanout : LiveProductionNativeScanout ρ)

def outOfBounds : String := "index out of bounds"

/-- Hands one callback of the card to the head of its output. -/
def routeCallback (scanout : LiveProductionNativeScanout ρ) (callback : LivePageFlipCallback) :
    Except String (LiveProductionNativeScanout ρ) :=
  match scanout.outputs.findIdx? (·.head.output = callback.output) with
  | none => .error "native callback referenced an unknown output"
  | some i =>
    match scanout.outputs[i]?.bind (·.trySend callback) with
    | none => .error "native output callback queue is full"
    | some out => .ok { scanout with outputs := scanout.outputs.set i out }

def pollGroupCallbacks (group : ℕ) (received : ReceiveEvents) :
    Except String Unit × LiveProductionNativeScanout ρ :=
  match scanout.groups[group]? with
  | none => (.error outOfBounds, scanout)
  | some g =>
    let (session, channel) := g.session.pollNativePageFlipEvents g.channel received 64 64
    let g' := ⟨session, channel.skip pageFlipQueueCapacity⟩
    Run.tryEach routeCallback channel.items { scanout with groups := scanout.groups.set group g' }

/-- One output acts without a poll. -/
def update (index : ℕ) (act : NativeOutput ρ → Except String Unit × NativeOutput ρ) :
    Except String Unit × LiveProductionNativeScanout ρ :=
  match scanout.outputs[index]? with
  | none => (.error outOfBounds, scanout)
  | some out =>
    let (result, out) := act out
    (result, { scanout with outputs := scanout.outputs.set index out })

/-- Polls the card of an output, then lets the output act on what has arrived. -/
def pollThen (index : ℕ) (received : ReceiveEvents)
    (act : NativeOutput ρ → Except String Unit × NativeOutput ρ) :
    Except String Unit × LiveProductionNativeScanout ρ :=
  match scanout.outputs[index]? with
  | none => (.error outOfBounds, scanout)
  | some out =>
    match scanout.pollGroupCallbacks out.head.group received with
    | (.error e, scanout) => (.error e, scanout)
    | (.ok _, scanout) => scanout.update index act

def runTick (index : ℕ) (received : ReceiveEvents) (env : TickEnv ρ) :
    Except String Unit × LiveProductionNativeScanout ρ :=
  scanout.pollThen index received (·.nativeTick env)

def retireReady (index : ℕ) (received : ReceiveEvents) (destroy : ResourceDestroyReport ρ) :
    Except String Unit × LiveProductionNativeScanout ρ :=
  scanout.pollThen index received fun out => (.ok (), out.retireReady destroy)

def runtimeTick (index : ℕ) (engine : Except String Unit) :
    Except String Unit × LiveProductionNativeScanout ρ :=
  scanout.update index (·.runtimeTick engine)

/-- One output in `run_cpu_production_cycle` or `run_cpu_repaint` with native scanout: a frame in
flight leaves the device alone. -/
def productionTick (index : ℕ) (received : ReceiveEvents) (env : TickEnv ρ) :
    Except String Unit × LiveProductionNativeScanout ρ :=
  match scanout.outputs[index]? with
  | none => (.error outOfBounds, scanout)
  | some out =>
    if out.runtime.inFlight then scanout.runtimeTick index env.engine
    else scanout.runTick index received env

end LiveProductionNativeScanout

/-- The calls that touch a native scanout. Those that poll a card say what the kernel returns. -/
inductive ScanoutAction (ρ : Type) where
  | initializeNative (index : ℕ) (checksum : UInt64) (modeset : Option ρ)
  | queueFrame (index : ℕ) (checksum : UInt64)
  | queueMixedFrame (index : ℕ) (transaction : TransactionId)
  | pollGroupCallbacks (group : ℕ) (received : ReceiveEvents)
  | runTick (index : ℕ) (received : ReceiveEvents) (env : TickEnv ρ)
  | retireReady (index : ℕ) (received : ReceiveEvents) (destroy : ResourceDestroyReport ρ)
  | retryCleanup (index : ℕ) (retried : ResourceDestroyReport ρ)
  | productionTick (index : ℕ) (received : ReceiveEvents) (env : TickEnv ρ)
  -- A tick without native scanout, and the observation tick.
  | runtimeTick (index : ℕ) (engine : Except String Unit)

namespace LiveProductionNativeScanout

/-- One call; an error keeps what was done before it. -/
def step (scanout : LiveProductionNativeScanout ρ) :
    ScanoutAction ρ → LiveProductionNativeScanout ρ
  | .initializeNative index checksum modeset =>
    (scanout.update index (·.initializeNative checksum modeset)).2
  | .queueFrame index checksum => (scanout.update index fun out =>
    (.ok (), { out with head := out.head.queueFrame checksum })).2
  | .queueMixedFrame index transaction => (scanout.update index fun out =>
    (.ok (), { out with head := out.head.queueMixedFrame transaction })).2
  | .pollGroupCallbacks group received => (scanout.pollGroupCallbacks group received).2
  | .runTick index received env => (scanout.runTick index received env).2
  | .retireReady index received destroy => (scanout.retireReady index received destroy).2
  | .retryCleanup index retried => (scanout.update index fun out =>
    (.ok (), out.retryCleanup retried)).2
  | .productionTick index received env => (scanout.productionTick index received env).2
  | .runtimeTick index engine => (scanout.runtimeTick index engine).2

/-- Freshly opened cards and outputs: nothing submitted, nothing received. -/
def fresh (groups : List PageFlipSession) (heads : List (ℕ × OutputId)) :
    LiveProductionNativeScanout ρ where
  groups := groups.map (⟨·, .empty⟩)
  outputs := heads.map fun h => .new h.1 h.2

end LiveProductionNativeScanout
end Sophia.Backend
