import Sophia.Lib.Channel
import Sophia.Protocol

/-! Page-flip events on their way from a DRM card to the callback intake of an output. -/
namespace Sophia.Backend

open Protocol

structure LivePageFlipCallback where
  output : OutputId
  frameSerial : UInt64
  deriving DecidableEq

inductive LivePageFlipCallbackDecision where
  | accepted
  | rejectedUnexpectedOutput
  | rejectedStaleFrameSerial
  deriving DecidableEq

inductive LivePageFlipEventStatus where
  | ready
  | idle
  | waitingForOutput
  | waitingForTransactionReadiness
  | presented
  | rejected
  | outputUnavailable
  | frameTargetUnavailable
  | invalidFrameTarget
  | frameTargetSizeMismatch
  | presentationUnavailable
  | degraded
  deriving DecidableEq

structure LivePageFlipEvent where
  status : LivePageFlipEventStatus
  frameSerial : Option UInt64
  deriving DecidableEq

structure LivePageFlipCallbackReport where
  decision : LivePageFlipCallbackDecision
  event : LivePageFlipEvent
  deriving DecidableEq

structure LivePageFlipCallbackIntake where
  expectedOutput : OutputId
  lastFrameSerial : Option UInt64
  deriving DecidableEq

def LivePageFlipCallbackIntake.observe (intake : LivePageFlipCallbackIntake)
    (callback : LivePageFlipCallback) : LivePageFlipCallbackReport × LivePageFlipCallbackIntake :=
  if callback.output ≠ intake.expectedOutput then
    (⟨.rejectedUnexpectedOutput, ⟨.waitingForOutput, none⟩⟩, intake)
  else if intake.lastFrameSerial.any (callback.frameSerial ≤ ·) then
    (⟨.rejectedStaleFrameSerial, ⟨.rejected, some callback.frameSerial⟩⟩, intake)
  else
    (⟨.accepted, ⟨.presented, some callback.frameSerial⟩⟩,
      { intake with lastFrameSerial := some callback.frameSerial })

structure LivePageFlipCallbackQueueReport where
  drained : ℕ := 0
  accepted : ℕ := 0
  rejectedUnexpectedOutput : ℕ := 0
  rejectedStaleFrameSerial : ℕ := 0
  lastAccepted : Option LivePageFlipCallbackReport := none
  maxReached : Bool := false
  deriving DecidableEq

namespace LivePageFlipCallbackQueueReport

def recordDecision (report : LivePageFlipCallbackQueueReport) :
    LivePageFlipCallbackDecision → LivePageFlipCallbackQueueReport
  | .accepted => { report with accepted := report.accepted + 1 }
  | .rejectedUnexpectedOutput =>
    { report with rejectedUnexpectedOutput := report.rejectedUnexpectedOutput + 1 }
  | .rejectedStaleFrameSerial =>
    { report with rejectedStaleFrameSerial := report.rejectedStaleFrameSerial + 1 }

/-- The report after one more callback was drained. -/
def record (report : LivePageFlipCallbackQueueReport) (callback : LivePageFlipCallbackReport) :
    LivePageFlipCallbackQueueReport :=
  let report := { report with drained := report.drained + 1 }
  let report := report.recordDecision callback.decision
  if callback.decision = .accepted then { report with lastAccepted := some callback } else report

end LivePageFlipCallbackQueueReport

/-- The body of `drain_ready_with` over the callbacks it receives. -/
def drainReadyWith {τ : Type*} (observe : τ → LivePageFlipCallback → LivePageFlipCallbackReport × τ) :
    List LivePageFlipCallback → LivePageFlipCallbackQueueReport → τ →
      LivePageFlipCallbackQueueReport × τ
  | [], report, t => (report, t)
  | callback :: rest, report, t =>
    let (callbackReport, t') := observe t callback
    drainReadyWith observe rest (report.record callbackReport) t'

structure LibdrmNativeOutputRoute where
  slot : UInt16
  output : OutputId
  deriving DecidableEq

structure LibdrmNativeCrtcRoute where
  crtc : UInt32
  slot : UInt16
  lastFrameSerial : UInt64
  deriving DecidableEq

def LibdrmNativeCrtcRoute.observeFrame (route : LibdrmNativeCrtcRoute) (nativeFrame : UInt32) :
    UInt64 × LibdrmNativeCrtcRoute :=
  let nextSerial := max (max nativeFrame.toUInt64 (saturatingAdd route.lastFrameSerial 1)) 1
  (nextSerial, { route with lastFrameSerial := nextSerial })

structure LibdrmNativePageFlipCallback where
  outputSlot : UInt16
  frameSerial : UInt64
  deriving DecidableEq

def LibdrmNativePageFlipCallback.decode (callback : LibdrmNativePageFlipCallback)
    (routes : List LibdrmNativeOutputRoute) : Option LivePageFlipCallback :=
  if callback.frameSerial = 0 then none
  else (routes.find? (·.slot = callback.outputSlot)).map fun route =>
    ⟨route.output, callback.frameSerial⟩

inductive DrmEvent where
  | pageFlip (crtc frame : UInt32)
  | other
  deriving DecidableEq

/-- What `receive_events` of the card returns. -/
inductive ReceiveEvents where
  | wouldBlock
  | failed
  | events (events : List DrmEvent)
  deriving DecidableEq

def reduceNativePageFlipEvent (crtc frame : UInt32) :
    List LibdrmNativeCrtcRoute → Option LibdrmNativePageFlipCallback × List LibdrmNativeCrtcRoute
  | [] => (none, [])
  | route :: routes =>
    if route.crtc = crtc then
      let (frameSerial, route') := route.observeFrame frame
      (some ⟨route.slot, frameSerial⟩, route' :: routes)
    else
      let (callback, routes') := reduceNativePageFlipEvent crtc frame routes
      (callback, route :: routes')

/-- The reader and the poller of one card. -/
structure PageFlipSession where
  crtcRoutes : List LibdrmNativeCrtcRoute
  routes : List LibdrmNativeOutputRoute
  pendingCallbacks : List LibdrmNativePageFlipCallback
  deriving DecidableEq

namespace PageFlipSession

def readEvent : PageFlipSession → DrmEvent → PageFlipSession
  | session, .pageFlip crtc frame =>
    let (callback, crtcRoutes) := reduceNativePageFlipEvent crtc frame session.crtcRoutes
    { session with
      crtcRoutes := crtcRoutes
      pendingCallbacks := session.pendingCallbacks ++ callback.toList }
  | session, .other => session

def readPageFlipEvents (session : PageFlipSession) (received : ReceiveEvents) (maxRead : ℕ) :
    PageFlipSession :=
  match received with
  | .wouldBlock | .failed => session
  | .events events => (events.take maxRead).foldl readEvent session

/-- Sends what decodes of the pending callbacks; a full channel keeps the rest pending. -/
def decodeBatch {capacity : ℕ} (routes : List LibdrmNativeOutputRoute) :
    ℕ → List LibdrmNativePageFlipCallback → SyncChannel capacity LivePageFlipCallback →
      List LibdrmNativePageFlipCallback × SyncChannel capacity LivePageFlipCallback
  | 0, pending, channel => (pending, channel)
  | _, [], channel => ([], channel)
  | n + 1, native :: pending, channel =>
    match native.decode routes with
    | none => decodeBatch routes n pending channel
    | some callback =>
      match channel.trySend callback with
      | none => (native :: pending, channel)
      | some channel' => decodeBatch routes n pending channel'

-- Events are read only when nothing is pending from an earlier read.
def pollNativePageFlipEvents {capacity : ℕ} (session : PageFlipSession)
    (channel : SyncChannel capacity LivePageFlipCallback) (received : ReceiveEvents)
    (maxRead maxEmit : ℕ) : PageFlipSession × SyncChannel capacity LivePageFlipCallback :=
  let session := if session.pendingCallbacks = [] then session.readPageFlipEvents received maxRead
    else session
  let (pending, channel) := decodeBatch session.routes maxEmit session.pendingCallbacks channel
  ({ session with pendingCallbacks := pending }, channel)

end PageFlipSession
end Sophia.Backend
