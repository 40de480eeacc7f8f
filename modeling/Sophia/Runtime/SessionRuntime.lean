import Sophia.Protocol.Portal
import Sophia.Backend.RenderedScanout

/-! The session runtime: events come in one at a time, each is answered with the next command. -/
namespace Sophia.Runtime

open Protocol
open Backend (RuntimeScanoutState)

inductive SupervisedProcessKind where
  | windowManager
  | portalBroker
  | metadataBroker
  | sophiaXAuthority
  deriving DecidableEq

inductive SessionRuntimePhase where
  | idle
  | pollingX
  | applyingWmPolicy
  | waitingForFrame
  | rendering
  | submittingScanout
  | drainingPortals
  | presentingChrome
  deriving DecidableEq

structure RuntimeBrokerHealth where
  state : BrokerHealthState
  generation : UInt64
  statusMessageLen : ℕ
  deriving DecidableEq

structure RuntimeAuthorityHealth where
  process : SupervisedProcessKind
  state : BrokerHealthState
  generation : UInt64
  statusMessageLen : ℕ
  deriving DecidableEq

structure SessionRuntimeState where
  phase : SessionRuntimePhase := .idle
  xEventsPolled : UInt64 := 0
  framesRendered : UInt64 := 0
  scanoutSubmissions : UInt64 := 0
  scanoutRetirements : UInt64 := 0
  scanoutRejections : UInt64 := 0
  inFlightScanouts : UInt64 := 0
  portalCommandsDrained : UInt64 := 0
  chromeCommandsPresented : UInt64 := 0
  wmRestartRequests : UInt64 := 0
  authorityTransactionsCommitted : UInt64 := 0
  authorityTransactionsRejected : UInt64 := 0
  authorityTransactionsTimedOut : UInt64 := 0
  authoritySurfacesApplied : UInt64 := 0
  slowClientTimeouts : UInt64 := 0
  slowClientPreserved : UInt64 := 0
  slowClientDegraded : UInt64 := 0
  lastFrameSerial : Option UInt64 := none
  lastScanoutFrameSerial : Option UInt64 := none
  lastScanoutState : Option RuntimeScanoutState := none
  portalBrokerHealth : Option RuntimeBrokerHealth := none
  metadataBrokerHealth : Option RuntimeBrokerHealth := none
  xAuthorityHealth : Option RuntimeAuthorityHealth := none
  deriving DecidableEq

inductive SessionRuntimeEvent where
  | tickStarted
  | xEventsPolled (count : UInt32)
  | wmLayoutReady
  | wmRestartRequested
  | frameScheduled (frameSerial : UInt64)
  | frameRendered (frameSerial : UInt64)
  | scanoutStateChanged (state : RuntimeScanoutState) (frameSerial : Option UInt64)
  | portalCommandsReady (count : UInt32)
  | chromeCommandsReady (count : UInt32)
  | brokerHealthChanged (broker : BrokerKind) (health : RuntimeBrokerHealth)
  | authorityProcessHealthChanged (health : RuntimeAuthorityHealth)
  | authorityTransactionObserved (outcome : TransactionOutcome) (appliedSurfaceCount : UInt32)
  | slowClientVisualDecisionsObserved (timeoutCount preservedCount degradedCount : UInt32)
  | tickCompleted
  deriving DecidableEq

inductive SessionRuntimeCommand where
  | none
  | pollXEvents
  | requestWmLayout
  | scheduleFrame
  | renderFrame (frameSerial : UInt64)
  | submitScanout (frameSerial : UInt64)
  | drainPortalCommands
  | presentChrome
  | restartWindowManager
  deriving DecidableEq

/-- `u64::saturating_sub(1)`. -/
def saturatingPred (n : UInt64) : UInt64 := if n = 0 then 0 else n - 1

theorem toNat_saturatingPred (n : UInt64) : (saturatingPred n).toNat = n.toNat - 1 := by
  unfold saturatingPred
  split
  · rename_i h
    simp [h]
  · rename_i h
    have hpos : n.toNat ≠ 0 := fun hz => h (UInt64.toNat_inj.mp hz)
    have hle : (1 : UInt64) ≤ n := by
      rw [UInt64.le_iff_toNat_le]
      simp only [UInt64.toNat_one]
      omega
    rw [UInt64.toNat_sub_of_le n 1 hle]
    rfl

def acceptsBrokerHealth (current : Option RuntimeBrokerHealth) (generation : UInt64) : Bool :=
  current.all (·.generation ≤ generation)

def acceptsAuthorityHealth (current : Option RuntimeAuthorityHealth) (generation : UInt64) :
    Bool :=
  current.all (·.generation ≤ generation)

namespace SessionRuntimeState

variable (state : SessionRuntimeState)

/-- The counters a scanout state moves. -/
def countScanout : RuntimeScanoutState → SessionRuntimeState
  | .submitted => { state with
      scanoutSubmissions := saturatingAdd state.scanoutSubmissions 1
      inFlightScanouts := saturatingAdd state.inFlightScanouts 1 }
  | .deferred => state
  | .retired => { state with
      scanoutRetirements := saturatingAdd state.scanoutRetirements 1
      inFlightScanouts := saturatingPred state.inFlightScanouts }
  -- A refused submit and an in-flight frame that failed are counted alike.
  | .rejected => { state with
      scanoutRejections := saturatingAdd state.scanoutRejections 1
      inFlightScanouts := saturatingPred state.inFlightScanouts }

def observeBrokerHealth (health : RuntimeBrokerHealth) : BrokerKind → SessionRuntimeState
  | .portal =>
    if acceptsBrokerHealth state.portalBrokerHealth health.generation then
      { state with portalBrokerHealth := some health }
    else state
  | .metadata =>
    if acceptsBrokerHealth state.metadataBrokerHealth health.generation then
      { state with metadataBrokerHealth := some health }
    else state

def countAuthorityOutcome : TransactionOutcome → SessionRuntimeState
  | .committed => { state with
      authorityTransactionsCommitted := saturatingAdd state.authorityTransactionsCommitted 1 }
  | .timedOut => { state with
      authorityTransactionsTimedOut := saturatingAdd state.authorityTransactionsTimedOut 1 }
  | .rejectedStaleSurface | .rejectedInvalidSurface => { state with
      authorityTransactionsRejected := saturatingAdd state.authorityTransactionsRejected 1 }

end SessionRuntimeState

def updateSessionRuntime (state : SessionRuntimeState) :
    SessionRuntimeEvent → SessionRuntimeState × SessionRuntimeCommand
  | .tickStarted => ({ state with phase := .pollingX }, .pollXEvents)
  | .xEventsPolled count =>
    let state := { state with xEventsPolled := saturatingAdd state.xEventsPolled count.toUInt64 }
    if count = 0 then ({ state with phase := .waitingForFrame }, .scheduleFrame)
    else ({ state with phase := .applyingWmPolicy }, .requestWmLayout)
  | .wmLayoutReady => ({ state with phase := .waitingForFrame }, .scheduleFrame)
  | .wmRestartRequested =>
    ({ state with
        wmRestartRequests := saturatingAdd state.wmRestartRequests 1
        phase := .applyingWmPolicy }, .restartWindowManager)
  | .frameScheduled frameSerial => ({ state with phase := .rendering }, .renderFrame frameSerial)
  | .frameRendered frameSerial =>
    ({ state with
        framesRendered := saturatingAdd state.framesRendered 1
        lastFrameSerial := some frameSerial
        phase := .submittingScanout }, .submitScanout frameSerial)
  | .scanoutStateChanged scanoutState frameSerial =>
    let answeringSubmit := state.phase = .submittingScanout
    let state := { state with
      lastScanoutState := some scanoutState
      lastScanoutFrameSerial := frameSerial }
    let state := state.countScanout scanoutState
    if answeringSubmit then ({ state with phase := .drainingPortals }, .drainPortalCommands)
    else (state, .none)
  | .portalCommandsReady count =>
    ({ state with
        portalCommandsDrained := saturatingAdd state.portalCommandsDrained count.toUInt64
        phase := .presentingChrome }, .presentChrome)
  | .chromeCommandsReady count =>
    ({ state with
        chromeCommandsPresented := saturatingAdd state.chromeCommandsPresented count.toUInt64
        phase := .idle }, .none)
  | .brokerHealthChanged broker health => (state.observeBrokerHealth health broker, .none)
  | .authorityProcessHealthChanged health =>
    if health.process = .sophiaXAuthority ∧
        acceptsAuthorityHealth state.xAuthorityHealth health.generation then
      ({ state with xAuthorityHealth := some health }, .none)
    else (state, .none)
  | .authorityTransactionObserved outcome appliedSurfaceCount =>
    let state := { state with
      authoritySurfacesApplied :=
        saturatingAdd state.authoritySurfacesApplied appliedSurfaceCount.toUInt64 }
    (state.countAuthorityOutcome outcome, .none)
  | .slowClientVisualDecisionsObserved timeoutCount preservedCount degradedCount =>
    ({ state with
        slowClientTimeouts := saturatingAdd state.slowClientTimeouts timeoutCount.toUInt64
        slowClientPreserved := saturatingAdd state.slowClientPreserved preservedCount.toUInt64
        slowClientDegraded := saturatingAdd state.slowClientDegraded degradedCount.toUInt64 },
      .none)
  | .tickCompleted => ({ state with phase := .idle }, .none)

namespace SessionRuntimeState

variable {state : SessionRuntimeState}

/-- Only a scanout report moves the number of frames in flight. -/
theorem inFlightScanouts_update {event : SessionRuntimeEvent}
    (h : ∀ scanoutState frameSerial, event ≠ .scanoutStateChanged scanoutState frameSerial) :
    (updateSessionRuntime state event).1.inFlightScanouts = state.inFlightScanouts := by
  cases event with
  | scanoutStateChanged scanoutState frameSerial => exact absurd rfl (h scanoutState frameSerial)
  | xEventsPolled count =>
    simp only [updateSessionRuntime]
    split <;> rfl
  | brokerHealthChanged broker health =>
    cases broker <;> simp only [updateSessionRuntime, observeBrokerHealth] <;> split <;> rfl
  | authorityProcessHealthChanged health =>
    simp only [updateSessionRuntime]
    split <;> rfl
  | authorityTransactionObserved outcome count => cases outcome <;> rfl
  | _ => rfl

theorem inFlightScanouts_scanoutStateChanged (scanoutState : RuntimeScanoutState)
    (frameSerial : Option UInt64) :
    (updateSessionRuntime state (.scanoutStateChanged scanoutState frameSerial)).1.inFlightScanouts
      = (state.countScanout scanoutState).inFlightScanouts := by
  simp only [updateSessionRuntime]
  split <;> cases scanoutState <;> rfl

end SessionRuntimeState
end Sophia.Runtime
