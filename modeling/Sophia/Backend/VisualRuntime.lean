import Sophia.Lib.Ordered
import Sophia.Engine.ProductionCoordinator
import Sophia.Backend.PresentScheduler

/-!
The production visual runtime: one committed vector, the latest transaction of every surface,
the Present queue with its resources, and everything the feedback sink has received.
-/
namespace Sophia.Backend

open Protocol Engine Renderer Std Ordered

inductive LivePresentCompletionMode where
  | flip
  | skip
  deriving DecidableEq

inductive LivePresentProtocolFeedback where
  | complete (transaction : TransactionId) (ust msc : UInt64) (mode : LivePresentCompletionMode)
  | idle (transaction : TransactionId)
  deriving DecidableEq

structure LivePresentFeedbackOutcome where
  feedback : LivePresentProtocolFeedback × LivePresentProtocolFeedback
  idleFenceTriggered : Bool
  deriving DecidableEq

def LivePresentFeedbackOutcome.of (transaction : TransactionId) (ust msc : UInt64)
    (mode : LivePresentCompletionMode) (retirement : LivePresentationRetirement) :
    LivePresentFeedbackOutcome where
  feedback := (.complete transaction ust msc mode, .idle transaction)
  idleFenceTriggered := retirement.idleFence = .triggered

inductive LiveTrackedRenderedPrimaryPlaneScanoutSubmitStatus where
  | submittedWaitingForPageFlip
  | scanoutTargetNotReady
  | frameTargetUnavailable
  | scanoutExportFailed
  | primaryPlaneSubmitFailed
  | alreadyInFlight
  | cleanupPending
  deriving DecidableEq

/-- What a native scanout answers: whether the primary output is blocked (or its lookup
failed), and the status of the KMS submit (or a failed output tick). -/
structure NativeScanoutReply where
  outputBlocked : Except RuntimeError Bool
  submit : Except RuntimeError (Option LiveTrackedRenderedPrimaryPlaneScanoutSubmitStatus)

/-- The answers of the environment during one runtime operation. -/
structure Env where
  intake : Os
  os : Os
  enqueuedAt : Instant
  polledAt : Instant
  native : Option NativeScanoutReply
  tick : Except RuntimeError Unit

structure LiveProductionVisualRuntime where
  committedSurfaces : List CommittedSurfaceState
  layers : ExtTreeMap SurfaceId SurfaceTransaction
  resources : LiveDmaBufPresentationRegistry
  scheduler : LiveProductionPresentScheduler
  feedback : List LivePresentFeedbackOutcome

def updateLayers (layers : ExtTreeMap SurfaceId SurfaceTransaction)
    (removedSurfaces : List SurfaceId) (transactions : List SurfaceTransaction) :
    ExtTreeMap SurfaceId SurfaceTransaction :=
  transactions.foldl (fun layers tx => layers.insert tx.surface tx)
    (layers.filter fun s _ => s ∉ removedSurfaces)

/-- The entry a surface is seeded with: no readiness check, no damage, no new generation. -/
def seedState (tx : SurfaceTransaction) : CommittedSurfaceState where
  surface := tx.surface
  committedGeneration := tx.previousCommittedGeneration
  geometry := tx.targetGeometry
  buffer := tx.targetBuffer
  damage := .empty

def seedMissingCommittedSurfaces (existing : List CommittedSurfaceState)
    (transactions : List SurfaceTransaction) : List CommittedSurfaceState :=
  let surfaces : ExtTreeMap SurfaceId CommittedSurfaceState :=
    existing.foldl (fun m state => m.insert state.surface state) ∅
  values (transactions.foldl (fun m tx => m.insertIfNew tx.surface (seedState tx)) surfaces)

/-- Some transaction of the batch names a surface that is not committed. -/
def namesUncommitted (transactions : List SurfaceTransaction)
    (committed : List CommittedSurfaceState) : Bool :=
  transactions.any fun tx => !committed.any fun state => state.surface = tx.surface

namespace LiveProductionVisualRuntime

variable (rt : LiveProductionVisualRuntime)

def withCommittedSurfaces (committed : List CommittedSurfaceState)
    (scheduler : LiveProductionPresentScheduler) : LiveProductionVisualRuntime :=
  ⟨committed, ∅, .withLimits {}, scheduler, []⟩

/-- The committed vector a batch is validated against. -/
def seededFor (layers : ExtTreeMap SurfaceId SurfaceTransaction)
    (transactions : List SurfaceTransaction) : List CommittedSurfaceState :=
  if namesUncommitted transactions rt.committedSurfaces then
    seedMissingCommittedSurfaces rt.committedSurfaces (values layers)
  else rt.committedSurfaces

def prepareAuthorityTransactions (transaction : TransactionId)
    (transactions : List SurfaceTransaction) (removedSurfaces : List SurfaceId) :
    TransactionCommit × LiveProductionVisualRuntime :=
  let layers := updateLayers rt.layers removedSurfaces transactions
  let intake : AuthorityTransactionIntake := ⟨transaction, transactions, removedSurfaces⟩
  let result := intake.commit (rt.seededFor layers transactions)
  (result.1, { rt with committedSurfaces := result.2, layers := layers })

-- The cycle inlines the statements of `prepareAuthorityTransactions`; composing and submitting
-- the frame comes after the commit and changes none of this state.
def runCpuProductionCycle (env : Env) (batch : LiveProductionAuthorityBatch) :
    Except RuntimeError TransactionCommit × LiveProductionVisualRuntime :=
  match observeAuthorityResources env.intake batch rt.resources with
  | (.error error, resources) => (.error error, { rt with resources := resources })
  | (.ok (), resources) =>
    let result := { rt with resources := resources }.prepareAuthorityTransactions
      batch.transaction batch.transactions batch.removedSurfaces
    (env.tick.map fun _ => result.1, result.2)

def routePresentFeedback (outcome : LivePresentFeedbackOutcome) : LiveProductionVisualRuntime :=
  { rt with feedback := rt.feedback ++ [outcome] }

def rejectGpuPresentation (os : Os) (transaction : TransactionId) (ust msc : UInt64) :
    LiveProductionVisualRuntime :=
  match rt.resources.reject (os transaction) transaction with
  | (none, resources) => { rt with resources := resources }
  | (some retirement, resources) =>
    { rt with resources := resources }.routePresentFeedback
      (.of transaction ust msc .skip retirement)

def popFront : LiveProductionVisualRuntime := { rt with scheduler := rt.scheduler.popFront }

/-- Whether the frame of a ready presentation can be assembled; its pixels are not modelled. -/
def buildMixedFrame (os : FdOracle) (transaction : TransactionId) :
    Except LiveBufferRegistryError Unit :=
  if rt.resources.state transaction ≠ some .ready then .error .acquireFencePending
  else match rt.resources.presentations[transaction]? with
    | none => .error .unknownPresentation
    | some p => match rt.resources.sources[p.source]? with
      | none => .error .unknownHandle
      | some source =>
        let planeError := (List.range source.descriptor.planeCount.toNat).findSome? fun index =>
          if source.descriptor.planes[index]?.join.isNone then
            some LiveBufferRegistryError.planeFdCountMismatch
          else match p.planeFds[index]? with
            | none => some .planeFdCountMismatch
            | some fd => if os.tryClone fd then none else some .fdCloneFailed
        match planeError with
        | some error => .error error
        | none => .ok ()

/-- The diagnostic run drops the presentation and every resource without feedback. -/
def diagnoseMixedFrame (os : Os) (transaction : TransactionId) : LiveProductionVisualRuntime :=
  let resources := (rt.resources.reject (os transaction) transaction).2
  { rt with
    resources := (resources.disconnect os).2
    scheduler := { rt.scheduler.popFront with diagnoseFirstMixedExport := false } }

/-- Submit the presentation at the front of the queue, whose gate is ready. -/
def submitFront (env : Env) (reply : NativeScanoutReply) (transaction : TransactionId) :
    Except RuntimeError Unit × LiveProductionVisualRuntime :=
  match rt.scheduler.queued with
  | [] => (.error .output, rt)
  | queued :: _ =>
    let prepared := prepareFullStatePresent transaction queued.transactions rt.committedSurfaces
    if !prepared.isReady then
      (env.tick, rt.popFront.rejectGpuPresentation env.os transaction 0 0)
    else match reply.outputBlocked with
      | .error error => (.error error, rt)
      | .ok true => (env.tick, rt)
      | .ok false => match rt.buildMixedFrame (env.os transaction) transaction with
        | .error error => (.error (.registry error), rt)
        | .ok () =>
          if rt.scheduler.diagnoseFirstMixedExport then
            (.error .mixedDiagnosticComplete, rt.diagnoseMixedFrame env.os transaction)
          else match reply.submit with
            | .error error => (.error error, rt)
            | .ok (some .submittedWaitingForPageFlip) =>
              match rt.resources.submit transaction with
              | .error error => (.error (.registry error), rt)
              | .ok resources =>
                (.ok (), { rt with
                  resources := resources
                  scheduler := { rt.scheduler.popFront with
                    submitted := some ⟨transaction, queued.surface, prepared⟩ } })
            | .ok (some .alreadyInFlight) | .ok (some .cleanupPending) | .ok none => (.ok (), rt)
            | .ok (some _) =>
              (.ok (), rt.popFront.rejectGpuPresentation env.os transaction 0 0)

def driveGpuPresentation (env : Env) : Except RuntimeError Unit × LiveProductionVisualRuntime :=
  match rt.scheduler.pollGate env.os env.polledAt rt.resources with
  | (.error error, scheduler, resources) =>
    (.error error, { rt with scheduler := scheduler, resources := resources })
  | (.ok gate, scheduler, resources) =>
    let rt := { rt with scheduler := scheduler, resources := resources }
    match gate with
    | .idle | .submittedInFlight | .waitingAcquire => (env.tick, rt)
    | .reject transaction => (env.tick, rt.rejectGpuPresentation env.os transaction 0 0)
    | .ready transaction => match env.native with
      | none => (env.tick, rt.popFront.rejectGpuPresentation env.os transaction 0 0)
      | some reply => rt.submitFront env reply transaction

def runBatch (env : Env) (batch : LiveProductionAuthorityBatch) :
    Except RuntimeError Unit × LiveProductionVisualRuntime :=
  match observeAuthorityResources env.intake batch rt.resources with
  | (.error error, resources) => (.error error, { rt with resources := resources })
  | (.ok (), resources) =>
    if batch.presentSubmissions ≠ [] then
      match rt.scheduler.enqueueBatch env.intake env.enqueuedAt batch resources with
      | (.error error, scheduler, resources) =>
        (.error error, { rt with scheduler := scheduler, resources := resources })
      | (.ok (), scheduler, resources) =>
        { rt with
          scheduler := scheduler
          resources := resources
          layers := updateLayers rt.layers batch.removedSurfaces batch.transactions
        }.driveGpuPresentation env
    else
      (env.tick, ({ rt with resources := resources }.prepareAuthorityTransactions
        batch.transaction batch.transactions batch.removedSurfaces).2)

def finalizeGpuPageFlip (os : Os) (ust msc : UInt64) :
    Except RuntimeError (Option (TransactionId × SurfaceId)) × LiveProductionVisualRuntime :=
  match rt.scheduler.submitted with
  | none => (.ok none, rt)
  | some submitted =>
    let applied := applyPreparedSurfaceCommit submitted.prepared rt.committedSurfaces
    let rt := { rt with
      committedSurfaces := applied.2
      scheduler := { rt.scheduler with submitted := none } }
    if applied.1.outcome ≠ .committed then (.error (.engineCommit applied.1), rt)
    else match rt.resources.retirePageFlip (os submitted.transaction) submitted.transaction with
      | (none, resources) =>
        (.error (.unknownPresentation submitted.transaction), { rt with resources := resources })
      | (some retirement, resources) =>
        (.ok (some (submitted.transaction, submitted.surface)),
          { rt with resources := resources }.routePresentFeedback
            (.of submitted.transaction ust msc .flip retirement))

/-- Drain the queue, rejecting each presentation in order. -/
def rejectQueued (os : Os) : LiveProductionVisualRuntime :=
  (rt.scheduler.queued.map (·.submission.transaction)).foldl
    (fun rt t => rt.rejectGpuPresentation os t 0 0)
    { rt with scheduler := { rt.scheduler with queued := [] } }

/-- Take the submitted presentation, if there is one, and reject it. -/
def rejectSubmitted (os : Os) : LiveProductionVisualRuntime :=
  match rt.scheduler.submitted with
  | none => rt
  | some submitted => { rt with
      scheduler := { rt.scheduler with submitted := none }
    }.rejectGpuPresentation os submitted.transaction 0 0

def shutdownPresentations (os : Os) :
    LivePresentationDisconnectReport × LiveProductionVisualRuntime :=
  let rt := (rt.rejectQueued os).rejectSubmitted os
  let disconnected := rt.resources.disconnect os
  (disconnected.1, { rt with resources := disconnected.2 })

def inputLayers : List LayerSnapshot :=
  (values rt.layers).zipIdx.map fun (tx, index) =>
    { surface := tx.surface
      authorityLocalId := none
      namespaceId := none
      stackRank := UInt32.ofNat (min index (UInt32.size - 1))
      geometry := tx.targetGeometry
      source := tx.targetBuffer
      damage := tx.damage
      opacity := 1
      crop := none
      transform := .identity
      generation := tx.previousCommittedGeneration
      resizeSync := .implicitOnly }

end LiveProductionVisualRuntime

/-- One operation of the session on the runtime. -/
inductive Action where
  | cpuCycle (env : Env) (batch : LiveProductionAuthorityBatch)
  | runBatch (env : Env) (batch : LiveProductionAuthorityBatch)
  | drive (env : Env)
  | pageFlip (os : Os) (ust msc : UInt64)
  | shutdown (os : Os)

def step (rt : LiveProductionVisualRuntime) : Action → LiveProductionVisualRuntime
  | .cpuCycle env batch => (rt.runCpuProductionCycle env batch).2
  | .runBatch env batch => (rt.runBatch env batch).2
  | .drive env => (rt.driveGpuPresentation env).2
  | .pageFlip os ust msc => (rt.finalizeGpuPageFlip os ust msc).2
  | .shutdown os => (rt.shutdownPresentations os).2

namespace Sample

def os : Os := fun _ => ⟨fun _ => true, fun _ => some true, fun _ => true⟩

/-- Every call succeeds and the primary output accepts the frame. -/
def env : Env where
  intake := os
  os := os
  enqueuedAt := 0
  polledAt := 0
  native := some ⟨.ok false, .ok (some .submittedWaitingForPageFlip)⟩
  tick := .ok ()

def descriptor (handle : BufferHandle) : DmaBufDescriptor where
  handle := handle
  size := ⟨8, 8⟩
  format := drmFormatXrgb8888
  modifier := 0
  planeCount := 1
  planes := #v[some ⟨0, 32⟩, none, none, none]

def drawBatch (t : TransactionId) (s : SurfaceId) (previous handle : UInt64) :
    LiveProductionAuthorityBatch where
  transaction := t
  transactions := [.draw t s previous handle]

def presentBatch (t : TransactionId) (s : SurfaceId) (previous : UInt64) (handle : BufferHandle) :
    LiveProductionAuthorityBatch where
  transaction := t
  transactions := [{ SurfaceTransaction.draw t s previous 0 with targetBuffer := .dmaBuf handle.raw }]
  presentSubmissions := [⟨t, s, handle, none, none⟩]

def destroyBatch (t : TransactionId) (s : SurfaceId) : LiveProductionAuthorityBatch where
  transaction := t
  transactions := []
  removedSurfaces := [s]

end Sample
end Sophia.Backend
