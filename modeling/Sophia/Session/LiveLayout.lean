import Sophia.Engine.LayoutTransaction
import Sophia.Engine.WmPolicy
import Sophia.Lib.Ordered
import Sophia.Session.ResizeTransaction

/-! The live layout: layers as the authority draws them, and one proposal waiting for its sizes. -/
namespace Sophia.Session

open Std Sophia.Protocol Sophia.Engine

structure XServerFrontendClientId where
  raw : UInt64
  deriving DecidableEq, Repr

/-- The part of an observed batch the layout reads. -/
structure XAuthorityObservedTransactionBatch where
  client : Option XServerFrontendClientId
  transactions : List SurfaceTransaction
  removedSurfaces : List SurfaceId
  deriving DecidableEq, Repr

abbrev XAuthorityClientSurfaceRoutes := ExtTreeMap SurfaceId XServerFrontendClientId

namespace XAuthorityClientSurfaceRoutes

def observe (routes : XAuthorityClientSurfaceRoutes) (batch : XAuthorityObservedTransactionBatch) :
    XAuthorityClientSurfaceRoutes :=
  let routes := batch.removedSurfaces.foldl (fun routes surface => routes.erase surface) routes
  match batch.client with
  | none => routes
  | some client => batch.transactions.foldl (fun routes t => routes.insert t.surface client) routes

def clientForSurface (routes : XAuthorityClientSurfaceRoutes) (surface : SurfaceId) :
    Option XServerFrontendClientId :=
  routes[surface]?

end XAuthorityClientSurfaceRoutes

inductive XAuthorityControlOutcome where
  | delivered
  | unknownSurface
  | invalidSize
  | authorityRejected
  | unsupportedProtocol
  deriving DecidableEq, Repr

structure XAuthorityControlAck where
  transaction : TransactionId
  surface : SurfaceId
  outcome : XAuthorityControlOutcome
  deriving DecidableEq, Repr

structure XAuthorityClientControlAck where
  client : XServerFrontendClientId
  acknowledgement : XAuthorityControlAck
  deriving DecidableEq, Repr

/-- The configure command of the control channel. -/
structure ConfigureSurface where
  client : XServerFrontendClientId
  transaction : TransactionId
  surface : SurfaceId
  size : Size
  deriving DecidableEq, Repr

/-- What the control channel does during one call: which sends it takes, and the acknowledgements
that arrive before the receiver times out. -/
structure Control where
  takes : ConfigureSurface → Bool
  acknowledgements : List XAuthorityClientControlAck

inductive LiveSessionError where
  | noClientRoute
  | controlChannel
  | acknowledgementTimeout
  | authorityRejected
  | rollback (error : RollbackError)
  | invalidPlacement
  | invalidSizeRequest
  | unknownFocusSurface
  | engineRejected (outcome : TransactionOutcome)
  | policy (error : WmPolicyError)
  | missingSurface
  | outputNotConfigured
  | transport
  | commandLimit
  | transactionIdsExhausted
  deriving DecidableEq, Repr

structure LiveWmCommitEffects where
  workspaceState : WmWorkspaceState
  transaction : TransactionId
  sessionAction : Option (WmSessionAction × Option SurfaceId)

structure LiveWmCommitResult where
  update : TransactionCommit
  effects : Option LiveWmCommitEffects

structure LiveWmProposal where
  transaction : TransactionId
  layers : List LayerSnapshot
  requestedSizes : ExtTreeMap SurfaceId Size
  focus : Option SurfaceId
  timeout : ℕ
  update : TransactionCommit
  effects : Option LiveWmCommitEffects

structure PendingLiveWmLayout where
  transaction : TransactionId
  layers : List LayerSnapshot
  requestedSizes : ExtTreeMap SurfaceId Size
  focus : Option SurfaceId
  deadline : ℕ
  update : TransactionCommit
  stagedTransactions : ExtTreeMap SurfaceId SurfaceTransaction
  effects : Option LiveWmCommitEffects

structure PersistentLiveLayout where
  layers : ExtTreeMap SurfaceId LayerSnapshot := ∅
  resize : ResizeRollbackCoordinator := {}
  clientRoutes : XAuthorityClientSurfaceRoutes := ∅
  unmanagedSurfaces : ExtTreeSet SurfaceId := ∅
  pending : Option PendingLiveWmLayout := none
  focusToApply : Option (TransactionId × SurfaceId) := none
  stageNewSurfacesOffset : Bool := false
  centerFirstSurfaceIn : Option Size := none

/-- The size a transaction draws its surface at. -/
def drawnSize (transaction : SurfaceTransaction) : Size :=
  ⟨transaction.targetGeometry.width, transaction.targetGeometry.height⟩

def drawnGeneration (transaction : SurfaceTransaction) : UInt64 :=
  saturatingAdd transaction.previousCommittedGeneration 1

def drawLayer (transaction : SurfaceTransaction) (layer : LayerSnapshot) : LayerSnapshot :=
  { layer with
    source := transaction.targetBuffer
    damage := transaction.damage
    generation := drawnGeneration transaction }

def sizeLayer (size : Size) (layer : LayerSnapshot) : LayerSnapshot :=
  { layer with geometry := { layer.geometry with width := size.width, height := size.height } }

def centerGeometryWithoutScaling (geometry : Rect) (output : Size) : Rect :=
  { geometry with
    x := max (saturateInt32 (output.width.toInt - geometry.width.toInt)) 0 / 2
    y := max (saturateInt32 (output.height.toInt - geometry.height.toInt)) 0 / 2 }

/-- What became of one transaction of a batch. -/
inductive Observation where
  | fenced
  | staged
  | drawn
  | created
  deriving DecidableEq, Repr

namespace PersistentLiveLayout

def new (stageNewSurfacesOffset : Bool) (centerFirstSurfaceIn : Option Size) :
    PersistentLiveLayout :=
  { stageNewSurfacesOffset, centerFirstSurfaceIn }

def removeSurfaces (layout : PersistentLiveLayout) (removed : List SurfaceId) :
    PersistentLiveLayout :=
  if removed.isEmpty then layout
  else { layout with
    layers := layout.layers.filter fun surface _ => surface ∉ removed
    resize := removed.foldl ResizeRollbackCoordinator.remove layout.resize
    unmanagedSurfaces := layout.unmanagedSurfaces.filter fun surface => surface ∉ removed
    focusToApply :=
      if layout.focusToApply.any fun (_, surface) => surface ∈ removed then none
      else layout.focusToApply
    pending := layout.pending.map fun pending => { pending with
      layers := pending.layers.filter fun layer => layer.surface ∉ removed
      requestedSizes := pending.requestedSizes.filter fun surface _ => surface ∉ removed
      focus := if pending.focus.any fun surface => surface ∈ removed then none
        else pending.focus } }

/-- The geometry a new surface starts at; only the first one is ever centered. -/
def newSurfaceGeometry (layout : PersistentLiveLayout) (geometry : Rect) : Rect × Option Size :=
  if layout.stageNewSurfacesOffset then
    ({ geometry with
      x := saturateInt32 (geometry.x.toInt + 80)
      y := saturateInt32 (geometry.y.toInt + 60) }, layout.centerFirstSurfaceIn)
  else match layout.centerFirstSurfaceIn with
    | some output => (centerGeometryWithoutScaling geometry output, none)
    | none => (geometry, none)

def newLayer (geometry : Rect) (index : ℕ) (transaction : SurfaceTransaction) : LayerSnapshot where
  surface := transaction.surface
  authorityLocalId := none
  namespaceId := none
  stackRank := UInt32.ofNat (min index (UInt32.size - 1))
  geometry := geometry
  source := transaction.targetBuffer
  damage := transaction.damage
  opacity := 1
  crop := none
  transform := .identity
  generation := drawnGeneration transaction
  resizeSync := .implicitOnly

/-- A transaction at the size the pending proposal asked for goes to the proposal's copy only. -/
def stageTransaction (pending : PendingLiveWmLayout) (transaction : SurfaceTransaction) :
    PendingLiveWmLayout :=
  { pending with
    stagedTransactions := pending.stagedTransactions.insert transaction.surface transaction
    layers := pending.layers.modify
      (pending.layers.findIdx fun layer => layer.surface = transaction.surface)
      (drawLayer transaction) }

def awaitedBy (pending : PendingLiveWmLayout) (transaction : SurfaceTransaction) : Bool :=
  pending.requestedSizes[transaction.surface]? = some (drawnSize transaction)

/-- A transaction that is not awaited is drawn on the live layers. -/
def drawTransaction (layout : PersistentLiveLayout) (index : ℕ) (transaction : SurfaceTransaction) :
    Observation × PersistentLiveLayout :=
  let layout := { layout with
    resize := layout.resize.recordCommitted transaction.surface (drawnSize transaction) }
  match layout.layers[transaction.surface]? with
  | some layer =>
    (.drawn, { layout with
      layers := layout.layers.insert transaction.surface (drawLayer transaction layer) })
  | none =>
    let (geometry, centerFirstSurfaceIn) := layout.newSurfaceGeometry transaction.targetGeometry
    (.created, { layout with
      unmanagedSurfaces := layout.unmanagedSurfaces.insert transaction.surface
      centerFirstSurfaceIn
      layers := layout.layers.insert transaction.surface (newLayer geometry index transaction) })

def observeTransaction (layout : PersistentLiveLayout) (index : ℕ)
    (transaction : SurfaceTransaction) : Observation × PersistentLiveLayout :=
  match layout.resize.acceptObservation transaction.surface (drawnSize transaction) with
  | (false, _) => (.fenced, layout)
  | (true, resize) =>
    let layout := { layout with resize }
    match layout.pending with
    | some pending =>
      if awaitedBy pending transaction then
        (.staged, { layout with pending := some (stageTransaction pending transaction) })
      else layout.drawTransaction index transaction
    | none => layout.drawTransaction index transaction

def observeTransactions (layout : PersistentLiveLayout) :
    List (SurfaceTransaction × ℕ) →
      List (SurfaceTransaction × Observation) × PersistentLiveLayout
  | [] => ([], layout)
  | (transaction, index) :: rest =>
    let (observation, layout) := layout.observeTransaction index transaction
    let (observations, layout) := layout.observeTransactions rest
    ((transaction, observation) :: observations, layout)

/-- The new surfaces are those observed as created. -/
def observeAuthorityBatch (layout : PersistentLiveLayout)
    (batch : XAuthorityObservedTransactionBatch) :
    List (SurfaceTransaction × Observation) × PersistentLiveLayout :=
  let layout := { layout with clientRoutes := layout.clientRoutes.observe batch }
  (layout.removeSurfaces batch.removedSurfaces).observeTransactions batch.transactions.zipIdx

def takeNextUnmanagedSurface (layout : PersistentLiveLayout) :
    Option SurfaceId × PersistentLiveLayout :=
  match layout.unmanagedSurfaces.toList.head? with
  | none => (none, layout)
  | some surface =>
    (some surface, { layout with unmanagedSurfaces := layout.unmanagedSurfaces.erase surface })

/-- Sends the configures of one transaction and waits for as many acknowledgements. -/
def configure (routes : XAuthorityClientSurfaceRoutes) (transaction : TransactionId)
    (requests : List (SurfaceId × Size)) (expected : ℕ) (control : Control) :
    Except LiveSessionError Unit := do
  requests.forM fun (surface, size) =>
    match routes.clientForSurface surface with
    | none => .error .noClientRoute
    | some client =>
      if control.takes { client, transaction, surface, size } then .ok ()
      else .error .controlChannel
  (List.range expected).forM fun index =>
    match control.acknowledgements[index]? with
    | none => .error .acknowledgementTimeout
    | some ack =>
      if ack.acknowledgement.transaction ≠ transaction ∨
          ack.acknowledgement.outcome ≠ .delivered ∨
          routes.clientForSurface ack.acknowledgement.surface ≠ some ack.client then
        .error .authorityRejected
      else .ok ()

def commitPending (layout : PersistentLiveLayout) (pending : PendingLiveWmLayout) :
    LiveWmCommitResult × PersistentLiveLayout :=
  ({ update := pending.update, effects := pending.effects },
    { layout with
      resize := (Ordered.values pending.stagedTransactions).foldl
        (fun resize transaction =>
          resize.recordCommitted transaction.surface (drawnSize transaction)) layout.resize
      layers := ExtTreeMap.ofList (pending.layers.map fun layer => (layer.surface, layer))
      focusToApply := match pending.focus with
        | some surface => some (pending.transaction, surface)
        | none => layout.focusToApply })

/-- A refused size is replaced by the committed one in the proposal's layer. -/
def restoreRefused (resize : ResizeRollbackCoordinator) (layers : List LayerSnapshot) :
    SurfaceId × Size → List LayerSnapshot
  | (surface, size) =>
    if resize.requestAllowed surface size then layers
    else match resize.committedSize surface with
      | none => layers
      | some committed =>
        layers.modify (layers.findIdx fun layer => layer.surface = surface) (sizeLayer committed)

def proposedLayout (proposal : LiveWmProposal) (deadline : ℕ) : PendingLiveWmLayout where
  transaction := proposal.transaction
  layers := proposal.layers
  requestedSizes := proposal.requestedSizes
  focus := proposal.focus
  deadline := deadline
  update := proposal.update
  stagedTransactions := ∅
  effects := proposal.effects

/-- The proposal without the sizes that are refused or already committed. -/
def reduceProposal (layout : PersistentLiveLayout) (proposal : LiveWmProposal) : LiveWmProposal :=
  { proposal with
    layers := proposal.requestedSizes.toList.foldl (restoreRefused layout.resize) proposal.layers
    requestedSizes := proposal.requestedSizes.filter fun surface size =>
      layout.resize.committedSize surface ≠ some size ∧
        layout.resize.requestAllowed surface size = true }

def stage (layout : PersistentLiveLayout) (proposal : LiveWmProposal) (control : Control)
    (now : ℕ) : Except LiveSessionError (Option LiveWmCommitResult × PersistentLiveLayout) :=
  if layout.pending.isSome then .ok (none, layout)
  else do
    let proposal := layout.reduceProposal proposal
    configure layout.clientRoutes proposal.transaction proposal.requestedSizes.toList
      proposal.requestedSizes.size control
    let ready := proposal.requestedSizes.toList.all fun (surface, size) =>
      decide (layout.resize.committedSize surface = some size)
    if ready then
      let committed := layout.commitPending (proposedLayout proposal now)
      .ok (some committed.1, committed.2)
    else
      .ok (none, { layout with
        pending := some (proposedLayout proposal (now + proposal.timeout)) })

/-- Every requested size has been drawn by the transaction staged last for its surface. -/
def pendingReady (pending : PendingLiveWmLayout) : Bool :=
  pending.requestedSizes.toList.all fun (surface, size) =>
    pending.stagedTransactions[surface]?.any fun transaction => drawnSize transaction = size

def resolvePending (layout : PersistentLiveLayout) :
    Option LiveWmCommitResult × PersistentLiveLayout :=
  match layout.pending with
  | none => (none, layout)
  | some pending =>
    if pendingReady pending then
      let committed := { layout with pending := none }.commitPending pending
      (some committed.1, committed.2)
    else (none, layout)

def expirePending (layout : PersistentLiveLayout) (control : Control) (now : ℕ) :
    Except LiveSessionError (Option LiveWmCommitResult) × PersistentLiveLayout :=
  match layout.pending with
  | none => (.ok none, layout)
  | some pending =>
    if now < pending.deadline then (.ok none, layout)
    else match layout.resize.beginRollback pending.requestedSizes.toList with
      | (.error error, resize) => (.error (.rollback error), { layout with pending := none, resize })
      | (.ok rollback, resize) =>
        let layout := { layout with pending := none, resize }
        let transaction := (rollback.head?.map ResizeRollbackRequest.transaction).getD
          pending.transaction
        match configure layout.clientRoutes transaction
            (rollback.map fun request => (request.surface, request.size))
            pending.requestedSizes.size control with
        | .error error => (.error error, layout)
        | .ok () =>
          (.ok (some {
            update := {
              transaction := pending.transaction
              outcome := .timedOut
              appliedSurfaces := [] }
            effects := none }),
            { layout with focusToApply := match pending.focus with
              | some surface => some (pending.transaction, surface)
              | none => layout.focusToApply })

end PersistentLiveLayout

def rectIsWithin (bounds geometry : Rect) : Bool :=
  match checkedAddInt32 bounds.x bounds.width, checkedAddInt32 bounds.y bounds.height,
      checkedAddInt32 geometry.x geometry.width, checkedAddInt32 geometry.y geometry.height with
  | some boundsRight, some boundsBottom, some right, some bottom =>
    bounds.x ≤ geometry.x && bounds.y ≤ geometry.y && right ≤ boundsRight && bottom ≤ boundsBottom
  | _, _, _, _ => false

def validateLiveWmTransaction (transaction : LayoutTransaction Transform)
    (layout : PersistentLiveLayout) (bounds : Rect) : Except LiveSessionError Unit :=
  if !transaction.renderPositions.all fun placement =>
      layout.layers.contains placement.surface && !placement.geometry.isEmpty &&
        rectIsWithin bounds placement.geometry then .error .invalidPlacement
  else if !transaction.requestedSizes.all fun request =>
      layout.layers.contains request.surface && 0 < request.size.width &&
        0 < request.size.height && request.size.width ≤ 65535 && request.size.height ≤ 65535 then
    .error .invalidSizeRequest
  else if transaction.focus.any fun surface => !layout.layers.contains surface then
    .error .unknownFocusSurface
  else .ok ()

/-- The proposal a validated layout transaction makes of the current layers. -/
def proposeLayout (layout : PersistentLiveLayout) (transaction : LayoutTransaction Transform)
    (bounds : Rect) (effects : Option LiveWmCommitEffects) :
    Except LiveSessionError LiveWmProposal := do
  validateLiveWmTransaction transaction layout bounds
  let (commit, proposed) := commitLayoutTransaction transaction (Ordered.values layout.layers)
  if commit.outcome ≠ .committed then .error (.engineRejected commit.outcome)
  else .ok {
    transaction := transaction.transaction
    layers := proposed
    requestedSizes := ExtTreeMap.ofList
      (transaction.requestedSizes.map fun request => (request.surface, request.size))
    focus := transaction.focus
    timeout := max 100 (min transaction.timeoutMsec.toNat 2000)
    update := commit
    effects }

/-- The proposal of the resize proof: the first surface at another size. -/
def proposeResize (layout : PersistentLiveLayout) (size : Size) : Option LiveWmProposal :=
  layout.layers.keys.head?.map fun surface =>
    let layers := Ordered.values layout.layers
    { transaction := .fromRaw 2000000
      layers := layers.modify (layers.findIdx fun layer => layer.surface = surface) (sizeLayer size)
      requestedSizes := (∅ : ExtTreeMap SurfaceId Size).insert surface size
      focus := none
      timeout := 2000
      update := ⟨.fromRaw 2000000, .committed, [surface]⟩
      effects := none }

end Sophia.Session
