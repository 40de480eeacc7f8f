import Sophia.Lib.Run
import Sophia.Authority.Clipboard
import Sophia.Authority.Properties

/-! The X authority runtime: requests of every namespace against one set of tables. -/
namespace Sophia.Authority

open Std Sophia.Protocol Sophia.Portal

inductive XDrawingUpdateKind where
  | presentPixmap
  | shmPutImage
  | coreDraw
  deriving DecidableEq, Repr

structure XDrawingUpdate where
  transaction : TransactionId
  requesterNamespace : NamespaceId
  targetWindow : XResourceId
  kind : XDrawingUpdateKind
  buffer : BufferSource
  damage : Region
  previousCommittedGeneration : UInt64
  timeoutMsec : UInt32
  deriving DecidableEq, Repr

def surfaceTransactionFromDrawingUpdate (windows : XWindowTable) (update : XDrawingUpdate) :
    Except XAuthorityAccessError SurfaceTransaction :=
  if !update.transaction.isValid then .error .invalidResource
  else if !update.requesterNamespace.isValid then .error .invalidNamespace
  else if !update.targetWindow.isValid then .error .invalidResource
  else if update.buffer = .none then .error .invalidResource
  else match windows.get update.targetWindow with
    | none => .error .unknownResource
    | some window =>
      if window.namespaceId ≠ update.requesterNamespace then .error .crossNamespaceDenied
      else if !window.surface.isValid then .error .invalidSurface
      else .ok
        { transaction := update.transaction
          authority := .sophiaX
          surface := window.surface
          namespaceId := some window.namespaceId
          targetGeometry := window.geometry
          targetBuffer := update.buffer
          damage := update.damage
          readiness := .ready
          timeoutMsec := update.timeoutMsec
          previousCommittedGeneration := update.previousCommittedGeneration }

inductive XAuthorityRequestKind where
  | createWindow (window : XResourceId) (surface : SurfaceId) (geometry : Rect)
      (constraints : SurfaceConstraints) (generation : UInt64)
  | mapWindow (window : XResourceId) (generation : UInt64)
  | presentPixmap (window : XResourceId) (pixmap : UInt32) (damage : Region)
      (previousCommittedGeneration : UInt64) (timeoutMsec : UInt32)
  | setSelectionOwner (selection : UInt32) (owner : Option XResourceId)
      (timestamp selectionTimestamp : UInt32) (kind : XSelectionChangeKind)
  | requestSelection (request : XSelectionRequest) (transfer : PortalTransferId)
  deriving DecidableEq, Repr

structure XAuthorityRequestPacket where
  transaction : TransactionId
  namespaceId : NamespaceId
  kind : XAuthorityRequestKind
  deriving DecidableEq, Repr

inductive XAuthorityRuntimeError where
  | invalidResource
  | invalidNamespace
  | invalidSurface
  | unknownResource
  | wrongResourceKind
  | crossNamespaceDenied
  | staleGeneration
  | unknownRequestorNamespace
  | unknownSourceOwner
  | missingSourceNamespace
  | sameNamespace
  | portalRejected
  deriving DecidableEq, Repr

def XAuthorityAccessError.toRuntime : XAuthorityAccessError → XAuthorityRuntimeError
  | .invalidResource => .invalidResource
  | .invalidNamespace => .invalidNamespace
  | .invalidSurface => .invalidSurface
  | .unknownResource => .unknownResource
  | .wrongResourceKind => .wrongResourceKind
  | .crossNamespaceDenied => .crossNamespaceDenied
  | .staleGeneration => .staleGeneration

def ClipboardSelectionRequestError.toRuntime :
    ClipboardSelectionRequestError → XAuthorityRuntimeError
  | .unknownRequestorNamespace => .unknownRequestorNamespace
  | .unknownSourceOwner => .unknownSourceOwner
  | .missingSourceNamespace => .missingSourceNamespace
  | .sameNamespace => .sameNamespace
  | .portal _ => .portalRejected

inductive XAuthorityPortalCommand where
  | promptClipboardTransfer (transfer : PortalTransfer)
  | failSelection (transfer : PortalTransferId)
  | handoffClipboard (transfer : PortalTransferId)
  deriving DecidableEq, Repr

def XAuthorityPortalCommand.fromPortalCommand : PortalCommand → Option XAuthorityPortalCommand
  | .promptClipboardTransfer transfer => some (.promptClipboardTransfer transfer)
  | .failSelection transfer => some (.failSelection transfer)
  | .handoffClipboard transfer => some (.handoffClipboard transfer)
  | _ => none

inductive XAuthoritySelectionArtifact where
  | failure (failure : ClipboardSelectionFailure)
  | request (request : ClipboardSelectionOwnerRequest)
  | clear (owner : XResourceId) (selection : UInt32) (time : UInt32)
  deriving DecidableEq, Repr

inductive XAuthorityResponseOutcome where
  | accepted
  | rejected (error : XAuthorityRuntimeError)
  deriving DecidableEq, Repr

structure XAuthorityResponsePacket where
  transaction : TransactionId
  outcome : XAuthorityResponseOutcome
  surfaces : List AuthoritySurface := []
  removedSurfaces : List SurfaceId := []
  transactions : List SurfaceTransaction := []
  portalCommands : List XAuthorityPortalCommand := []
  selectionArtifacts : List XAuthoritySelectionArtifact := []
  deriving DecidableEq, Repr

/-- What the runtime keeps of windows, selections and clipboard transfers. -/
structure XAuthorityRuntime where
  resources : XResourceTable
  windows : XWindowTable
  selections : XSelectionMonitor
  clipboard : ClipboardPortal
  pendingClipboard : ExtTreeMap PortalTransferId PendingClipboardSelection
  clipboardProxies : ExtTreeMap XResourceId ClipboardSelectionProxy
  nextClipboardProxy : UInt32

namespace XAuthorityRuntime

def new : XAuthorityRuntime where
  resources := ⟨∅⟩
  windows := ⟨∅⟩
  selections := .new
  clipboard := .new
  pendingClipboard := ∅
  clipboardProxies := ∅
  nextClipboardProxy := 0

section Requests

abbrev Answer := Except XAuthorityRuntimeError XAuthorityResponsePacket × XAuthorityRuntime

/-- A request that leaves the runtime alone when it is refused. -/
def answer (runtime : XAuthorityRuntime)
    (result : Except XAuthorityRuntimeError (XAuthorityResponsePacket × XAuthorityRuntime)) :
    Answer :=
  match result with
  | .error error => (.error error, runtime)
  | .ok (response, runtime) => (.ok response, runtime)

-- The resource record stays behind when the window table refuses the new window.
def createWindow (runtime : XAuthorityRuntime) (transaction : TransactionId) (ns : NamespaceId)
    (window : XResourceId) (surface : SurfaceId) (geometry : Rect)
    (constraints : SurfaceConstraints) (generation : UInt64) : Answer :=
  match runtime.resources.insert window .window ns generation with
  | .error error => (.error error.toRuntime, runtime)
  | .ok resources =>
    match runtime.windows.apply (.created window surface ns geometry constraints generation) with
    | .error error => (.error error.toRuntime, { runtime with resources })
    | .ok (surface, windows) =>
      (.ok { transaction, outcome := .accepted, surfaces := surface.toList },
        { runtime with resources, windows })

def mapWindow (runtime : XAuthorityRuntime) (transaction : TransactionId) (ns : NamespaceId)
    (window : XResourceId) :
    Except XAuthorityRuntimeError (XAuthorityResponsePacket × XAuthorityRuntime) := do
  let _ ← (runtime.resources.lookup ns window .window).mapError (·.toRuntime)
  let mapped ← (runtime.windows.apply (.mapped window)).mapError (·.toRuntime)
  return ({ transaction, outcome := .accepted, surfaces := mapped.1.toList },
    { runtime with windows := mapped.2 })

/-- Every drawing request ends here: a transaction for the engine and a new window generation. -/
def finishDrawingUpdate (runtime : XAuthorityRuntime) (update : XDrawingUpdate) :
    Except XAuthorityRuntimeError (XAuthorityResponsePacket × XAuthorityRuntime) := do
  let transaction ←
    (surfaceTransactionFromDrawingUpdate runtime.windows update).mapError (·.toRuntime)
  let windows ← (runtime.windows.advanceGeneration update.targetWindow
    update.previousCommittedGeneration).mapError (·.toRuntime)
  return ({ transaction := update.transaction, outcome := .accepted,
            transactions := [transaction] }, { runtime with windows })

def setSelectionOwner (runtime : XAuthorityRuntime) (transaction : TransactionId)
    (ns : NamespaceId) (event : XSelectionEvent) :
    Except XAuthorityRuntimeError (XAuthorityResponsePacket × XAuthorityRuntime) := do
  let _ ← event.owner.elim (.ok ()) fun owner =>
    ((runtime.resources.lookup ns owner .window).map fun _ => ()).mapError (·.toRuntime)
  let applied := runtime.selections.applyEvent event runtime.windows
  let cleared := (applied.1.previous.bind (·.owner)).filter fun owner => some owner ≠ event.owner
  return ({ transaction, outcome := .accepted,
            selectionArtifacts := cleared.toList.map fun owner =>
              .clear owner event.selection event.timestamp },
    { runtime with selections := applied.2 })

/-- What the answer to a selection request does to the runtime. -/
def dispatched (runtime : XAuthorityRuntime) (transaction : TransactionId) (ns : NamespaceId)
    (transfer : PortalTransferId) (clipboard : ClipboardPortal) :
    ClipboardSelectionDispatch → XAuthorityResponsePacket × XAuthorityRuntime
  | .sameNamespace request =>
    ({ transaction, outcome := .accepted, selectionArtifacts := [.request request] },
      { runtime with clipboard })
  | .crossNamespace portalRequest command =>
    ({ transaction, outcome := .accepted,
       portalCommands := (XAuthorityPortalCommand.fromPortalCommand command).toList },
      { runtime with
        clipboard
        pendingClipboard := runtime.pendingClipboard.insert transfer
          { namespaceId := ns, portalRequest, byteOrder := .littleEndian } })

def requestSelection (runtime : XAuthorityRuntime) (transaction : TransactionId)
    (ns : NamespaceId) (request : XSelectionRequest) (transfer : PortalTransferId) :
    Except XAuthorityRuntimeError (XAuthorityResponsePacket × XAuthorityRuntime) := do
  let _ ← (runtime.resources.lookup ns request.requestor .window).mapError (·.toRuntime)
  let dispatch ← (dispatchClipboardSelectionRequest request runtime.selections runtime.windows
    transfer runtime.clipboard).mapError (·.toRuntime)
  return runtime.dispatched transaction ns transfer dispatch.2 dispatch.1

def applyChecked (runtime : XAuthorityRuntime) (request : XAuthorityRequestPacket) : Answer :=
  match request.kind with
  | .createWindow window surface geometry constraints generation =>
    runtime.createWindow request.transaction request.namespaceId window surface geometry
      constraints generation
  | .mapWindow window _ =>
    runtime.answer (runtime.mapWindow request.transaction request.namespaceId window)
  | .presentPixmap window pixmap damage previousCommittedGeneration timeoutMsec =>
    runtime.answer (runtime.finishDrawingUpdate
      { transaction := request.transaction, requesterNamespace := request.namespaceId,
        targetWindow := window, kind := .presentPixmap, buffer := .xPixmap pixmap, damage,
        previousCommittedGeneration, timeoutMsec })
  | .setSelectionOwner selection owner timestamp selectionTimestamp kind =>
    runtime.answer (runtime.setSelectionOwner request.transaction request.namespaceId
      { selection, owner, timestamp, selectionTimestamp, kind })
  | .requestSelection selection transfer =>
    runtime.answer (runtime.requestSelection request.transaction request.namespaceId selection
      transfer)

/-- The failure notify a refused selection request is answered with. -/
def refusal (request : XAuthorityRequestPacket) : List XAuthoritySelectionArtifact :=
  match request.kind with
  | .requestSelection selection transfer =>
    [.failure (clipboardSelectionFailureNotify
      { transfer, requestor := selection.requestor, selection := selection.selection,
        target := selection.target, time := selection.time })]
  | _ => []

def apply (runtime : XAuthorityRuntime) (request : XAuthorityRequestPacket) :
    XAuthorityResponsePacket × XAuthorityRuntime :=
  match runtime.applyChecked request with
  | (.ok response, runtime) => (response, runtime)
  | (.error error, runtime) =>
    ({ transaction := request.transaction, outcome := .rejected error,
       selectionArtifacts := refusal request }, runtime)

end Requests

section Windows

def configureWindowGeometry (runtime : XAuthorityRuntime) (ns : NamespaceId)
    (window : XResourceId) (x y : Option Int16) (width height : Option UInt16) :
    Except XAuthorityRuntimeError XAuthorityRuntime := do
  let _ ← (runtime.resources.lookup ns window .window).mapError (·.toRuntime)
  let configured ←
    (runtime.windows.apply (.configured window x y width height)).mapError (·.toRuntime)
  return { runtime with windows := configured.2 }

def mapNamespaceWindow (windows : XWindowTable) (window : XResourceId) :
    Except XAuthorityRuntimeError XWindowTable :=
  ((windows.apply (.mapped window)).map Prod.snd).mapError (·.toRuntime)

def mapNamespaceWindows (runtime : XAuthorityRuntime) (ns : NamespaceId) :
    Except XAuthorityRuntimeError Unit × XAuthorityRuntime :=
  let mapped := Run.tryEach mapNamespaceWindow (runtime.windows.idsForNamespace ns) runtime.windows
  (mapped.1, { runtime with windows := mapped.2 })

def destroyWindow (runtime : XAuthorityRuntime) (ns : NamespaceId) (window : XResourceId) :
    Except XAuthorityRuntimeError (SurfaceId × XAuthorityRuntime) := do
  let _ ← (runtime.resources.lookup ns window .window).mapError (·.toRuntime)
  let record ← (runtime.windows.get window).elim (.error .unknownResource) .ok
  let selections := runtime.selections.clearWindowOwner window runtime.windows
    .selectionWindowDestroyed
  let destroyed ← (runtime.windows.apply (.destroyed window)).mapError (·.toRuntime)
  return (record.surface,
    { runtime with selections, windows := destroyed.2, resources := runtime.resources.remove window })

/-- The other kinds of resource a client creates and frees. -/
inductive AuxiliaryKind where
  | pixmap
  | region
  | fence
  | font
  | cursor
  deriving DecidableEq, Repr

def AuxiliaryKind.resourceKind : AuxiliaryKind → XResourceKind
  | .pixmap => .pixmap
  | .region => .region
  | .fence => .fence
  | .font => .font
  | .cursor => .cursor

def createResource (kind : AuxiliaryKind) (runtime : XAuthorityRuntime) (ns : NamespaceId)
    (id : XResourceId) (generation : UInt64) : Except XAuthorityRuntimeError XAuthorityRuntime := do
  let resources ← (runtime.resources.insert id kind.resourceKind ns generation).mapError
    (·.toRuntime)
  return { runtime with resources }

def freeResource (kind : AuxiliaryKind) (runtime : XAuthorityRuntime) (ns : NamespaceId)
    (id : XResourceId) : Except XAuthorityRuntimeError XAuthorityRuntime := do
  let _ ← (runtime.resources.lookup ns id kind.resourceKind).mapError (·.toRuntime)
  return { runtime with resources := runtime.resources.remove id }

def createPixmap := createResource .pixmap
def createXfixesRegion := createResource .region
def createDri3Fence := createResource .fence
def openFont := createResource .font
def createCursor := createResource .cursor
def freePixmap := freeResource .pixmap
def destroyXfixesRegion := freeResource .region
def destroyDri3Fence := freeResource .fence
def closeFont := freeResource .font
def freeCursor := freeResource .cursor

/-- Forget a resource record without asking its own table. -/
def dropResource (runtime : XAuthorityRuntime) (id : XResourceId) : XAuthorityRuntime :=
  { runtime with resources := runtime.resources.remove id }

def releaseRecord (ns : NamespaceId) (runtime : XAuthorityRuntime) (record : XResourceRecord) :
    Except XAuthorityRuntimeError XAuthorityRuntime :=
  match record.kind with
  | .window => (runtime.destroyWindow ns record.id).map Prod.snd
  | .pixmap => runtime.freePixmap ns record.id
  | .font => runtime.closeFont ns record.id
  | .cursor => runtime.freeCursor ns record.id
  | .atom | .property | .graphicsContext | .fence | .region => .ok (runtime.dropResource record.id)

def releaseClientResourceRange (runtime : XAuthorityRuntime) (ns : NamespaceId)
    (range : XWireClientResourceRange) : Except XAuthorityRuntimeError Unit × XAuthorityRuntime :=
  if !ns.isValid then (.error .invalidNamespace, runtime)
  else Run.tryEach (releaseRecord ns)
    (runtime.resources.recordsForNamespaceInClientRange ns range) runtime

end Windows
end XAuthorityRuntime
end Sophia.Authority
