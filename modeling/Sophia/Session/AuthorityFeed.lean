import Sophia.Authority.ImportTransfers
import Sophia.Backend.PresentScheduler
import Sophia.Renderer.RegistryLiveness

/-! What the workers observe of each request, fed to the renderer's resources. -/
namespace Sophia.Session

open Protocol Authority Renderer Backend

/-- A request as far as the renderer's resources are concerned. Any other request is the calls it
makes and the answer it gets. -/
inductive XWireRequest where
  | dri3PixmapFromBuffer (pixmap drawable : XResourceId) (sizeBytes : UInt32)
      (width height stride : UInt16) (depth bitsPerPixel : UInt8)
  | dri3PixmapFromBuffers (pixmap window : XResourceId) (numBuffers : UInt8)
      (width height : UInt16) (strides offsets : Vector UInt32 dmaBufMaxPlanes)
      (depth bitsPerPixel : UInt8) (modifier : UInt64)
  | dri3FenceFromFd (drawable fence : XResourceId) (initiallyTriggered : Bool)
  | freePixmap (pixmap : XResourceId)
  | syncDestroyFence (fence : XResourceId)
  | presentPixmap (request : XPresentPixmap)
  | other (calls : List FullRuntime.RuntimeCall) (h : ∀ call ∈ calls, call.quiet)
      (result : XDispatchResult)

namespace XWireRequest

def requiredFdCount : XWireRequest → ℕ
  | .dri3PixmapFromBuffer .. | .dri3FenceFromFd .. => 1
  | .dri3PixmapFromBuffers _ _ numBuffers .. => numBuffers.toNat
  | _ => 0

def dri3Pixmap : XWireRequest → Option XResourceId
  | .dri3PixmapFromBuffer pixmap .. | .dri3PixmapFromBuffers pixmap .. => some pixmap
  | _ => none

def dri3FenceRequest : XWireRequest → Option (XResourceId × Bool)
  | .dri3FenceFromFd _ fence initiallyTriggered => some (fence, initiallyTriggered)
  | _ => none

def freedPixmap : XWireRequest → Option XResourceId
  | .freePixmap pixmap => some pixmap
  | _ => none

def destroyedFence : XWireRequest → Option XResourceId
  | .syncDestroyFence fence => some fence
  | _ => none

def presentRequest : XWireRequest → Option XPresentPixmap
  | .presentPixmap request => some request
  | _ => none

/-- The decoder gives a Present request the identity the listener allocated. -/
def identified (transaction : TransactionId) : XWireRequest → XWireRequest
  | .presentPixmap request => .presentPixmap { request with transaction }
  | request => request

end XWireRequest

/-- The answer to a request that is refused because of a resource. -/
def refusal (context : XDispatchContext) (error : XAuthorityRuntimeError) (resource : XResourceId) :
    XDispatchResult :=
  ⟨none, [xErrorFromRuntime error context.sequence context.majorOpcode resource.word]⟩

/-- The answer to a request that only changes the runtime. -/
def conclude (runtime : FullRuntime) (context : XDispatchContext) (resource : XResourceId) :
    FullRuntime.Result FullRuntime → XDispatchResult × FullRuntime
  | .ok next => (⟨none, []⟩, next)
  | .error error => (refusal context error resource, runtime)

/-- A resource is created only after its drawable is checked. -/
def concludeOn (runtime : FullRuntime) (context : XDispatchContext) (drawable resource : XResourceId)
    (created : FullRuntime.Result FullRuntime) : XDispatchResult × FullRuntime :=
  match runtime.validateDrawableAccess context.namespaceId drawable with
  | .error error => (refusal context error drawable, runtime)
  | .ok _ => conclude runtime context resource created

def dispatchX11WireRequest (runtime : FullRuntime) (context : XDispatchContext) :
    XWireRequest → XDispatchResult × FullRuntime
  | .dri3PixmapFromBuffer pixmap drawable sizeBytes width height stride depth bitsPerPixel =>
    concludeOn runtime context drawable pixmap ((runtime.createDri3Pixmap context.namespaceId pixmap
      context.sequence.toUInt64 sizeBytes width height stride depth bitsPerPixel).map Prod.snd)
  | .dri3PixmapFromBuffers pixmap window numBuffers width height strides offsets depth bitsPerPixel
      modifier =>
    concludeOn runtime context window pixmap ((runtime.createDri3PixmapFromBuffers
      context.namespaceId pixmap context.sequence.toUInt64 numBuffers width height strides offsets
      depth bitsPerPixel modifier).map Prod.snd)
  | .dri3FenceFromFd drawable fence _ =>
    concludeOn runtime context drawable fence ((runtime.createDri3Fence context.namespaceId fence
      context.sequence.toUInt64).map Prod.snd)
  | .freePixmap pixmap =>
    conclude runtime context pixmap ((runtime.freePixmap context.namespaceId pixmap).map Prod.snd)
  | .syncDestroyFence fence =>
    match runtime.destroyDri3Fence context.namespaceId fence with
    | (.error error, next) => (refusal context error fence, next)
    | (.ok _, next) => (⟨none, []⟩, next)
  | .presentPixmap request => runtime.dispatchPresentPixmap context request
  | .other calls _ result => (result, Run.exec FullRuntime.step runtime calls)

/-- What the worker's observer is told of a request. -/
structure X11CoreDispatchTrace where
  sequence : UInt16
  result : XDispatchResult
  receivedFds : List OwnedFd := []
  dri3PixmapImport : Option DmaBufDescriptor := none
  dri3FenceImport : Option (FenceHandle × Bool) := none
  presentSubmission : Option XAuthorityPresentSubmission := none
  releasedDmaBufs : List BufferHandle
  releasedFences : List FenceHandle

/-- What is released is looked up before the request is dispatched, what is imported after it. -/
def observe (runtime : FullRuntime) (context : XDispatchContext) (fds : List OwnedFd)
    (request : XWireRequest) : X11CoreDispatchTrace × FullRuntime :=
  let ns := context.namespaceId
  let (result, dispatched) := dispatchX11WireRequest runtime context request
  let next := { dispatched with lastCpuBufferUpdate := none }
  ({ sequence := context.sequence
     result
     receivedFds := fds
     -- A refused import is looked up like an accepted one.
     dri3PixmapImport := request.dri3Pixmap.bind fun pixmap =>
       (next.dri3PixmapDescriptor ns pixmap).toOption
     dri3FenceImport := if result.errors = [] then
       request.dri3FenceRequest.bind fun (fence, initiallyTriggered) =>
         (next.dri3FenceHandle ns fence).toOption.map fun handle => (handle, initiallyTriggered)
       else none
     presentSubmission := if result.errors = [] then
       request.presentRequest.bind fun present => next.presentSubmission ns present result else none
     releasedDmaBufs := (request.freedPixmap.bind fun pixmap =>
       (runtime.dri3PixmapDescriptor ns pixmap).toOption.map (·.handle)).toList
     releasedFences := (request.destroyedFence.bind fun fence =>
       (runtime.dri3FenceHandle ns fence).toOption).toList }, next)

namespace X11CoreDispatchTrace

variable (trace : X11CoreDispatchTrace)

/-- Descriptors are duplicated for the backend; an import whose cannot be is left out. -/
def dmaBufRegistrations (os : FdOracle) : List LiveProductionDmaBufRegistration :=
  (trace.dri3PixmapImport.bind fun descriptor =>
    if trace.receivedFds.all os.tryClone then some ⟨descriptor, trace.receivedFds⟩
    else none).toList

def fenceRegistrations (os : FdOracle) : List LiveProductionFenceRegistration :=
  (trace.dri3FenceImport.bind fun (handle, initiallyTriggered) =>
    trace.receivedFds.head?.bind fun fd =>
      if os.tryClone fd then some ⟨handle, initiallyTriggered, fd⟩ else none).toList

/-- The batch a trace stands for. -/
def batch (os : Os) : LiveProductionAuthorityBatch :=
  let transaction := trace.result.response.elim (.fromRaw trace.sequence.toUInt64) (·.transaction)
  { transaction
    transactions := trace.result.response.elim [] (·.transactions)
    removedSurfaces := trace.result.response.elim [] (·.removedSurfaces)
    dmaBufRegistrations := trace.dmaBufRegistrations (os transaction)
    fenceRegistrations := trace.fenceRegistrations (os transaction)
    presentSubmissions := (trace.presentSubmission.map fun submission =>
      ⟨submission.transaction, submission.surface, submission.buffer, submission.acquireFence,
        submission.idleFence⟩).toList
    releasedDmaBufs := trace.releasedDmaBufs
    releasedFences := trace.releasedFences }

/-- A batch without work for the engine goes nowhere. -/
def fromDispatchTrace (os : Os) : Option LiveProductionAuthorityBatch :=
  let batch := trace.batch os
  if batch.transactions = [] ∧ batch.removedSurfaces = [] ∧ batch.dmaBufRegistrations = [] ∧
      batch.fenceRegistrations = [] ∧ batch.presentSubmissions = [] ∧
      batch.releasedDmaBufs = [] ∧ batch.releasedFences = [] then none
  else some batch

end X11CoreDispatchTrace

/-- The listener's runtime and identities, and the renderer's resources, with the errors the
clients got and the errors of the production cycles. -/
structure AuthorityFeed where
  runtime : FullRuntime
  transactions : IdAllocator .transactionId
  scheduler : LiveProductionPresentScheduler
  registry : LiveDmaBufPresentationRegistry
  errors : List XClientError
  failures : List RuntimeError

/-- One request of one client, the end of one, or a call of the backend in between. The authority
never looks at the registry, so a batch that waits to be fed is no different from one fed at
once. -/
inductive FeedAction where
  | request (query : OwnedFd → Option Bool) (now : Instant) (context : XDispatchContext)
      (fds : List OwnedFd) (request : XWireRequest)
  | teardown (now : Instant) (ns : NamespaceId) (range : XWireClientResourceRange)
      (sequence : UInt16)
  | backend (op : RegistryOp) (h : op.retiring) (scheduler : LiveProductionPresentScheduler)

/-- Every descriptor can be duplicated; what a fence answers is up to its client. -/
def duplicating (query : OwnedFd → Option Bool) : Os := fun _ => ⟨fun _ => true, query, fun _ => true⟩

namespace AuthorityFeed

def start (limits : LivePresentationRegistryLimits) : AuthorityFeed where
  runtime := .new
  transactions := .new
  scheduler := {}
  registry := .withLimits limits
  errors := []
  failures := []

variable (feed : AuthorityFeed)

/-- Resources are taken in first, then the submissions are queued. -/
def production (os : Os) (now : Instant) (batch : LiveProductionAuthorityBatch) : AuthorityFeed :=
  match observeAuthorityResources os batch feed.registry with
  | (.error error, registry) => { feed with registry, failures := feed.failures ++ [error] }
  | (.ok _, registry) => match feed.scheduler.enqueueBatch os now batch registry with
    | (.error error, scheduler, registry) =>
      { feed with scheduler, registry, failures := feed.failures ++ [error] }
    | (.ok _, scheduler, registry) => { feed with scheduler, registry }

/-- The batch of a trace, if there is one, goes through one production cycle. -/
def deliver (os : Os) (now : Instant) (trace : X11CoreDispatchTrace) : AuthorityFeed :=
  (trace.fromDispatchTrace os).elim feed (feed.production os now)

def step : FeedAction → AuthorityFeed
  | .request query now context fds request =>
    match feed.transactions.nextId with
    | none => feed
    | some (transaction, transactions) =>
      let feed := { feed with transactions }
      if fds.length ≠ request.requiredFdCount then feed
      else
        let (trace, runtime) := observe feed.runtime context fds (request.identified transaction)
        { feed with runtime, errors := feed.errors ++ trace.result.errors }.deliver
          (duplicating query) now trace
  | .teardown now ns range sequence =>
    let (result, runtime) := feed.runtime.releaseClientResourceRange ns range
    let feed := { feed with runtime }
    match result with
    | .error _ => feed
    | .ok release =>
      if release.removedSurfaces = [] ∧ release.releasedDmaBufs = [] ∧
        release.releasedFences = [] then feed
      else match feed.transactions.nextId with
        | none => feed
        | some (transaction, transactions) =>
          let response : XAuthorityResponsePacket :=
            { transaction, outcome := .accepted, removedSurfaces := release.removedSurfaces }
          { feed with transactions }.deliver (duplicating fun _ => none) now
            { sequence := sequence + 1
              result := ⟨some response, []⟩
              releasedDmaBufs := release.releasedDmaBufs
              releasedFences := release.releasedFences }
  | .backend op _ scheduler =>
    { feed with registry := (op.call feed.registry).2, scheduler }

end AuthorityFeed
end Sophia.Session
