import Sophia.Backend.RenderedScanout

/-! The KMS objects a buffer is scanned out with, how they are created and destroyed, and who holds
them. -/
namespace Sophia.Backend

open Protocol

inductive KmsObject where
  | framebuffer (handle : UInt32)
  | modeBlob (id : UInt64)
  | importedBuffer (handle : UInt32)
  deriving DecidableEq

/-- `LibdrmNativePrimaryPlaneResourceCleanup`, and a bundle, which still has its framebuffer. The
imported buffers are the filled slots of the array. -/
structure PrimaryPlaneResources where
  framebuffer : Option UInt32
  modeBlob : Option UInt64
  importedBuffers : List UInt32
  deriving DecidableEq

namespace PrimaryPlaneResources

variable (resources : PrimaryPlaneResources)

def framebuffers : List KmsObject := resources.framebuffer.toList.map .framebuffer

def modeBlobs : List KmsObject := resources.modeBlob.toList.map .modeBlob

def objects : List KmsObject :=
  resources.framebuffers ++ resources.modeBlobs ++ resources.importedBuffers.map .importedBuffer

end PrimaryPlaneResources

inductive CloseResult where
  | ok
  | invalidInput
  | failed
  deriving DecidableEq

/-- What the device answers to the calls that destroy one frame's objects. -/
structure DestroyEnv where
  framebuffer : Bool
  modeBlob : Bool
  close : UInt32 → CloseResult

/-- The handle is closed, or the driver had released it. -/
def DestroyEnv.closes (env : DestroyEnv) (handle : UInt32) : Bool := env.close handle ≠ .failed

structure DestroyResult where
  status : ResourceDestroyStatus
  cleanup : Option PrimaryPlaneResources
  destroyed : List KmsObject
  deriving DecidableEq

/-- `destroy_native_primary_plane_resource_cleanup`: stops at the first call that fails. -/
def destroyResourceCleanup (env : DestroyEnv) (cleanup : PrimaryPlaneResources) : DestroyResult :=
  if cleanup.framebuffer.isSome && !env.framebuffer then
    ⟨.framebufferDestroyFailed, some cleanup, []⟩
  else if cleanup.modeBlob.isSome && !env.modeBlob then
    ⟨.modeBlobDestroyFailed, some { cleanup with framebuffer := none }, cleanup.framebuffers⟩
  else
    let closed := cleanup.importedBuffers.takeWhile env.closes
    let destroyed := cleanup.framebuffers ++ cleanup.modeBlobs ++ closed.map .importedBuffer
    match cleanup.importedBuffers.dropWhile env.closes with
    | [] => ⟨.destroyed, none, destroyed⟩
    | left => ⟨.importedBufferCloseFailed, some ⟨none, none, left⟩, destroyed⟩

/-- What the device answers while a frame's objects are created. `planes` has the handle that each
plane's import returns: none where the descriptor is missing or the import refused. A buffer without
PRIME descriptors has no planes to import. -/
structure CreateEnv where
  usable : Bool
  planes : List (Option UInt32)
  planesMatch : Bool
  modeBlob : Option UInt64
  framebuffer : Option UInt32
  destroy : DestroyEnv

def maxPlanes : ℕ := 4

def addUniqueImportedBufferForCleanup (handles : List UInt32) (handle : UInt32) : List UInt32 :=
  if handle ∈ handles then handles
  else if handles.length < maxPlanes then handles ++ [handle] else handles

/-- Whether every plane was imported, and the handles to close if not all of them can be used. -/
def importScanoutDmaBufs : List (Option UInt32) → List UInt32 → Bool × List UInt32
  | [], handles => (true, handles)
  | none :: _, handles => (false, handles)
  | some handle :: planes, handles =>
    importScanoutDmaBufs planes (addUniqueImportedBufferForCleanup handles handle)

/-- The handles the device has then given out; importing a buffer again gives its handle again. -/
def importedHandles : List (Option UInt32) → List UInt32 → List UInt32
  | [], handles => handles
  | none :: _, handles => handles
  | some handle :: planes, handles =>
    importedHandles planes (if handle ∈ handles then handles else handles ++ [handle])

structure CreateResult where
  resources : Option PrimaryPlaneResources
  cleanup : Option PrimaryPlaneResources
  created : List KmsObject
  destroyed : List KmsObject
  deriving DecidableEq

/-- Creation has failed: what there is already is destroyed, as far as that goes. -/
def CreateResult.undo (env : DestroyEnv) (cleanup : PrimaryPlaneResources)
    (created : List KmsObject) : CreateResult :=
  let destroy := destroyResourceCleanup env cleanup
  ⟨none, destroy.cleanup, created, destroy.destroyed⟩

/-- `create_native_primary_plane_resources_from_dma_bufs_with_policy`, and, with no planes to import,
`create_native_primary_plane_page_flip_resources`. -/
def createResources (createModeBlob : Bool) (env : CreateEnv) : CreateResult :=
  if !env.usable || env.planes.length > maxPlanes then ⟨none, none, [], []⟩
  else
    let (complete, handles) := importScanoutDmaBufs env.planes []
    let imported := (importedHandles env.planes []).map KmsObject.importedBuffer
    if !complete || !env.planesMatch then .undo env.destroy ⟨none, none, handles⟩ imported
    else
      let modeBlob := if createModeBlob then env.modeBlob.filter (· ≠ 0) else none
      if createModeBlob && modeBlob.isNone then .undo env.destroy ⟨none, none, handles⟩ imported
      else
        let created := modeBlob.toList.map .modeBlob ++ imported
        match env.framebuffer with
        | none => .undo env.destroy ⟨none, modeBlob, handles⟩ created
        | some framebuffer => ⟨some ⟨some framebuffer, modeBlob, handles⟩, none,
            .framebuffer framebuffer :: created, []⟩

/-- How far a submission gets before it turns to the device. -/
inductive ExportStage where
  | scanoutTargetNotReady
  | frameTargetUnavailable
  | scanoutExportFailed
  | exported
  deriving DecidableEq

/-- What one submission of a page flip meets; a commit that would block counts as refused. -/
structure PlaneSubmitEnv where
  stage : ExportStage
  discovered : Bool
  create : CreateEnv
  requestBuilt : Bool
  committed : Bool
  destroy : DestroyEnv

/-- `submit_native_primary_plane_scanout_from_selection_and_renderer_..._with_policy` with the policy
of a page flip, which needs no mode blob. -/
def submitNativePrimaryPlane (env : PlaneSubmitEnv) : CreateResult :=
  if !env.discovered then ⟨none, none, [], []⟩
  else
    let result := createResources false env.create
    match result.resources with
    | none => result
    | some resources =>
      if env.requestBuilt && env.committed then result
      else .undo env.destroy resources result.created

/-- A buffer of the renderer, by its number, and the objects made from it. -/
structure OwnedPlane where
  owner : ℕ
  plane : PrimaryPlaneResources
  deriving DecidableEq

/-- A submission with the objects it has created and destroyed. -/
structure PlaneSubmit where
  result : SubmitResult OwnedPlane
  created : List KmsObject
  destroyed : List KmsObject
  deriving DecidableEq

/-- `submit_rendered_primary_plane_scanout_from_scanout_target_and_selection_with`, for the buffer
the exporter hands out. -/
def submitOwnedPlane (owner : ℕ) (env : PlaneSubmitEnv) : PlaneSubmit :=
  match env.stage with
  | .scanoutTargetNotReady => ⟨.scanoutTargetNotReady, [], []⟩
  | .frameTargetUnavailable => ⟨.frameTargetUnavailable, [], []⟩
  | .scanoutExportFailed => ⟨.scanoutExportFailed, [], []⟩
  | .exported =>
    let native := submitNativePrimaryPlane env
    ⟨match native.resources with
      | some plane => .submitted ⟨owner, plane⟩
      | none => .primaryPlaneSubmitFailed (native.cleanup.map (⟨owner, ·⟩)),
      native.created, native.destroyed⟩

inductive TrackedCleanupStatus where
  | noCleanupPending
  | cleanedUp
  | cleanupFailed
  deriving DecidableEq

structure TrackedCleanupReport where
  status : TrackedCleanupStatus
  destroy : Option ResourceDestroyStatus
  cleanupPending : Bool
  deriving DecidableEq

namespace LiveRenderedOutputState

variable {ρ : Type} (state : LiveRenderedOutputState ρ)

/-- `retire_displayed_rendered_primary_plane_scanout`. `destroy` answers for the displayed frame. -/
def retireDisplayed (destroy : ResourceDestroyReport ρ) :
    TrackedCleanupReport × LiveRenderedOutputState ρ :=
  let state := { state with retainDisplayedSubmission := false }
  match state.displayedSubmission with
  | none => (⟨.noCleanupPending, none, state.cleanupPending⟩, state)
  | some _ =>
    -- What is left of this frame goes into the slot, whatever is there.
    let state := { state with
      displayedSubmission := none, scanoutCleanup := destroy.cleanup.or state.scanoutCleanup }
    (⟨if state.cleanupPending then .cleanupFailed else .cleanedUp, some destroy.status,
      state.cleanupPending⟩, state)

/-- The frame whose objects a retirement destroys, if it comes to that. -/
def retiredResource (callback : LivePageFlipCallbackReport) : Option ρ :=
  match state.scanoutSubmission with
  | none => none
  | some submission =>
    if submission.waitingForNewerPageFlip callback then none
    else if state.retainDisplayedSubmission then state.displayedSubmission.map (·.resource)
    else some submission.resource

/-- Everything that holds a frame's objects: in flight, displayed, waiting for cleanup. -/
def holders : List ρ :=
  (state.scanoutSubmission.map (·.resource)).toList ++
    (state.displayedSubmission.map (·.resource)).toList ++ state.scanoutCleanup.toList

end LiveRenderedOutputState

/-- One output with what became of all its objects and buffers so far. -/
structure PlaneOutput where
  state : LiveRenderedOutputState OwnedPlane
  owners : ℕ := 0
  created : List (KmsObject × ℕ) := []
  destroyed : List KmsObject := []
  dropped : List ℕ := []
  submitted : List ℕ := []
  flipped : List ℕ := []
  deriving DecidableEq

inductive PlaneAction where
  | trackSubmit (submittedAfterPageFlipSerial : Option UInt64) (env : PlaneSubmitEnv)
  | retireAfterPageFlip (callback : LivePageFlipCallbackReport) (env : DestroyEnv)
  | retryCleanup (env : DestroyEnv)
  | adoptPresented (plane : PrimaryPlaneResources)
  | retireDisplayed (env : DestroyEnv)

/-- The page flip was accepted and is newer than the submission. -/
def ScanoutSubmission.flippedBy {ρ : Type} (submission : ScanoutSubmission ρ)
    (callback : LivePageFlipCallbackReport) : Bool :=
  callback.decision = .accepted && callback.event.status = .presented &&
    submission.submittedAfterPageFlipSerial.all fun baseline =>
      callback.event.frameSerial.any (baseline < ·)

/-- Destroys what is to be destroyed; nothing is asked of the device where there is nothing. -/
def destroyOwned (env : DestroyEnv) : Option OwnedPlane → ResourceDestroyReport OwnedPlane × List KmsObject
  | none => (⟨.destroyed, none⟩, [])
  | some resource =>
    let destroy := destroyResourceCleanup env resource.plane
    (⟨destroy.status, destroy.cleanup.map (⟨resource.owner, ·⟩)⟩, destroy.destroyed)

namespace PlaneOutput

variable (out : PlaneOutput)

def held : List KmsObject := out.state.holders.flatMap (·.plane.objects)

/-- The output after a call that took `taken` buffers from outside, which are not moved anywhere but
into the state: a buffer that is in nobody's hands any more is dropped. -/
def settle (state : LiveRenderedOutputState OwnedPlane) (taken : ℕ) (created : List KmsObject)
    (destroyed : List KmsObject) : PlaneOutput :=
  { out with
    state := state
    owners := out.owners + taken
    created := out.created ++ created.map (·, out.owners)
    destroyed := out.destroyed ++ destroyed
    dropped := out.dropped ++ (out.state.holders.map (·.owner) ++ List.range' out.owners taken).filter
      (· ∉ state.holders.map (·.owner)) }

def step : PlaneAction → PlaneOutput
  | .trackSubmit baseline env =>
    if out.state.inFlight || out.state.cleanupPending then
      -- The device is not asked, so the result is not read.
      out.settle (out.state.trackSubmit baseline .scanoutTargetNotReady).2 0 [] []
    else
      let submit := submitOwnedPlane out.owners env
      let out' := out.settle (out.state.trackSubmit baseline submit.result).2
        (if env.stage = .exported then 1 else 0) submit.created submit.destroyed
      { out' with submitted := out.submitted ++ (submit.result.submission.map (·.owner)).toList }
  | .retireAfterPageFlip callback env =>
    let (destroy, destroyed) := destroyOwned env (out.state.retiredResource callback)
    let flips := out.state.scanoutSubmission.filter (·.flippedBy callback)
    let out' := out.settle (out.state.retireTrackedOutputAfterPageFlip destroy callback).2 0 []
      destroyed
    { out' with flipped := out.flipped ++ (flips.map (·.resource.owner)).toList }
  | .retryCleanup env =>
    let (destroy, destroyed) := destroyOwned env out.state.scanoutCleanup
    out.settle (out.state.retryTrackedOutputCleanup destroy) 0 [] destroyed
  | .adoptPresented plane =>
    out.settle ((out.state.adoptPresented ⟨out.owners, plane⟩).getD out.state) 1 plane.objects []
  | .retireDisplayed env =>
    let (destroy, destroyed) := destroyOwned env (out.state.displayedSubmission.map (·.resource))
    out.settle (out.state.retireDisplayed destroy).2 0 [] destroyed

/-- An output in persistent mode or not, before its first frame. -/
def new (output : OutputId) (persistent : Bool) : PlaneOutput where
  state := { LiveRenderedOutputState.ready output with retainDisplayedSubmission := persistent }

end PlaneOutput
end Sophia.Backend
