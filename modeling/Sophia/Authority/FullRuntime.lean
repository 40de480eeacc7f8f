import Sophia.Authority.ClientObjects
import Sophia.Authority.ClipboardTransfers
import Sophia.Authority.SoftwareBuffers

/-! The whole X authority runtime: the tables of every client object beside windows and
selections. -/
namespace Sophia.Authority

open Std Sophia.Protocol

def xSetupDefaultRoot : UInt64 := 0x20
def xSetupDefaultColormap : UInt64 := 0x21
def xSetupDefaultVisual : UInt32 := 0x22
def xSetupArgbVisual : UInt32 := 0x23
def drmFormatModInvalid : UInt64 := 0xffffffffffffffff

/-- The runtime with the tables of pixmaps, fences, regions, contexts, segments and pixels. -/
structure FullRuntime extends XAuthorityRuntime where
  shmSegments : XShmSegmentTable
  softwareBuffers : XSoftwareBufferStore
  dri3Pixmaps : ExtTreeMap XResourceId DmaBufDescriptor
  nextDmaBufHandle : UInt64
  dri3Fences : ExtTreeMap XResourceId FenceHandle
  xfixesRegions : ExtTreeMap XResourceId Region
  nextFenceHandle : UInt64
  graphicsContexts : XGraphicsContextTable
  windowBackgroundPixels : ExtTreeMap XResourceId UInt32
  windowVisuals : ExtTreeMap XResourceId (UInt8 × UInt32 × XResourceId)
  glxContexts : ExtTreeMap XResourceId (NamespaceId × UInt32 × Bool)
  glxWindows : ExtTreeMap XResourceId (NamespaceId × XResourceId × UInt32)
  lastCpuBufferUpdate : Option XAuthorityCpuBufferUpdate
  inputFocus : ExtTreeMap NamespaceId (XResourceId × UInt8)

namespace FullRuntime

def new : FullRuntime where
  toXAuthorityRuntime := .new
  shmSegments := .new
  softwareBuffers := .new
  dri3Pixmaps := ∅
  nextDmaBufHandle := 1
  dri3Fences := ∅
  xfixesRegions := ∅
  nextFenceHandle := 1
  graphicsContexts := .new
  windowBackgroundPixels := ∅
  windowVisuals := ∅
  glxContexts := ∅
  glxWindows := ∅
  lastCpuBufferUpdate := none
  inputFocus := ∅

abbrev Result (α : Type) := Except XAuthorityRuntimeError α

variable (runtime : FullRuntime)

/-- The same client objects over other windows, selections and transfers. -/
def withBase (base : XAuthorityRuntime) : FullRuntime :=
  { runtime with toXAuthorityRuntime := base }

section Access

def access {α : Type} (result : Except XAuthorityAccessError α) : Result Unit :=
  (result.map fun _ => ()).mapError (·.toRuntime)

def isClipboardProxy (ns : NamespaceId) (window : XResourceId) : Bool :=
  (runtime.clipboardProxies[window]?).any (·.namespaceId = ns)

def validateWindowAccess (ns : NamespaceId) (window : XResourceId) : Result Unit :=
  if runtime.isClipboardProxy ns window then .ok ()
  else access (runtime.resources.lookup ns window .window)

def validatePixmapAccess (ns : NamespaceId) (pixmap : XResourceId) : Result Unit :=
  access (runtime.resources.lookup ns pixmap .pixmap)

def validateFontAccess (ns : NamespaceId) (font : XResourceId) : Result Unit :=
  access (runtime.resources.lookup ns font .font)

def validateXfixesRegionAccess (ns : NamespaceId) (region : XResourceId) : Result Unit :=
  access (runtime.resources.lookup ns region .region)

def validateDrawableAccess (ns : NamespaceId) (drawable : XResourceId) : Result Unit :=
  if drawable.localId.raw = xSetupDefaultRoot then .ok ()
  else if !ns.isValid then .error .invalidNamespace
  else match runtime.resources.records[drawable]? with
    | none => .error .unknownResource
    | some record =>
      if record.kind ≠ .window ∧ record.kind ≠ .pixmap then .error .wrongResourceKind
      else if record.ownerNamespace ≠ ns then .error .crossNamespaceDenied
      else .ok ()

def windowGeometry (ns : NamespaceId) (window : XResourceId) : Result Rect := do
  access (runtime.resources.lookup ns window .window)
  (runtime.windows.get window).elim (.error .unknownResource) fun record => .ok record.geometry

def windowVisual (window : XResourceId) : UInt8 × UInt32 × XResourceId :=
  (runtime.windowVisuals[window]?).getD (24, xSetupDefaultVisual, .new xSetupDefaultColormap 1)

end Access

section Segments

def attachShmSegment (ns : NamespaceId) (segment : XResourceId) (shmid : UInt32) (readOnly : Bool)
    (generation : UInt64) : Result FullRuntime :=
  ((XShmSegmentTable.attach runtime.shmSegments ns segment shmid readOnly generation).map
    fun shmSegments => { runtime with shmSegments }).mapError (·.toRuntime)

def detachShmSegment (ns : NamespaceId) (segment : XResourceId) : Result FullRuntime :=
  ((XShmSegmentTable.detach runtime.shmSegments ns segment).map
    fun shmSegments => { runtime with shmSegments }).mapError (·.toRuntime)

end Segments

section Glx

/-- The id is neither a resource nor a GLX object. -/
def glxIdFree (id : XResourceId) : Bool :=
  (runtime.resources.records[id]?).isNone && (runtime.glxContexts[id]?).isNone &&
    (runtime.glxWindows[id]?).isNone

def createGlxContext (ns : NamespaceId) (context : XResourceId) (fbconfig : UInt32)
    (direct : Bool) : Result FullRuntime :=
  if !runtime.glxIdFree context then .error .invalidResource
  else .ok { runtime with glxContexts := runtime.glxContexts.insert context (ns, fbconfig, direct) }

def glxContext (ns : NamespaceId) (context : XResourceId) : Result (UInt32 × Bool) :=
  match runtime.glxContexts[context]? with
  | some (owner, config, direct) =>
    if owner = ns then .ok (config, direct) else .error .unknownResource
  | none => .error .unknownResource

def destroyGlxContext (ns : NamespaceId) (context : XResourceId) : Result FullRuntime :=
  (runtime.glxContext ns context).map fun _ =>
    { runtime with glxContexts := runtime.glxContexts.erase context }

def createGlxWindow (ns : NamespaceId) (glxWindow window : XResourceId) (fbconfig : UInt32) :
    Result FullRuntime := do
  runtime.validateWindowAccess ns window
  if !runtime.glxIdFree glxWindow then throw .invalidResource
  return { runtime with glxWindows := runtime.glxWindows.insert glxWindow (ns, window, fbconfig) }

def glxDrawable (ns : NamespaceId) (drawable : XResourceId) : Result (XResourceId × UInt32) :=
  match runtime.glxWindows[drawable]? with
  | some (owner, window, config) =>
    if owner = ns then .ok (window, config) else .error .unknownResource
  | none =>
    (runtime.validateWindowAccess ns drawable).map fun _ =>
      (drawable, if (runtime.windowVisual drawable).2.1 = xSetupArgbVisual then 3 else 1)

def destroyGlxWindow (ns : NamespaceId) (glxWindow : XResourceId) : Result FullRuntime :=
  (runtime.glxDrawable ns glxWindow).map fun _ =>
    { runtime with glxWindows := runtime.glxWindows.erase glxWindow }

end Glx

section Windows

def apply (request : XAuthorityRequestPacket) : XAuthorityResponsePacket × FullRuntime :=
  let applied := runtime.toXAuthorityRuntime.apply request
  (applied.1, runtime.withBase applied.2)

def configureWindowGeometry (ns : NamespaceId) (window : XResourceId) (x y : Option Int16)
    (width height : Option UInt16) : Result FullRuntime :=
  (runtime.toXAuthorityRuntime.configureWindowGeometry ns window x y width height).map
    runtime.withBase

def configureWindowSizeFromEngine (ns : NamespaceId) (window : XResourceId) (size : Size) :
    Result (Rect × FullRuntime) := do
  if size.width ≤ 0 ∨ size.height ≤ 0 ∨ 65535 < size.width ∨ 65535 < size.height then
    throw .invalidResource
  let current ← runtime.windowGeometry ns window
  let next ← runtime.configureWindowGeometry ns window none none
    (some (.ofNat size.width.toInt.toNat)) (some (.ofNat size.height.toInt.toNat))
  return ({ current with width := size.width, height := size.height }, next)

def mapNamespaceWindows (ns : NamespaceId) : Result Unit × FullRuntime :=
  let mapped := runtime.toXAuthorityRuntime.mapNamespaceWindows ns
  (mapped.1, runtime.withBase mapped.2)

-- GLX windows go with the window they draw on, whoever created them.
def destroyWindow (ns : NamespaceId) (window : XResourceId) : Result (SurfaceId × FullRuntime) :=
  (runtime.toXAuthorityRuntime.destroyWindow ns window).map fun destroyed =>
    (destroyed.1,
      { runtime.withBase destroyed.2 with
        softwareBuffers := runtime.softwareBuffers.remove window
        windowBackgroundPixels := runtime.windowBackgroundPixels.erase window
        windowVisuals := runtime.windowVisuals.erase window
        glxWindows := runtime.glxWindows.filter fun _ glx => glx.2.1 ≠ window
        inputFocus := if (runtime.inputFocus[ns]?).any (·.1 = window) then
          runtime.inputFocus.erase ns else runtime.inputFocus })

def setWindowVisual (window : XResourceId) (depth : UInt8) (visual : UInt32)
    (colormap : XResourceId) : FullRuntime :=
  { runtime with windowVisuals := runtime.windowVisuals.insert window (depth, visual, colormap) }

def setWindowBackgroundPixel (ns : NamespaceId) (window : XResourceId) (pixel : UInt32) :
    Result FullRuntime :=
  (runtime.validateWindowAccess ns window).map fun _ =>
    { runtime with windowBackgroundPixels := runtime.windowBackgroundPixels.insert window pixel }

def setInputFocus (ns : NamespaceId) (focus : XResourceId) (revertTo : UInt8) :
    Result FullRuntime := do
  if 2 < revertTo then throw .invalidResource
  if focus.localId.raw ≠ 0 ∧ focus.localId.raw ≠ xSetupDefaultRoot then
    runtime.validateWindowAccess ns focus
  return { runtime with inputFocus := runtime.inputFocus.insert ns (focus, revertTo) }

/-- A request answered with an error. -/
def rejected (transaction : TransactionId) (error : XAuthorityRuntimeError) :
    XAuthorityResponsePacket where
  transaction := transaction
  outcome := .rejected error

def accepted (transaction : TransactionId) : XAuthorityResponsePacket where
  transaction := transaction
  outcome := .accepted

def finishDrawingUpdate (update : XDrawingUpdate) : XAuthorityResponsePacket × FullRuntime :=
  match runtime.toXAuthorityRuntime.finishDrawingUpdate update with
  | .error error => (rejected update.transaction error, runtime)
  | .ok (response, base) => (response, runtime.withBase base)

end Windows

section Pixmaps

def createPixmap (ns : NamespaceId) (pixmap : XResourceId) (generation : UInt64) :
    Result FullRuntime :=
  (runtime.toXAuthorityRuntime.createPixmap ns pixmap generation).map runtime.withBase

def freePixmap (ns : NamespaceId) (pixmap : XResourceId) :
    Result (Option BufferHandle × FullRuntime) :=
  (runtime.toXAuthorityRuntime.freePixmap ns pixmap).map fun base =>
    ((runtime.dri3Pixmaps[pixmap]?).map (·.handle),
      { runtime.withBase base with dri3Pixmaps := runtime.dri3Pixmaps.erase pixmap })

def dri3Format (depth bitsPerPixel : UInt8) : Result UInt32 :=
  if depth = 24 ∧ bitsPerPixel = 32 then .ok drmFormatXrgb8888
  else if depth = 32 ∧ bitsPerPixel = 32 then .ok drmFormatArgb8888
  else .error .invalidResource

/-- Enter a pixmap with its buffer. -/
def installDri3Pixmap (ns : NamespaceId) (pixmap : XResourceId) (generation : UInt64)
    (descriptor : DmaBufDescriptor) : Result (DmaBufDescriptor × FullRuntime) :=
  (runtime.createPixmap ns pixmap generation).map fun next =>
    (descriptor,
      { next with
        nextDmaBufHandle := max (saturatingAdd descriptor.handle.raw 1) 1
        dri3Pixmaps := runtime.dri3Pixmaps.insert pixmap descriptor })

def createDri3Pixmap (ns : NamespaceId) (pixmap : XResourceId) (generation : UInt64)
    (sizeBytes : UInt32) (width height stride : UInt16) (depth bitsPerPixel : UInt8) :
    Result (DmaBufDescriptor × FullRuntime) := do
  let format ← dri3Format depth bitsPerPixel
  let descriptor : DmaBufDescriptor :=
    { handle := .fromRaw (max runtime.nextDmaBufHandle 1)
      size := { width := .ofNat width.toNat, height := .ofNat height.toNat }
      format
      modifier := drmFormatModInvalid
      planeCount := 1
      planes := #v[some { offset := 0, stride := stride.toUInt32 }, none, none, none] }
  descriptor.validate.mapError fun _ => .invalidResource
  if sizeBytes.toNat < stride.toNat * height.toNat then throw .invalidResource
  runtime.installDri3Pixmap ns pixmap generation descriptor

def createDri3PixmapFromBuffers (ns : NamespaceId) (pixmap : XResourceId) (generation : UInt64)
    (numBuffers : UInt8) (width height : UInt16) (strides offsets : Vector UInt32 dmaBufMaxPlanes)
    (depth bitsPerPixel : UInt8) (modifier : UInt64) : Result (DmaBufDescriptor × FullRuntime) := do
  let format ← dri3Format depth bitsPerPixel
  if numBuffers = 0 ∨ dmaBufMaxPlanes < numBuffers.toNat then throw .invalidResource
  let descriptor : DmaBufDescriptor :=
    { handle := .fromRaw (max runtime.nextDmaBufHandle 1)
      size := { width := .ofNat width.toNat, height := .ofNat height.toNat }
      format
      modifier
      planeCount := numBuffers
      planes := Vector.ofFn fun index =>
        if index.val < numBuffers.toNat then
          some { offset := offsets[index], stride := strides[index] }
        else none }
  descriptor.validate.mapError fun _ => .invalidResource
  runtime.installDri3Pixmap ns pixmap generation descriptor

def presentStandardPixmap (transaction : TransactionId) (ns : NamespaceId)
    (window pixmap : XResourceId) : XAuthorityResponsePacket × FullRuntime :=
  match (runtime.windows.get window).filter (·.namespaceId = ns) with
  | none => (rejected transaction .unknownResource, runtime)
  | some record => match runtime.validatePixmapAccess ns pixmap with
    | .error error => (rejected transaction error, runtime)
    | .ok _ =>
      let buffer : BufferSource := match runtime.dri3Pixmaps[pixmap]? with
        | some descriptor => .dmaBuf descriptor.handle.raw
        | none => .xPixmap (if pixmap.localId.raw.toNat < UInt32.size then
            pixmap.localId.raw.toUInt32 else 0)
      runtime.finishDrawingUpdate
        { transaction, requesterNamespace := ns, targetWindow := window, kind := .presentPixmap
          buffer
          damage := .single { record.geometry with x := 0, y := 0 }
          previousCommittedGeneration := record.generation
          timeoutMsec := 250 }

end Pixmaps

section Regions

def createXfixesRegion (ns : NamespaceId) (region : XResourceId) (rectangles : List Rect)
    (generation : UInt64) : Result FullRuntime :=
  (runtime.toXAuthorityRuntime.createXfixesRegion ns region generation).map fun base =>
    { runtime.withBase base with xfixesRegions := runtime.xfixesRegions.insert region ⟨rectangles⟩ }

def setXfixesRegion (ns : NamespaceId) (region : XResourceId) (rectangles : List Rect) :
    Result FullRuntime :=
  (runtime.validateXfixesRegionAccess ns region).map fun _ =>
    { runtime with xfixesRegions := runtime.xfixesRegions.insert region ⟨rectangles⟩ }

def destroyXfixesRegion (ns : NamespaceId) (region : XResourceId) : Result FullRuntime :=
  (runtime.toXAuthorityRuntime.destroyXfixesRegion ns region).map fun base =>
    { runtime.withBase base with xfixesRegions := runtime.xfixesRegions.erase region }

def createDri3Fence (ns : NamespaceId) (fence : XResourceId) (generation : UInt64) :
    Result (FenceHandle × FullRuntime) :=
  (runtime.toXAuthorityRuntime.createDri3Fence ns fence generation).map fun base =>
    let handle : FenceHandle := .fromRaw (max runtime.nextFenceHandle 1)
    (handle,
      { runtime.withBase base with
        nextFenceHandle := max (saturatingAdd handle.raw 1) 1
        dri3Fences := runtime.dri3Fences.insert fence handle })

-- The record is gone even when there was no fence for it.
def destroyDri3Fence (ns : NamespaceId) (fence : XResourceId) : Result FenceHandle × FullRuntime :=
  match runtime.toXAuthorityRuntime.destroyDri3Fence ns fence with
  | .error error => (.error error, runtime)
  | .ok base =>
    ((runtime.dri3Fences[fence]?).elim (.error .unknownResource) .ok,
      { runtime.withBase base with dri3Fences := runtime.dri3Fences.erase fence })

def closeFont (ns : NamespaceId) (font : XResourceId) : Result FullRuntime :=
  (runtime.toXAuthorityRuntime.closeFont ns font).map runtime.withBase

def freeCursor (ns : NamespaceId) (cursor : XResourceId) : Result FullRuntime :=
  (runtime.toXAuthorityRuntime.freeCursor ns cursor).map runtime.withBase

end Regions

section Contexts

/-- A font the values name must be one the namespace may use. -/
def validateFont (ns : NamespaceId) (values : XGraphicsContextValues) : Result Unit :=
  values.font.elim (.ok ()) (runtime.validateFontAccess ns)

def createGraphicsContext (ns : NamespaceId) (gc drawable : XResourceId)
    (values : XGraphicsContextValues) : Result FullRuntime := do
  runtime.validateDrawableAccess ns drawable
  runtime.validateFont ns values
  let graphicsContexts ← (XGraphicsContextTable.create runtime.graphicsContexts ns gc drawable
    values).mapError (·.toRuntime)
  return { runtime with graphicsContexts }

def changeGraphicsContext (ns : NamespaceId) (gc : XResourceId) (mask : UInt32)
    (values : XGraphicsContextValues) : Result FullRuntime := do
  if mask &&& (1 <<< (14 : UInt32)) ≠ 0 then runtime.validateFont ns values
  let graphicsContexts ← (XGraphicsContextTable.change runtime.graphicsContexts ns gc mask
    values).mapError (·.toRuntime)
  return { runtime with graphicsContexts }

def setGraphicsContextClipRectangles (ns : NamespaceId) (gc : XResourceId)
    (rectangles : List Rect) : Result FullRuntime :=
  ((XGraphicsContextTable.setClipRectangles runtime.graphicsContexts ns gc rectangles).map
    fun graphicsContexts => { runtime with graphicsContexts }).mapError (·.toRuntime)

def freeGraphicsContext (ns : NamespaceId) (gc : XResourceId) : Result FullRuntime :=
  ((XGraphicsContextTable.remove runtime.graphicsContexts ns gc).map
    fun graphicsContexts => { runtime with graphicsContexts }).mapError (·.toRuntime)

end Contexts

section Release

/-- What the release of a client's resources reports. -/
structure XAuthorityClientResourceRelease where
  destroyedWindows : List XResourceId := []
  removedSurfaces : List SurfaceId := []
  releasedPixmaps : ℕ := 0
  releasedFonts : ℕ := 0
  releasedCursors : ℕ := 0
  releasedGraphicsContexts : ℕ := 0
  releasedShmSegments : ℕ := 0
  releasedGlxContexts : ℕ := 0
  releasedGlxWindows : ℕ := 0
  releasedDmaBufs : List BufferHandle := []
  releasedFences : List FenceHandle := []
  deriving DecidableEq, Repr

/-- The report so far and the runtime it is about. -/
abbrev Releasing := XAuthorityClientResourceRelease × FullRuntime

/-- The GLX objects of the client go first. -/
def releaseGlx (runtime : FullRuntime) (ns : NamespaceId) (range : XWireClientResourceRange) :
    Releasing :=
  let ownContext (id : XResourceId) (context : NamespaceId × UInt32 × Bool) : Bool :=
    context.1 = ns ∧ range.owns id
  let ownWindow (id : XResourceId) (window : NamespaceId × XResourceId × UInt32) : Bool :=
    window.1 = ns ∧ range.owns id
  ({ releasedGlxContexts := runtime.glxContexts.toList.countP fun entry => ownContext entry.1 entry.2
     releasedGlxWindows := runtime.glxWindows.toList.countP fun entry => ownWindow entry.1 entry.2 },
    { runtime with
      glxContexts := runtime.glxContexts.filter fun id context => !ownContext id context
      glxWindows := runtime.glxWindows.filter fun id window => !ownWindow id window })

def releaseGraphicsContext (ns : NamespaceId) (state : Releasing) (gc : XResourceId) :
    Result Releasing :=
  (state.2.freeGraphicsContext ns gc).map fun runtime =>
    ({ state.1 with releasedGraphicsContexts := state.1.releasedGraphicsContexts + 1 }, runtime)

def releaseShmSegment (ns : NamespaceId) (state : Releasing) (segment : XResourceId) :
    Result Releasing :=
  (state.2.detachShmSegment ns segment).map fun runtime =>
    ({ state.1 with releasedShmSegments := state.1.releasedShmSegments + 1 }, runtime)

def releaseRecord (ns : NamespaceId) (state : Releasing) (record : XResourceRecord) :
    Result Releasing :=
  let (release, runtime) := state
  let dropped := runtime.withBase (runtime.dropResource record.id)
  match record.kind with
  | .window => (runtime.destroyWindow ns record.id).map fun (surface, runtime) =>
    ({ release with
       destroyedWindows := release.destroyedWindows ++ [record.id]
       removedSurfaces := release.removedSurfaces ++ [surface] }, runtime)
  | .pixmap => (runtime.freePixmap ns record.id).map fun (handle, runtime) =>
    ({ release with
       releasedDmaBufs := release.releasedDmaBufs ++ handle.toList
       releasedPixmaps := release.releasedPixmaps + 1 }, runtime)
  | .font => (runtime.closeFont ns record.id).map fun runtime =>
    ({ release with releasedFonts := release.releasedFonts + 1 }, runtime)
  | .cursor => (runtime.freeCursor ns record.id).map fun runtime =>
    ({ release with releasedCursors := release.releasedCursors + 1 }, runtime)
  | .atom | .property | .graphicsContext => .ok (release, dropped)
  | .fence =>
    .ok ({ release with
           releasedFences := release.releasedFences ++ (runtime.dri3Fences[record.id]?).toList },
      { dropped with dri3Fences := runtime.dri3Fences.erase record.id })
  | .region =>
    .ok (release, { dropped with xfixesRegions := runtime.xfixesRegions.erase record.id })

/-- One loop of the release after another, up to the first that fails. -/
def andThen (done : Result Unit × Releasing) (next : Releasing → Result Unit × Releasing) :
    Result Unit × Releasing :=
  match done with
  | (.ok _, state) => next state
  | (.error error, state) => (.error error, state)

def releaseOwned (ns : NamespaceId) (range : XWireClientResourceRange) (state : Releasing) :
    Result Unit × Releasing :=
  andThen (Run.tryEach (releaseGraphicsContext ns)
      (state.2.graphicsContexts.idsForNamespaceInClientRange ns range) state) fun state =>
    andThen (Run.tryEach (releaseShmSegment ns)
        (state.2.shmSegments.idsForNamespaceInClientRange ns range) state) fun state =>
      Run.tryEach (releaseRecord ns)
        (state.2.resources.recordsForNamespaceInClientRange ns range) state

-- A release that fails half way reports nothing, but keeps what it did.
def releaseClientResourceRange (ns : NamespaceId) (range : XWireClientResourceRange) :
    Result XAuthorityClientResourceRelease × FullRuntime :=
  if !ns.isValid then (.error .invalidNamespace, runtime)
  else
    let released := releaseOwned ns range (runtime.releaseGlx ns range)
    (released.1.map fun _ => released.2.1, released.2.2)

end Release
end FullRuntime
end Sophia.Authority
