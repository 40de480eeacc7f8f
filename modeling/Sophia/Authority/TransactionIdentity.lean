import Sophia.Authority.PresentDispatch
import Sophia.Authority.RuntimeCalls
import Sophia.Lib.Handles

/-! What a decoded request makes the authority answer to the engine. -/
namespace Sophia.Authority.Listener

open Std Protocol FullRuntime

/-- A decoded request, with what its answer depends on. The pixels of a shared segment are what
the segment holds when it is read. Any other request is the calls it makes and has no answer. -/
inductive XWireRequest where
  | authority (packet : XAuthorityRequestPacket)
  | createWindow (packet : XAuthorityRequestPacket) (depth : UInt8) (visual : UInt32)
      (colormap : Option XResourceId) (backgroundPixel : Option UInt32)
  | destroyWindow (window : XResourceId)
  | clearArea (window : XResourceId) (x y : Int16) (width height : UInt16)
  | presentPixmap (request : XPresentPixmap)
  | shmPutImage (drawable segment : XResourceId) (srcWidth srcHeight : UInt16) (dstX dstY : Int16)
      (image : UInt32 → Option (List UInt8))
  | polyFillRectangle (drawable gc : XResourceId) (rectangles : List Rect)
  | copyArea (source destination gc : XResourceId) (srcX srcY dstX dstY : Int16)
      (width height : UInt16)
  | polyLine (drawable gc : XResourceId) (points : List XPoint)
  | polySegment (drawable : XResourceId) (damage : List Rect)
  | polyFillArc (drawable : XResourceId) (damage : List Rect)
  | polyText8 (drawable gc : XResourceId) (x y : Int16) (text : List UInt8)
  | imageText8 (drawable gc : XResourceId) (x y : Int16) (text : List UInt8)
  | fillPoly (drawable : XResourceId) (damage : Option Rect)
  | putImage (drawable : XResourceId) (width height : UInt16) (dstX dstY : Int16)
      (data : List UInt8)
  | other (calls : List RuntimeCall)

/-- What a request needs of the atoms and of its client beside the context. -/
structure Surroundings where
  byteOrder : XByteOrder
  atoms : XAtomTable

abbrev Answered := XAuthorityResponsePacket × FullRuntime

/-- The identity of a request that takes it from its client's count of requests. -/
def sequenceTransaction (context : XDispatchContext) : TransactionId :=
  .fromRaw context.sequence.toUInt64

/-- The rectangles pushed one after another; an empty one is left out. -/
def pushed (rects : List Rect) : Region := Region.empty.extend ⟨rects⟩

section Lookups

variable (runtime : FullRuntime) (ns : NamespaceId)

def graphicsContextValues (gc : XResourceId) : Result XGraphicsContextValues :=
  ((runtime.graphicsContexts.get ns gc).map (·.values)).mapError (·.toRuntime)

def windowBackgroundPixel (window : XResourceId) : Result UInt32 :=
  (runtime.validateWindowAccess ns window).map fun _ =>
    (runtime.windowBackgroundPixels[window]?).getD 0

def validateShmSegmentAccess (segment : XResourceId) : Result Unit :=
  access (XShmSegmentTable.lookup runtime.shmSegments ns segment)

def shmSegmentShmid (segment : XResourceId) : Result UInt32 :=
  ((XShmSegmentTable.lookup runtime.shmSegments ns segment).map (·.shmid)).mapError (·.toRuntime)

end Lookups

section Requests

variable (runtime : FullRuntime) (context : XDispatchContext)

/-- The name of a selection's target is looked up when the request is dispatched. -/
def named (atoms : XAtomTable) (packet : XAuthorityRequestPacket) : XAuthorityRequestPacket :=
  match packet.kind with
  | .requestSelection request transfer =>
    let targetName := (atoms.name request.target).getD request.targetName
    { packet with kind := .requestSelection { request with targetName } transfer }
  | _ => packet

def authority (around : Surroundings) (packet : XAuthorityRequestPacket) : Answered :=
  let (response, next) := runtime.apply (named around.atoms packet)
  match packet.kind with
  | .requestSelection _ transfer =>
    (response, next.withBase (next.setPendingClipboardByteOrder transfer around.byteOrder))
  | _ => (response, next)

def createWindow (packet : XAuthorityRequestPacket) (depth : UInt8) (visual : UInt32)
    (colormap : Option XResourceId) (backgroundPixel : Option UInt32) : Answered :=
  let (response, next) := runtime.apply packet
  match response.outcome, packet.kind with
  | .accepted, .createWindow window .. =>
    let next := next.after? id
      (next.setWindowBackgroundPixel packet.namespaceId window (backgroundPixel.getD 0))
    let visual := if visual = 0 then xSetupDefaultVisual else visual
    let depth := if depth = 0 then if visual = xSetupArgbVisual then 32 else 24 else depth
    (response, next.setWindowVisual window depth visual
      (colormap.getD (.new xSetupDefaultColormap 1)))
  | _, _ => (response, next)

def destroyWindow (window : XResourceId) : Answered :=
  match runtime.destroyWindow context.namespaceId window with
  | .ok (surface, next) =>
    ({ accepted (sequenceTransaction context) with removedSurfaces := [surface] }, next)
  | .error error => (rejected (sequenceTransaction context) error, runtime)

/-- A zero extent reaches to the window's edge. -/
def clearExtent (extent : UInt16) (place : Int16) (whole : Option Int32) : Int32 :=
  if extent = 0 then
    whole.elim 0 fun whole => max (saturateInt32 (whole.toInt - place.toInt)) 0
  else .ofNat extent.toNat

def clearArea (window : XResourceId) (x y : Int16) (width height : UInt16) : Answered :=
  let geometry := (runtime.windowGeometry context.namespaceId window).toOption
  match windowBackgroundPixel runtime context.namespaceId window with
  | .ok pixel =>
    runtime.applyClearWithPixel (sequenceTransaction context) context.namespaceId window
      (.single { x := x.toInt32, y := y.toInt32
                 width := clearExtent width x (geometry.map (·.width))
                 height := clearExtent height y (geometry.map (·.height)) }) pixel
  | .error error => (rejected (sequenceTransaction context) error, runtime)

/-- A draw on a pixmap is accepted and not done. -/
def unlessPixmap (drawable : XResourceId) (draw : Answered) : Answered :=
  if (runtime.validatePixmapAccess context.namespaceId drawable).isOk then
    (accepted (sequenceTransaction context), runtime)
  else draw

/-- A draw is refused with its graphics context. -/
def underGc (gc : XResourceId) (draw : XGraphicsContextValues → Answered) : Answered :=
  match graphicsContextValues runtime context.namespaceId gc with
  | .ok values => draw values
  | .error error => (rejected (sequenceTransaction context) error, runtime)

def shmPutImage (drawable segment : XResourceId) (srcWidth srcHeight : UInt16)
    (dstX dstY : Int16) (image : UInt32 → Option (List UInt8)) : Answered :=
  if (validateShmSegmentAccess runtime context.namespaceId segment).isOk then
    unlessPixmap runtime context drawable
      (runtime.applyPutImage (sequenceTransaction context) context.namespaceId drawable
        (.single (copyRect dstX dstY srcWidth srcHeight))
        ((shmSegmentShmid runtime context.namespaceId segment).toOption.bind image))
  else (accepted (sequenceTransaction context), runtime)

def polyFillRectangle (drawable gc : XResourceId) (rectangles : List Rect) : Answered :=
  unlessPixmap runtime context drawable (underGc runtime context gc
    (runtime.applyCoreDrawWithGc (sequenceTransaction context) context.namespaceId drawable
      (pushed rectangles)))

def copyArea (source destination gc : XResourceId) (srcX srcY dstX dstY : Int16)
    (width height : UInt16) : Answered :=
  underGc runtime context gc (runtime.applyCopyAreaWithGc (sequenceTransaction context)
    context.namespaceId source destination srcX srcY dstX dstY width height)

def polyLine (drawable gc : XResourceId) (points : List XPoint) : Answered :=
  if points.length < 2 then (accepted (sequenceTransaction context), runtime)
  else unlessPixmap runtime context drawable (underGc runtime context gc
    (runtime.applyLineDraw (sequenceTransaction context) context.namespaceId drawable points))

def polySegment (drawable : XResourceId) (damage : List Rect) : Answered :=
  unlessPixmap runtime context drawable
    (runtime.applyCoreDraw (sequenceTransaction context) context.namespaceId drawable
      (pushed damage))

def polyFillArc := polySegment

/-- A text whose graphics context is refused has no answer. -/
def dispatchTextDraw (drawable gc : XResourceId) (x y : Int16) (text : List UInt8)
    (isOpaque : Bool) : Option XAuthorityResponsePacket × FullRuntime :=
  if (runtime.validatePixmapAccess context.namespaceId drawable).isOk then
    (some (accepted (sequenceTransaction context)), runtime)
  else match graphicsContextValues runtime context.namespaceId gc with
    | .ok values =>
      (runtime.applyTextDraw (sequenceTransaction context) context.namespaceId drawable x y text
        isOpaque values).map some id
    | .error _ => (none, runtime)

def fillPoly (drawable : XResourceId) : Option Rect → Answered
  | none => (accepted (sequenceTransaction context), runtime)
  | some damage =>
    unlessPixmap runtime context drawable
      (runtime.applyCoreDraw (sequenceTransaction context) context.namespaceId drawable
        (.single damage))

def putImage (drawable : XResourceId) (width height : UInt16) (dstX dstY : Int16)
    (data : List UInt8) : Answered :=
  unlessPixmap runtime context drawable
    (runtime.applyPutImage (sequenceTransaction context) context.namespaceId drawable
      (.single (copyRect dstX dstY width height)) (some data))

/-- The answer of a runtime in which the dispatch has begun. -/
def respond (around : Surroundings) :
    XWireRequest → Option XAuthorityResponsePacket × FullRuntime
  | .authority packet => (authority runtime around packet).map some id
  | .createWindow packet depth visual colormap backgroundPixel =>
    (createWindow runtime packet depth visual colormap backgroundPixel).map some id
  | .destroyWindow window => (destroyWindow runtime context window).map some id
  | .clearArea window x y width height =>
    (clearArea runtime context window x y width height).map some id
  | .presentPixmap request => (runtime.dispatchPresentPixmap context request).map (·.response) id
  | .shmPutImage drawable segment srcWidth srcHeight dstX dstY image =>
    (shmPutImage runtime context drawable segment srcWidth srcHeight dstX dstY image).map some id
  | .polyFillRectangle drawable gc rectangles =>
    (polyFillRectangle runtime context drawable gc rectangles).map some id
  | .copyArea source destination gc srcX srcY dstX dstY width height =>
    (copyArea runtime context source destination gc srcX srcY dstX dstY width height).map some id
  | .polyLine drawable gc points => (polyLine runtime context drawable gc points).map some id
  | .polySegment drawable damage => (polySegment runtime context drawable damage).map some id
  | .polyFillArc drawable damage => (polyFillArc runtime context drawable damage).map some id
  | .polyText8 drawable gc x y text =>
    dispatchTextDraw runtime context drawable gc x y text false
  | .imageText8 drawable gc x y text =>
    dispatchTextDraw runtime context drawable gc x y text true
  | .fillPoly drawable damage => (fillPoly runtime context drawable damage).map some id
  | .putImage drawable width height dstX dstY data =>
    (putImage runtime context drawable width height dstX dstY data).map some id
  | .other calls => (none, Run.exec FullRuntime.step runtime calls)

def beginDispatch : FullRuntime := { runtime with lastCpuBufferUpdate := none }

def dispatchX11WireRequest (around : Surroundings) (request : XWireRequest) :
    Option XAuthorityResponsePacket × FullRuntime :=
  respond (beginDispatch runtime) context around request

end Requests
end Sophia.Authority.Listener

/-! Whose identity an answer carries, over all clients of one listener. -/
namespace Sophia.Authority.Listener

open Std Protocol FullRuntime Fallible

/-- The response, and all it asks of the engine, is under one identity. -/
def Carries (transaction : TransactionId) (response : XAuthorityResponsePacket) : Prop :=
  response.transaction = transaction ∧
    ∀ surface ∈ response.transactions, surface.transaction = transaction

instance (transaction : TransactionId) (response : XAuthorityResponsePacket) :
    Decidable (Carries transaction response) :=
  inferInstanceAs (Decidable (_ ∧ ∀ surface ∈ response.transactions, _ = _))

section Runtime

variable {runtime : FullRuntime} {base next : XAuthorityRuntime} {ns : NamespaceId}
  {transaction : TransactionId} {response : XAuthorityResponsePacket}

theorem carries_rejected (transaction : TransactionId) (error : XAuthorityRuntimeError) :
    Carries transaction (rejected transaction error) := ⟨rfl, by simp [rejected]⟩

theorem carries_accepted (transaction : TransactionId) :
    Carries transaction (accepted transaction) := ⟨rfl, by simp [accepted]⟩

theorem surfaceTransaction_identity {windows : XWindowTable} {update : XDrawingUpdate}
    {built : SurfaceTransaction}
    (h : surfaceTransactionFromDrawingUpdate windows update = .ok built) :
    built.transaction = update.transaction := by
  unfold surfaceTransactionFromDrawingUpdate at h
  iterate 4
    split at h
    · cases h
  split at h
  · cases h
  iterate 2
    split at h
    · cases h
  cases h
  rfl

theorem carries_finished {update : XDrawingUpdate}
    (h : base.finishDrawingUpdate update = .ok (response, next)) :
    Carries update.transaction response := by
  simp only [XAuthorityRuntime.finishDrawingUpdate, bind_eq_ok, mapError_eq_ok, pure_eq_ok] at h
  obtain ⟨built, hbuilt, windows, -, he⟩ := h
  cases he
  refine ⟨rfl, fun surface hmem => ?_⟩
  rw [List.mem_singleton.mp hmem]
  exact surfaceTransaction_identity hbuilt

theorem carries_finishDrawingUpdate (update : XDrawingUpdate) :
    Carries update.transaction (runtime.finishDrawingUpdate update).1 := by
  rw [FullRuntime.finishDrawingUpdate]
  cases h : runtime.toXAuthorityRuntime.finishDrawingUpdate update with
  | error error => exact carries_rejected _ error
  | ok answered => exact carries_finished h

theorem carries_conclude {window : XWindowRecord} {target : XResourceId}
    {kind : XDrawingUpdateKind} {damage : Region} {unpainted : XAuthorityResponsePacket}
    (h : Carries transaction unpainted)
    (painted : Option XAuthorityCpuBufferUpdate × XSoftwareBufferStore) :
    Carries transaction
      (runtime.conclude transaction ns window target kind damage unpainted painted).1 := by
  obtain ⟨_ | update, store⟩ := painted
  · exact h
  · exact carries_finishDrawingUpdate _

theorem carries_coreDraw (window : XResourceId) (damage : Region) (gc : XGraphicsContextValues) :
    Carries transaction (runtime.applyCoreDrawWithGc transaction ns window damage gc).1 := by
  unfold applyCoreDrawWithGc
  split
  · exact carries_rejected _ _
  · exact carries_conclude (carries_rejected _ _) _

theorem carries_copyArea (source destination : XResourceId) (srcX srcY dstX dstY : Int16)
    (width height : UInt16) (gc : XGraphicsContextValues) :
    Carries transaction (runtime.applyCopyAreaWithGc transaction ns source destination srcX srcY
      dstX dstY width height gc).1 := by
  unfold applyCopyAreaWithGc
  split
  · exact carries_rejected _ _
  split
  · exact carries_accepted _
  split
  · exact carries_rejected _ _
  dsimp only
  split
  · exact carries_coreDraw _ _ _
  · exact carries_conclude (carries_rejected _ _) _

theorem carries_lineDraw (window : XResourceId) (points : List XPoint)
    (gc : XGraphicsContextValues) :
    Carries transaction (runtime.applyLineDraw transaction ns window points gc).1 := by
  unfold applyLineDraw
  split
  · exact carries_rejected _ _
  · exact carries_conclude (carries_accepted _) _

theorem carries_putImage (window : XResourceId) (damage : Region) (data : Option (List UInt8)) :
    Carries transaction (runtime.applyPutImage transaction ns window damage data).1 := by
  unfold applyPutImage
  split
  · exact carries_rejected _ _
  · exact carries_conclude (carries_rejected _ _) _

theorem carries_textDraw (window : XResourceId) (x baseline : Int16) (text : List UInt8)
    (isOpaque : Bool) (gc : XGraphicsContextValues) :
    Carries transaction
      (runtime.applyTextDraw transaction ns window x baseline text isOpaque gc).1 := by
  unfold applyTextDraw
  split
  · exact carries_rejected _ _
  · exact carries_conclude (carries_rejected _ _) _

theorem carries_clear (window : XResourceId) (damage : Region) (pixel : UInt32) :
    Carries transaction (runtime.applyClearWithPixel transaction ns window damage pixel).1 := by
  unfold applyClearWithPixel
  split
  · exact carries_rejected _ _
  split
  · exact carries_accepted _
  · exact carries_conclude (carries_rejected _ _) _

theorem carries_presentStandardPixmap (window pixmap : XResourceId) :
    Carries transaction (runtime.presentStandardPixmap transaction ns window pixmap).1 := by
  unfold presentStandardPixmap
  split
  · exact carries_rejected _ _
  split
  · exact carries_rejected _ _
  · exact carries_finishDrawingUpdate _

end Runtime

section Packets

variable {base next : XAuthorityRuntime} {response : XAuthorityResponsePacket}

theorem answer_eq_ok {result : Except XAuthorityRuntimeError
    (XAuthorityResponsePacket × XAuthorityRuntime)} (h : (base.answer result).1 = .ok response) :
    ∃ next, result = .ok (response, next) := by
  rcases result with error | ⟨found, next⟩
  · cases h
  · cases h
    exact ⟨next, rfl⟩

theorem carries_applyChecked {packet : XAuthorityRequestPacket}
    (h : (base.applyChecked packet).1 = .ok response) :
    Carries packet.transaction response := by
  obtain ⟨transaction, ns, kind⟩ := packet
  cases kind with
  | createWindow window surface geometry constraints generation =>
    simp only [XAuthorityRuntime.applyChecked, XAuthorityRuntime.createWindow] at h
    split at h
    · cases h
    split at h
    · cases h
    · cases h
      exact ⟨rfl, by simp⟩
  | mapWindow window generation =>
    obtain ⟨next, h⟩ := answer_eq_ok h
    simp only [XAuthorityRuntime.mapWindow, bind_eq_ok, mapError_eq_ok, pure_eq_ok] at h
    obtain ⟨_, -, _, -, he⟩ := h
    cases he
    exact ⟨rfl, by simp⟩
  | presentPixmap window pixmap damage previousCommittedGeneration timeoutMsec =>
    obtain ⟨next, h⟩ := answer_eq_ok h
    exact carries_finished h
  | setSelectionOwner selection owner timestamp selectionTimestamp kind =>
    obtain ⟨next, h⟩ := answer_eq_ok h
    simp only [XAuthorityRuntime.setSelectionOwner, bind_eq_ok, pure_eq_ok] at h
    obtain ⟨_, -, he⟩ := h
    cases he
    exact ⟨rfl, by simp⟩
  | requestSelection request transfer =>
    obtain ⟨next, h⟩ := answer_eq_ok h
    simp only [XAuthorityRuntime.requestSelection, bind_eq_ok, mapError_eq_ok, pure_eq_ok] at h
    obtain ⟨_, -, ⟨answer, clipboard⟩, -, he⟩ := h
    cases answer <;> cases he <;> exact ⟨rfl, by simp⟩

theorem carries_apply (runtime : FullRuntime) (packet : XAuthorityRequestPacket) :
    Carries packet.transaction (runtime.apply packet).1 := by
  simp only [FullRuntime.apply, XAuthorityRuntime.apply]
  split
  · rename_i hok
    exact carries_applyChecked (congrArg Prod.fst hok)
  · exact ⟨rfl, by simp⟩

end Packets

section Responses

variable {runtime : FullRuntime} {context : XDispatchContext} {transaction : TransactionId}
  {answered : Answered} {answer : Option XAuthorityResponsePacket}

/-- The identity a response to the request is under. -/
def XWireRequest.identity (context : XDispatchContext) : XWireRequest → TransactionId
  | .authority packet | .createWindow packet .. => packet.transaction
  | .presentPixmap request => request.transaction
  | _ => sequenceTransaction context

/-- The request is answered, and under its client's count of requests. -/
def XWireRequest.bySequence (runtime : FullRuntime) (ns : NamespaceId) : XWireRequest → Bool
  | .authority _ | .createWindow .. | .presentPixmap _ | .other _ => false
  | .polyText8 drawable gc .. | .imageText8 drawable gc .. =>
    (runtime.validatePixmapAccess ns drawable).isOk || (graphicsContextValues runtime ns gc).isOk
  | _ => true

theorem carries_some (h : Carries transaction answered.1) :
    ∀ response ∈ (answered.map some id).1, Carries transaction response := by
  rintro _ ⟨⟩
  exact h

theorem carries_unlessPixmap (drawable : XResourceId)
    (h : Carries (sequenceTransaction context) answered.1) :
    Carries (sequenceTransaction context) (unlessPixmap runtime context drawable answered).1 := by
  unfold unlessPixmap
  split
  · exact carries_accepted _
  · exact h

theorem carries_underGc (gc : XResourceId) {draw : XGraphicsContextValues → Answered}
    (h : ∀ values, Carries (sequenceTransaction context) (draw values).1) :
    Carries (sequenceTransaction context) (underGc runtime context gc draw).1 := by
  unfold underGc
  split
  · exact h _
  · exact carries_rejected _ _

theorem carries_text (drawable gc : XResourceId) (x y : Int16) (text : List UInt8)
    (isOpaque : Bool) :
    ∀ response ∈ (dispatchTextDraw runtime context drawable gc x y text isOpaque).1,
      Carries (sequenceTransaction context) response := by
  unfold dispatchTextDraw
  split
  · rintro _ ⟨⟩
    exact carries_accepted _
  split
  · exact carries_some (carries_textDraw _ _ _ _ _ _)
  · rintro _ ⟨⟩

theorem isSome_textDraw (drawable gc : XResourceId) (x y : Int16) (text : List UInt8)
    (isOpaque : Bool) :
    (dispatchTextDraw runtime context drawable gc x y text isOpaque).1.isSome =
      ((runtime.validatePixmapAccess context.namespaceId drawable).isOk ||
        (graphicsContextValues runtime context.namespaceId gc).isOk) := by
  unfold dispatchTextDraw
  cases hpixmap : (runtime.validatePixmapAccess context.namespaceId drawable).isOk with
  | true => rfl
  | false => cases graphicsContextValues runtime context.namespaceId gc <;> rfl

theorem carries_authority (around : Surroundings) (packet : XAuthorityRequestPacket) :
    Carries packet.transaction (authority runtime around packet).1 := by
  have hnamed : (named around.atoms packet).transaction = packet.transaction := by
    unfold named
    split <;> rfl
  have hcarries := carries_apply runtime (named around.atoms packet)
  rw [hnamed] at hcarries
  unfold authority
  generalize runtime.apply (named around.atoms packet) = answered at hcarries ⊢
  obtain ⟨response, next⟩ := answered
  dsimp only
  split <;> exact hcarries

theorem carries_createWindow (packet : XAuthorityRequestPacket) (depth : UInt8) (visual : UInt32)
    (colormap : Option XResourceId) (backgroundPixel : Option UInt32) :
    Carries packet.transaction
      (createWindow runtime packet depth visual colormap backgroundPixel).1 := by
  have hcarries := carries_apply runtime packet
  unfold createWindow
  generalize runtime.apply packet = answered at hcarries ⊢
  obtain ⟨response, next⟩ := answered
  dsimp only
  split <;> exact hcarries

theorem carries_destroyWindow (window : XResourceId) :
    Carries (sequenceTransaction context) (destroyWindow runtime context window).1 := by
  unfold destroyWindow
  split
  · exact carries_accepted _
  · exact carries_rejected _ _

theorem carries_clearArea (window : XResourceId) (x y : Int16) (width height : UInt16) :
    Carries (sequenceTransaction context)
      (clearArea runtime context window x y width height).1 := by
  unfold clearArea
  split
  · exact carries_clear _ _ _
  · exact carries_rejected _ _

theorem carries_shmPutImage (drawable segment : XResourceId) (srcWidth srcHeight : UInt16)
    (dstX dstY : Int16) (image : UInt32 → Option (List UInt8)) :
    Carries (sequenceTransaction context)
      (shmPutImage runtime context drawable segment srcWidth srcHeight dstX dstY image).1 := by
  unfold shmPutImage
  split
  · exact carries_unlessPixmap _ (carries_putImage _ _ _)
  · exact carries_accepted _

theorem carries_polyLine (drawable gc : XResourceId) (points : List XPoint) :
    Carries (sequenceTransaction context) (polyLine runtime context drawable gc points).1 := by
  unfold polyLine
  split
  · exact carries_accepted _
  · exact carries_unlessPixmap _ (carries_underGc _ fun _ => carries_lineDraw _ _ _)

theorem carries_polySegment (drawable : XResourceId) (damage : List Rect) :
    Carries (sequenceTransaction context) (polySegment runtime context drawable damage).1 :=
  carries_unlessPixmap _ (carries_coreDraw _ _ _)

theorem carries_fillPoly (drawable : XResourceId) (damage : Option Rect) :
    Carries (sequenceTransaction context) (fillPoly runtime context drawable damage).1 := by
  cases damage with
  | none => exact carries_accepted _
  | some damage => exact carries_unlessPixmap _ (carries_coreDraw _ _ _)

theorem carries_presentPixmap (request : XPresentPixmap) :
    ∀ response ∈ (runtime.dispatchPresentPixmap context request).1.response,
      Carries request.transaction response := by
  unfold dispatchPresentPixmap
  split
  · rintro _ ⟨⟩
  · rintro _ ⟨⟩
    exact carries_presentStandardPixmap _ _

/-- Every response is under the request's identity. -/
theorem carries_respond (runtime : FullRuntime) (context : XDispatchContext)
    (around : Surroundings) (request : XWireRequest) :
    ∀ response ∈ (respond runtime context around request).1,
      Carries (request.identity context) response := by
  cases request with
  | authority packet => exact carries_some (carries_authority around packet)
  | createWindow packet depth visual colormap backgroundPixel =>
    exact carries_some (carries_createWindow packet depth visual colormap backgroundPixel)
  | destroyWindow window => exact carries_some (carries_destroyWindow window)
  | clearArea window x y width height =>
    exact carries_some (carries_clearArea window x y width height)
  | presentPixmap request => exact carries_presentPixmap request
  | shmPutImage drawable segment srcWidth srcHeight dstX dstY image =>
    exact carries_some (carries_shmPutImage drawable segment srcWidth srcHeight dstX dstY image)
  | polyFillRectangle drawable gc rectangles =>
    exact carries_some (carries_unlessPixmap _ (carries_underGc _ fun _ => carries_coreDraw _ _ _))
  | copyArea source destination gc srcX srcY dstX dstY width height =>
    exact carries_some (carries_underGc _ fun _ => carries_copyArea _ _ _ _ _ _ _ _ _)
  | polyLine drawable gc points => exact carries_some (carries_polyLine drawable gc points)
  | polySegment drawable damage => exact carries_some (carries_polySegment drawable damage)
  | polyFillArc drawable damage => exact carries_some (carries_polySegment drawable damage)
  | polyText8 drawable gc x y text => exact carries_text drawable gc x y text false
  | imageText8 drawable gc x y text => exact carries_text drawable gc x y text true
  | fillPoly drawable damage => exact carries_some (carries_fillPoly drawable damage)
  | putImage drawable width height dstX dstY data =>
    exact carries_some (carries_unlessPixmap _ (carries_putImage _ _ _))
  | other calls => rintro _ ⟨⟩

/-- An answer is under an identity besides its own only if they are one. -/
theorem carries_iff {own : TransactionId} (h : ∀ response ∈ answer, Carries own response) :
    (∀ response ∈ answer, Carries transaction response) ↔ (answer.isSome → own = transaction) := by
  constructor
  · intro hcarries hsome
    obtain ⟨response, hresponse⟩ := Option.isSome_iff_exists.mp hsome
    exact (h response hresponse).1.symm.trans (hcarries response hresponse).1
  · rintro hsame response hresponse
    rw [← hsame (Option.isSome_of_mem hresponse)]
    exact h response hresponse

end Responses
end Sophia.Authority.Listener
