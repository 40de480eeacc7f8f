import Sophia.Authority.DrawDamage
import Sophia.Authority.FullRuntime

/-! The drawing requests: pixels are painted, then the engine's transaction is built. -/
namespace Sophia.Authority

open Std Sophia.Protocol

def XWindowRecord.size (record : XWindowRecord) : Size :=
  ⟨record.geometry.width, record.geometry.height⟩

/-- The box of the points, without the half line that is painted around them. -/
def lineDamage (points : List XPoint) (lineWidth : UInt16) : Rect :=
  let width : ℤ := max lineWidth.toNat 1
  let extent (coordinates : List ℤ) : Int32 × Int32 :=
    let low := coordinates.min?.getD 0
    (.ofInt low, saturateInt32 (saturated (coordinates.max?.getD 0 - low) + width))
  let x := extent (points.map (·.x.toInt))
  let y := extent (points.map (·.y.toInt))
  { x := x.1, y := y.1, width := x.2, height := y.2 }

namespace FullRuntime

/-- The requests that paint in a software buffer. -/
inductive DrawCall where
  | coreDraw (transaction : TransactionId) (ns : NamespaceId) (window : XResourceId)
      (damage : Region) (gc : XGraphicsContextValues)
  | copyArea (transaction : TransactionId) (ns : NamespaceId) (source destination : XResourceId)
      (srcX srcY dstX dstY : Int16) (width height : UInt16) (gc : XGraphicsContextValues)
  | lineDraw (transaction : TransactionId) (ns : NamespaceId) (window : XResourceId)
      (points : List XPoint) (gc : XGraphicsContextValues)
  | putImage (transaction : TransactionId) (ns : NamespaceId) (window : XResourceId)
      (damage : Region) (data : Option (List UInt8))
  | textDraw (transaction : TransactionId) (ns : NamespaceId) (window : XResourceId)
      (x baseline : Int16) (text : List UInt8) (isOpaque : Bool) (gc : XGraphicsContextValues)
  | clear (transaction : TransactionId) (ns : NamespaceId) (window : XResourceId)
      (damage : Region) (pixel : UInt32)

variable (runtime : FullRuntime)

/-- Record the painted pixels and go on to the engine's transaction, or answer that there are
none. -/
def conclude (transaction : TransactionId) (ns : NamespaceId) (window : XWindowRecord)
    (target : XResourceId) (kind : XDrawingUpdateKind) (damage : Region)
    (unpainted : XAuthorityResponsePacket) :
    Option XAuthorityCpuBufferUpdate × XSoftwareBufferStore →
      XAuthorityResponsePacket × FullRuntime
  | (none, softwareBuffers) => (unpainted, { runtime with softwareBuffers })
  | (some update, softwareBuffers) =>
    finishDrawingUpdate { runtime with softwareBuffers, lastCpuBufferUpdate := some update }
      { transaction, requesterNamespace := ns, targetWindow := target, kind
        buffer := .cpuBuffer update.handle
        damage
        previousCommittedGeneration := window.generation
        timeoutMsec := 250 }

def applyCoreDrawWithGc (transaction : TransactionId) (ns : NamespaceId) (window : XResourceId)
    (damage : Region) (gc : XGraphicsContextValues) : XAuthorityResponsePacket × FullRuntime :=
  match runtime.windows.get window with
  | none => (rejected transaction .unknownResource, runtime)
  | some record =>
    runtime.conclude transaction ns record window .coreDraw damage
      (rejected transaction .invalidResource)
      (runtime.softwareBuffers.paintDamage window record.size damage.rects gc)

def applyCoreDraw (transaction : TransactionId) (ns : NamespaceId) (window : XResourceId)
    (damage : Region) : XAuthorityResponsePacket × FullRuntime :=
  runtime.applyCoreDrawWithGc transaction ns window damage {}

-- Nothing is painted on pixmaps.
def applyCopyArea (transaction : TransactionId) (ns : NamespaceId)
    (source destination : XResourceId) (damage : Region) :
    XAuthorityResponsePacket × FullRuntime :=
  match runtime.validateDrawableAccess ns source with
  | .error error => (rejected transaction error, runtime)
  | .ok _ =>
    if (runtime.validatePixmapAccess ns destination).isOk then (accepted transaction, runtime)
    else runtime.applyCoreDraw transaction ns destination damage

def applyCopyAreaWithGc (transaction : TransactionId) (ns : NamespaceId)
    (source destination : XResourceId) (srcX srcY dstX dstY : Int16) (width height : UInt16)
    (gc : XGraphicsContextValues) : XAuthorityResponsePacket × FullRuntime :=
  match runtime.validateDrawableAccess ns source with
  | .error error => (rejected transaction error, runtime)
  | .ok _ =>
    if (runtime.validatePixmapAccess ns destination).isOk then (accepted transaction, runtime)
    else match runtime.windows.get destination with
      | none => (rejected transaction .unknownResource, runtime)
      | some record =>
        let damage : Region := .single (copyRect dstX dstY width height)
        match runtime.softwareBuffers.copyArea source destination record.size
          (copyRect srcX srcY width height) dstX dstY gc with
        -- What could not be copied is filled instead.
        | (none, softwareBuffers) =>
          applyCoreDrawWithGc { runtime with softwareBuffers } transaction ns destination damage gc
        | (some update, softwareBuffers) =>
          runtime.conclude transaction ns record destination .coreDraw damage
            (rejected transaction .invalidResource) (some update, softwareBuffers)

def applyLineDraw (transaction : TransactionId) (ns : NamespaceId) (window : XResourceId)
    (points : List XPoint) (gc : XGraphicsContextValues) :
    XAuthorityResponsePacket × FullRuntime :=
  match runtime.windows.get window with
  | none => (rejected transaction .unknownResource, runtime)
  | some record =>
    runtime.conclude transaction ns record window .coreDraw
      (.single (lineDamage points gc.lineWidth)) (accepted transaction)
      (runtime.softwareBuffers.drawLines window record.size points gc)

/-- The image goes to the first rectangle; without it the rectangles are blanked. -/
def paintImage (store : XSoftwareBufferStore) (window : XResourceId) (size : Size)
    (rects : List Rect) (data : Option (List UInt8)) :
    Option XAuthorityCpuBufferUpdate × XSoftwareBufferStore :=
  match data, rects with
  | some data, rect :: _ => match store.putImage window size rect data with
    | (none, store) => store.paintDamage window size rects {}
    | painted => painted
  | _, _ => store.paintDamage window size rects {}

def applyPutImage (transaction : TransactionId) (ns : NamespaceId) (window : XResourceId)
    (damage : Region) (data : Option (List UInt8)) : XAuthorityResponsePacket × FullRuntime :=
  match runtime.windows.get window with
  | none => (rejected transaction .unknownResource, runtime)
  | some record =>
    runtime.conclude transaction ns record window .shmPutImage damage
      (rejected transaction .invalidResource)
      (paintImage runtime.softwareBuffers window record.size damage.rects data)

def applyTextDraw (transaction : TransactionId) (ns : NamespaceId) (window : XResourceId)
    (x baseline : Int16) (text : List UInt8) (isOpaque : Bool) (gc : XGraphicsContextValues) :
    XAuthorityResponsePacket × FullRuntime :=
  match runtime.windows.get window with
  | none => (rejected transaction .unknownResource, runtime)
  | some record =>
    let damage := textDamage x baseline text
    runtime.conclude transaction ns record window .coreDraw
      (.single { damage with width := max damage.width 1 }) (rejected transaction .invalidResource)
      (runtime.softwareBuffers.drawText window record.size x baseline text isOpaque gc)

def applyClearWithPixel (transaction : TransactionId) (ns : NamespaceId) (window : XResourceId)
    (damage : Region) (pixel : UInt32) : XAuthorityResponsePacket × FullRuntime :=
  match runtime.windows.get window with
  | none => (rejected transaction .unknownResource, runtime)
  | some record => match damage.rects with
    | [] => (accepted transaction, runtime)
    | rect :: _ =>
      runtime.conclude transaction ns record window .coreDraw damage
        (rejected transaction .invalidResource)
        (runtime.softwareBuffers.clear window record.size rect pixel)

def draw : DrawCall → XAuthorityResponsePacket × FullRuntime
  | .coreDraw transaction ns window damage gc =>
    runtime.applyCoreDrawWithGc transaction ns window damage gc
  | .copyArea transaction ns source destination srcX srcY dstX dstY width height gc =>
    runtime.applyCopyAreaWithGc transaction ns source destination srcX srcY dstX dstY width height
      gc
  | .lineDraw transaction ns window points gc =>
    runtime.applyLineDraw transaction ns window points gc
  | .putImage transaction ns window damage data =>
    runtime.applyPutImage transaction ns window damage data
  | .textDraw transaction ns window x baseline text isOpaque gc =>
    runtime.applyTextDraw transaction ns window x baseline text isOpaque gc
  | .clear transaction ns window damage pixel =>
    runtime.applyClearWithPixel transaction ns window damage pixel

end FullRuntime
end Sophia.Authority
