import Sophia.Authority.Drawing

/-! Runs of calls into the whole runtime, and what they are for its base. -/
namespace Sophia.Authority

open Std Sophia.Protocol

/-- Calls that reach no table outside the base. -/
def RuntimeOp.plain : RuntimeOp → Bool
  | .finishDrawingUpdate .. | .destroyWindow .. | .dropResource .. => false
  | .createResource kind .. => kind ≠ .region ∧ kind ≠ .fence
  | .freeResource kind .. => kind = .font ∨ kind = .cursor
  | _ => true

namespace FullRuntime

/-- One call into the whole runtime. -/
inductive RuntimeCall where
  | plain (op : RuntimeOp) (h : op.plain)
  | configureWindowSizeFromEngine (ns : NamespaceId) (window : XResourceId) (size : Size)
  | destroyWindow (ns : NamespaceId) (window : XResourceId)
  | releaseClientResourceRange (ns : NamespaceId) (range : XWireClientResourceRange)
  | freePixmap (ns : NamespaceId) (pixmap : XResourceId)
  | createDri3Pixmap (ns : NamespaceId) (pixmap : XResourceId) (generation : UInt64)
      (sizeBytes : UInt32) (width height stride : UInt16) (depth bitsPerPixel : UInt8)
  | createDri3PixmapFromBuffers (ns : NamespaceId) (pixmap : XResourceId) (generation : UInt64)
      (numBuffers : UInt8) (width height : UInt16) (strides offsets : Vector UInt32 dmaBufMaxPlanes)
      (depth bitsPerPixel : UInt8) (modifier : UInt64)
  | presentStandardPixmap (transaction : TransactionId) (ns : NamespaceId)
      (window pixmap : XResourceId)
  | createXfixesRegion (ns : NamespaceId) (region : XResourceId) (rectangles : List Rect)
      (generation : UInt64)
  | setXfixesRegion (ns : NamespaceId) (region : XResourceId) (rectangles : List Rect)
  | destroyXfixesRegion (ns : NamespaceId) (region : XResourceId)
  | createDri3Fence (ns : NamespaceId) (fence : XResourceId) (generation : UInt64)
  | destroyDri3Fence (ns : NamespaceId) (fence : XResourceId)
  | attachShmSegment (ns : NamespaceId) (segment : XResourceId) (shmid : UInt32) (readOnly : Bool)
      (generation : UInt64)
  | detachShmSegment (ns : NamespaceId) (segment : XResourceId)
  | createGraphicsContext (ns : NamespaceId) (gc drawable : XResourceId)
      (values : XGraphicsContextValues)
  | changeGraphicsContext (ns : NamespaceId) (gc : XResourceId) (mask : UInt32)
      (values : XGraphicsContextValues)
  | setGraphicsContextClipRectangles (ns : NamespaceId) (gc : XResourceId) (rectangles : List Rect)
  | freeGraphicsContext (ns : NamespaceId) (gc : XResourceId)
  | createGlxContext (ns : NamespaceId) (context : XResourceId) (fbconfig : UInt32) (direct : Bool)
  | destroyGlxContext (ns : NamespaceId) (context : XResourceId)
  | createGlxWindow (ns : NamespaceId) (glxWindow window : XResourceId) (fbconfig : UInt32)
  | destroyGlxWindow (ns : NamespaceId) (glxWindow : XResourceId)
  | setWindowVisual (window : XResourceId) (depth : UInt8) (visual : UInt32)
      (colormap : XResourceId)
  | setWindowBackgroundPixel (ns : NamespaceId) (window : XResourceId) (pixel : UInt32)
  | setInputFocus (ns : NamespaceId) (focus : XResourceId) (revertTo : UInt8)
  | copyArea (transaction : TransactionId) (ns : NamespaceId) (source destination : XResourceId)
      (damage : Region)
  | draw (call : DrawCall)
  | takeCpuBufferUpdate

variable (runtime : FullRuntime)

/-- The runtime after a call that changes nothing when it fails. -/
def after? {α : Type} (next : α → FullRuntime) (result : Result α) : FullRuntime :=
  match result with
  | .ok a => next a
  | .error _ => runtime

def step : RuntimeCall → FullRuntime
  | .plain op _ => runtime.withBase (runtime.toXAuthorityRuntime.step op)
  | .configureWindowSizeFromEngine ns window size =>
    runtime.after? Prod.snd (runtime.configureWindowSizeFromEngine ns window size)
  | .destroyWindow ns window => runtime.after? Prod.snd (runtime.destroyWindow ns window)
  | .releaseClientResourceRange ns range => (runtime.releaseClientResourceRange ns range).2
  | .freePixmap ns pixmap => runtime.after? Prod.snd (runtime.freePixmap ns pixmap)
  | .createDri3Pixmap ns pixmap generation sizeBytes width height stride depth bitsPerPixel =>
    runtime.after? Prod.snd (runtime.createDri3Pixmap ns pixmap generation sizeBytes width height
      stride depth bitsPerPixel)
  | .createDri3PixmapFromBuffers ns pixmap generation numBuffers width height strides offsets depth
      bitsPerPixel modifier =>
    runtime.after? Prod.snd (runtime.createDri3PixmapFromBuffers ns pixmap generation numBuffers
      width height strides offsets depth bitsPerPixel modifier)
  | .presentStandardPixmap transaction ns window pixmap =>
    (runtime.presentStandardPixmap transaction ns window pixmap).2
  | .createXfixesRegion ns region rectangles generation =>
    runtime.after? id (runtime.createXfixesRegion ns region rectangles generation)
  | .setXfixesRegion ns region rectangles =>
    runtime.after? id (runtime.setXfixesRegion ns region rectangles)
  | .destroyXfixesRegion ns region => runtime.after? id (runtime.destroyXfixesRegion ns region)
  | .createDri3Fence ns fence generation =>
    runtime.after? Prod.snd (runtime.createDri3Fence ns fence generation)
  | .destroyDri3Fence ns fence => (runtime.destroyDri3Fence ns fence).2
  | .attachShmSegment ns segment shmid readOnly generation =>
    runtime.after? id (runtime.attachShmSegment ns segment shmid readOnly generation)
  | .detachShmSegment ns segment => runtime.after? id (runtime.detachShmSegment ns segment)
  | .createGraphicsContext ns gc drawable values =>
    runtime.after? id (runtime.createGraphicsContext ns gc drawable values)
  | .changeGraphicsContext ns gc mask values =>
    runtime.after? id (runtime.changeGraphicsContext ns gc mask values)
  | .setGraphicsContextClipRectangles ns gc rectangles =>
    runtime.after? id (runtime.setGraphicsContextClipRectangles ns gc rectangles)
  | .freeGraphicsContext ns gc => runtime.after? id (runtime.freeGraphicsContext ns gc)
  | .createGlxContext ns context fbconfig direct =>
    runtime.after? id (runtime.createGlxContext ns context fbconfig direct)
  | .destroyGlxContext ns context => runtime.after? id (runtime.destroyGlxContext ns context)
  | .createGlxWindow ns glxWindow window fbconfig =>
    runtime.after? id (runtime.createGlxWindow ns glxWindow window fbconfig)
  | .destroyGlxWindow ns glxWindow => runtime.after? id (runtime.destroyGlxWindow ns glxWindow)
  | .setWindowVisual window depth visual colormap =>
    runtime.setWindowVisual window depth visual colormap
  | .setWindowBackgroundPixel ns window pixel =>
    runtime.after? id (runtime.setWindowBackgroundPixel ns window pixel)
  | .setInputFocus ns focus revertTo => runtime.after? id (runtime.setInputFocus ns focus revertTo)
  | .copyArea transaction ns source destination damage =>
    (runtime.applyCopyArea transaction ns source destination damage).2
  | .draw call => (runtime.draw call).2
  | .takeCpuBufferUpdate => { runtime with lastCpuBufferUpdate := none }

/-- The runtime after a sequence of calls from the start. -/
def after (calls : List RuntimeCall) : FullRuntime := Run.exec step new calls

end FullRuntime
end Sophia.Authority
