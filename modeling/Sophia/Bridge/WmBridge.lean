import Sophia.Lib.Run
import Sophia.Protocol.Wm

/-! The bridge between the Engine's layout requests and a legacy window manager: surfaces become
synthetic windows, and the manager's requests become layout commands. -/
namespace Sophia.Bridge

open Std Protocol

/-- A private handle of the bridge; it identifies no client's resource. -/
structure SyntheticXWindowId where
  raw : UInt32
  deriving DecidableEq, Repr

namespace SyntheticXWindowId

instance : Ord SyntheticXWindowId := ⟨compareOn raw⟩

instance : TransOrd SyntheticXWindowId :=
  inferInstanceAs (TransCmp (compareOn SyntheticXWindowId.raw))

instance : LawfulEqOrd SyntheticXWindowId where
  eq_of_compare {a b} h := by
    cases a
    cases b
    exact congrArg _ (LawfulEqOrd.eq_of_compare h)

end SyntheticXWindowId

def syntheticRootXid : UInt32 := 0x20

def firstSyntheticWindowXid : UInt32 := 0x10000

def maxSyntheticWindows : ℕ := 4096

def maxLegacyWmRequests : ℕ := 8192

inductive SyntheticXEvent where
  | rootConfigured (bounds : Rect)
  | mapRequest (window : SyntheticXWindowId)
  | configureNotify (window : SyntheticXWindowId) (geometry : Rect)
  | unmapNotify (window : SyntheticXWindowId)
  | destroyNotify (window : SyntheticXWindowId)
  deriving DecidableEq

structure BridgeEngineUpdate where
  transaction : TransactionId
  events : List SyntheticXEvent
  deriving DecidableEq

inductive LegacyWmRequest where
  | configureWindow (window : SyntheticXWindowId) (geometry : Rect) (zIndex : Int32)
  | focusWindow (window : SyntheticXWindowId)
  deriving DecidableEq

def LegacyWmRequest.window : LegacyWmRequest → SyntheticXWindowId
  | .configureWindow window _ _ | .focusWindow window => window

inductive X11WmBridgeError where
  | syntheticWindowLimit
  | unknownSyntheticWindow
  | invalidGeometry
  | requestLimit
  | unsupportedAction
  | unavailableSessionAction
  deriving DecidableEq

structure X11WmBridgeState where
  nextXid : UInt32
  surfaceToWindow : ExtTreeMap SurfaceId SyntheticXWindowId
  windowToNode : ExtTreeMap SyntheticXWindowId LayoutNodeSnapshot
  rootBounds : Option Rect

namespace X11WmBridgeState

def new : X11WmBridgeState := ⟨firstSyntheticWindowXid, ∅, ∅, none⟩

variable (bridge : X11WmBridgeState)

def syntheticWindow (surface : SurfaceId) : Option SyntheticXWindowId :=
  bridge.surfaceToWindow[surface]?

/-- The window beside the surface's own, in the order of the surfaces and around its ends. -/
def cycleFocusWindow (surface : SurfaceId) (forward : Bool) : Option SyntheticXWindowId := do
  let current ← bridge.surfaceToWindow[surface]?
  let windows := bridge.surfaceToWindow.toList.map Prod.snd
  let index ← windows.findIdx? (· = current)
  let next :=
    if forward then (index + 1) % windows.length
    else (index + windows.length - 1) % windows.length
  windows[next]?

def syntheticGeometry (window : SyntheticXWindowId) : Option Rect :=
  bridge.windowToNode[window]?.map (·.geometry)

def updateRoot (bounds : Rect) : X11WmBridgeState × List SyntheticXEvent :=
  if bridge.rootBounds = some bounds then (bridge, [])
  else ({ bridge with rootBounds := some bounds }, [.rootConfigured bounds])

/-- The window of the node's surface, and whether it is new. -/
def upsertNode (node : LayoutNodeSnapshot) :
    Except X11WmBridgeError (X11WmBridgeState × SyntheticXWindowId × Bool) :=
  match bridge.surfaceToWindow[node.surface]? with
  | some window =>
    .ok ({ bridge with windowToNode := bridge.windowToNode.insert window node }, window, false)
  | none =>
    if maxSyntheticWindows ≤ bridge.surfaceToWindow.size then .error .syntheticWindowLimit
    else if bridge.nextXid.toNat + 1 < UInt32.size then
      let window : SyntheticXWindowId := ⟨bridge.nextXid⟩
      .ok ({ bridge with
        nextXid := bridge.nextXid + 1
        surfaceToWindow := bridge.surfaceToWindow.insert node.surface window
        windowToNode := bridge.windowToNode.insert window node }, window, true)
    else .error .syntheticWindowLimit

/-- One node of a request; its event goes behind those of the nodes before it. -/
def observeNode (progress : X11WmBridgeState × List SyntheticXEvent) (node : LayoutNodeSnapshot) :
    Except X11WmBridgeError (X11WmBridgeState × List SyntheticXEvent) :=
  (progress.1.upsertNode node).map fun (bridge, window, created) =>
    (bridge, progress.2 ++
      [if created then .mapRequest window else .configureNotify window node.geometry])

/-- The nodes are taken in one by one; an error keeps those before it in the tables. -/
def observeNodes (transaction : TransactionId) (nodes : List LayoutNodeSnapshot)
    (progress : X11WmBridgeState × List SyntheticXEvent) :
    Except X11WmBridgeError BridgeEngineUpdate × X11WmBridgeState :=
  let (result, bridge, events) := Run.tryEach observeNode nodes progress
  (result.map fun _ => ⟨transaction, events⟩, bridge)

def removeSurface (surface : SurfaceId) : X11WmBridgeState × List SyntheticXEvent :=
  match bridge.surfaceToWindow[surface]? with
  | none => (bridge, [])
  | some window =>
    ({ bridge with
        surfaceToWindow := bridge.surfaceToWindow.erase surface
        windowToNode := bridge.windowToNode.erase window },
      [.destroyNotify window])

def applyEngineRequest (request : WmRequestPacket) :
    Except X11WmBridgeError BridgeEngineUpdate × X11WmBridgeState :=
  match request.kind with
  | .manageSurface manage =>
    observeNodes request.transaction [manage.node] (bridge.updateRoot manage.bounds)
  | .relayoutWorkspace relayout =>
    observeNodes request.transaction relayout.nodes (bridge.updateRoot relayout.bounds)
  | .surfaceRemoved surface _ =>
    let (bridge, events) := bridge.removeSurface surface
    (.ok ⟨request.transaction, events⟩, bridge)
  | .actionActivated activation =>
    observeNodes request.transaction activation.nodes (bridge, [])

end X11WmBridgeState

def clampSize (size : Size) (minSize maxSize : Option Size) : Size :=
  let size := minSize.elim size fun minimum =>
    ⟨max size.width minimum.width, max size.height minimum.height⟩
  maxSize.elim size fun maximum => ⟨min size.width maximum.width, min size.height maximum.height⟩

/-- Why a translation comes to nothing: an error of the bridge, or a panic of the arithmetic. -/
inductive BridgeFault where
  | error (error : X11WmBridgeError)
  | panic
  deriving DecidableEq

/-- `position.clamp(low, low + extent - size)`. -/
def clampPosition (position low extent size : Int32) : Except BridgeFault Int32 :=
  match checkedAddInt32 low extent with
  | none => .error .panic
  | some far =>
    let high := far.toInt - size.toInt
    if high < -2 ^ 31 ∨ 2 ^ 31 ≤ high ∨ high < low.toInt then .error .panic
    else .ok (max low (min position (Int32.ofInt high)))

namespace X11WmBridgeState

variable (bridge : X11WmBridgeState)

def nodeOf (window : SyntheticXWindowId) : Except BridgeFault LayoutNodeSnapshot :=
  match bridge.windowToNode[window]? with
  | none => .error (.error .unknownSyntheticWindow)
  | some node => .ok node

/-- The size the client and the root allow, and the geometry of that size moved into the root. -/
def placeGeometry (node : LayoutNodeSnapshot) (geometry : Rect) :
    Except BridgeFault (Size × Rect) :=
  let size := clampSize ⟨geometry.width, geometry.height⟩ node.constraints.minSize
    node.constraints.maxSize
  match bridge.rootBounds with
  | none => .ok (size, { geometry with width := size.width, height := size.height })
  | some bounds => do
    let width := min size.width bounds.width
    let height := min size.height bounds.height
    let x ← clampPosition geometry.x bounds.x bounds.width width
    let y ← clampPosition geometry.y bounds.y bounds.height height
    return (⟨width, height⟩, ⟨x, y, width, height⟩)

/-- The commands of one request; a surface's transform is the identity. -/
def translateLegacyRequest :
    LegacyWmRequest → Except BridgeFault (List (WmCommand Transform))
  | .configureWindow window geometry zIndex =>
    if geometry.isEmpty then .error (.error .invalidGeometry)
    else do
      let node ← bridge.nodeOf window
      let (size, geometry) ← bridge.placeGeometry node geometry
      return [.configureSurface ⟨node.surface, size⟩,
        .renderSurface ⟨node.surface, geometry, zIndex, none, .identity⟩]
  | .focusWindow window => do
    let node ← bridge.nodeOf window
    return if node.capabilities.focusable then [.focusSurface node.surface] else []

def translateLegacyRequests (transaction : TransactionId) (requests : List LegacyWmRequest)
    (timeoutMsec : UInt32) : Except BridgeFault (WmResponsePacket Transform) :=
  if maxLegacyWmRequests < requests.length then .error (.error .requestLimit)
  else (requests.mapM bridge.translateLegacyRequest).map fun commands =>
    ⟨transaction, commands.flatten, timeoutMsec⟩

end X11WmBridgeState
end Sophia.Bridge
