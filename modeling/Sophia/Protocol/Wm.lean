import Sophia.Protocol

/-! Packets exchanged with the window manager. -/
namespace Sophia.Protocol

def wmApiVersion : UInt16 := 2

def wmMaxBindings : ℕ := 256

structure WmCapabilities where
  bits : UInt64
  deriving DecidableEq, Repr

/-- Bindings, workspaces and session actions. -/
def WmCapabilities.supported : UInt64 := 0b111

structure WmModifierMask where
  bits : UInt32
  deriving DecidableEq, Repr

namespace WmModifierMask

def shift : UInt32 := 1
def control : UInt32 := 2
def alt : UInt32 := 4
def super : UInt32 := 8
def supported : UInt32 := shift ||| control ||| alt ||| super

end WmModifierMask

structure WmBindingRegistration where
  action : WmActionId
  keycode : UInt32
  modifiers : WmModifierMask
  deriving DecidableEq, Repr

structure WmHello where
  apiVersion : UInt16
  capabilities : WmCapabilities
  bindings : List WmBindingRegistration
  deriving DecidableEq, Repr

inductive WmSessionAction where
  | launchTerminal
  | launchApplicationMenu
  | launchFirefox
  | closeFocused
  | logout
  deriving DecidableEq, Repr

structure WmOutputWorkspace where
  output : OutputId
  workspace : WorkspaceId
  deriving DecidableEq, Repr

/-- What the session offers the window manager it has accepted. -/
structure WmSessionDescriptor where
  apiVersion : UInt16
  workspaces : List WorkspaceId
  activeWorkspaces : List WmOutputWorkspace
  sessionActions : List WmSessionAction
  deriving DecidableEq, Repr

inductive LayoutNodeKind where
  | toplevel
  | dialog
  | utility
  | unknown
  deriving DecidableEq, Repr

structure LayoutNodeCapabilities where
  movable : Bool
  resizable : Bool
  focusable : Bool
  closable : Bool
  fullscreenable : Bool
  deriving DecidableEq, Repr

structure LayoutNodeState where
  focused : Bool
  urgent : Bool
  fullscreen : Bool
  floating : Bool
  visible : Bool
  deriving DecidableEq, Repr

/-- A window as the window manager sees it. -/
structure LayoutNodeSnapshot where
  surface : SurfaceId
  workspace : WorkspaceId
  kind : LayoutNodeKind
  capabilities : LayoutNodeCapabilities
  state : LayoutNodeState
  constraints : SurfaceConstraints
  geometry : Rect
  generation : UInt64
  deriving DecidableEq, Repr

structure WmManageSurface where
  node : LayoutNodeSnapshot
  output : OutputId
  workspace : WorkspaceId
  bounds : Rect
  deriving DecidableEq, Repr

structure WmRelayoutWorkspace where
  output : OutputId
  workspace : WorkspaceId
  bounds : Rect
  nodes : List LayoutNodeSnapshot
  deriving DecidableEq, Repr

structure WmActionActivation where
  action : WmActionId
  output : OutputId
  workspace : WorkspaceId
  focusedSurface : Option SurfaceId
  nodes : List LayoutNodeSnapshot
  deriving DecidableEq, Repr

inductive WmRequestKind where
  | manageSurface (manage : WmManageSurface)
  | relayoutWorkspace (relayout : WmRelayoutWorkspace)
  | surfaceRemoved (surface : SurfaceId) (workspace : WorkspaceId)
  | actionActivated (activation : WmActionActivation)
  deriving DecidableEq, Repr

structure WmRequestPacket where
  transaction : TransactionId
  kind : WmRequestKind
  deriving DecidableEq, Repr

structure SurfaceSizeRequest where
  surface : SurfaceId
  size : Size
  deriving DecidableEq, Repr

/-- Where a surface is drawn; `τ` is the representation of its transform. -/
structure SurfacePlacement (τ : Type) where
  surface : SurfaceId
  geometry : Rect
  zIndex : Int32
  crop : Option Rect
  transform : τ
  deriving DecidableEq, Repr

inductive WmCommand (τ : Type) where
  | configureSurface (request : SurfaceSizeRequest)
  | focusSurface (surface : SurfaceId)
  | assignWorkspace (surface : SurfaceId) (workspace : WorkspaceId)
  | renderSurface (placement : SurfacePlacement τ)
  | activateWorkspace (output : OutputId) (workspace : WorkspaceId)
  | requestSessionAction (action : WmSessionAction) (target : Option SurfaceId)
  deriving DecidableEq, Repr

structure WmResponsePacket (τ : Type) where
  transaction : TransactionId
  commands : List (WmCommand τ)
  timeoutMsec : UInt32
  deriving DecidableEq, Repr

structure LayoutTransaction (τ : Type) where
  transaction : TransactionId
  requestedSizes : List SurfaceSizeRequest
  focus : Option SurfaceId
  renderPositions : List (SurfacePlacement τ)
  timeoutMsec : UInt32
  deriving DecidableEq, Repr

end Sophia.Protocol
