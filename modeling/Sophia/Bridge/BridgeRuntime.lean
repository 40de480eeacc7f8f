import Sophia.Bridge.PrivateServer
import Sophia.Bridge.BridgeTables
import Sophia.Lib.Ordered

/-! The bridge, its private server and the legacy window manager, and the channels between them.
Each party takes one step at a time; a step that would block does nothing. -/
namespace Sophia.Bridge

open Std Protocol

inductive LegacyWmProfile where
  | layoutOnly
  | xmonad
  deriving DecidableEq

def xmonadActionFocusNext : UInt64 := 1
def xmonadActionFocusPrevious : UInt64 := 2
def xmonadActionNextLayout : UInt64 := 3
def xmonadActionViewWorkspaceBase : UInt64 := 0x100
def xmonadActionMoveWorkspaceBase : UInt64 := 0x200
def xmonadActionTerminal : UInt64 := 0x300
def xmonadActionClose : UInt64 := 0x301
def xmonadActionLauncher : UInt64 := 0x302
def xmonadActionFirefox : UInt64 := 0x303
def xmonadActionLogout : UInt64 := 0x304

/-- The action is for one of the nine workspaces behind the base. -/
def ofWorkspaces (base raw : UInt64) : Prop := base + 1 ≤ raw ∧ raw ≤ base + 9

instance (base raw : UInt64) : Decidable (ofWorkspaces base raw) :=
  inferInstanceAs (Decidable (_ ∧ _))

/-- The session action of a profile's action; the three layout actions have none. -/
def sessionActionOf (raw : UInt64) : Except X11WmBridgeError (Option WmSessionAction) :=
  if raw = xmonadActionTerminal then .ok (some .launchTerminal)
  else if raw = xmonadActionClose then .ok (some .closeFocused)
  else if raw = xmonadActionLauncher then .ok (some .launchApplicationMenu)
  else if raw = xmonadActionFirefox then .ok (some .launchFirefox)
  else if raw = xmonadActionLogout then .ok (some .logout)
  else if raw = xmonadActionFocusNext ∨ raw = xmonadActionFocusPrevious ∨
      raw = xmonadActionNextLayout then .ok none
  else .error .unsupportedAction

/-- The command of an action that the profile answers itself. -/
def profileCommand (activation : WmActionActivation) (session : WmSessionDescriptor) :
    Except X11WmBridgeError (Option (WmCommand Transform)) := do
  let raw := activation.action.raw
  if ofWorkspaces xmonadActionViewWorkspaceBase raw then
    let workspace : WorkspaceId := .fromRaw (raw - xmonadActionViewWorkspaceBase)
    if workspace ∈ session.workspaces then
      return some (.activateWorkspace activation.output workspace)
    else throw .unsupportedAction
  else if ofWorkspaces xmonadActionMoveWorkspaceBase raw then
    let workspace : WorkspaceId := .fromRaw (raw - xmonadActionMoveWorkspaceBase)
    match activation.focusedSurface with
    | none => throw .unsupportedAction
    | some surface =>
      if workspace ∈ session.workspaces then return some (.assignWorkspace surface workspace)
      else throw .unsupportedAction
  else
    match ← sessionActionOf raw with
    | none => return none
    | some action =>
      if action ∈ session.sessionActions then
        return some (.requestSessionAction action
          (if action = .closeFocused then activation.focusedSurface else none))
      else throw .unavailableSessionAction

def translateXmonadProfileAction (request : WmRequestPacket) (session : WmSessionDescriptor) :
    Except X11WmBridgeError (Option (WmResponsePacket Transform)) :=
  match request.kind with
  | .actionActivated activation =>
    (profileCommand activation session).map fun command =>
      command.map fun command => ⟨request.transaction, [command], 300⟩
  | _ => .ok none

/-- Why a request of the Engine is not answered; the bridge ends with it. -/
inductive RuntimeFault where
  | sessionNotNegotiated
  | bridge (fault : BridgeFault)
  | mapWithoutGeometry
  | serverStopped
  | notConfigured
  | focusQueryTimeout
  deriving DecidableEq

/-- A request being handled, with what the profile makes of it. -/
structure Call where
  request : WmRequestPacket
  profiledKey : Option UInt8
  profiledFocus : Option SyntheticXWindowId

/-- Where `handle_request` stands. -/
inductive BridgePhase where
  | idle (response : Option (WmResponsePacket Transform))
  | draining (call : Call)
  | drained (call : Call)
  | sending (call : Call) (expected : List SyntheticXWindowId)
      (unsent : List (Except RuntimeFault ServerCommand))
  | collecting (call : Call) (expected : List SyntheticXWindowId)
      (configured : ExtTreeMap SyntheticXWindowId LegacyWmRequest) (focus : Option LegacyWmRequest)
  | querying (call : Call) (requests : List LegacyWmRequest)
  | awaiting (call : Call) (requests : List LegacyWmRequest)
  | ended (fault : RuntimeFault)

/-- A request as the window manager writes it to its socket. -/
structure WireRequest where
  opcode : UInt8
  detail : UInt8
  body : List UInt8

structure LegacySession where
  profile : LegacyWmProfile
  session : Option WmSessionDescriptor
  bridge : X11WmBridgeState
  phase : BridgePhase
  commands : List ServerCommand
  server : Except ServerFault XServerState
  reading : Bool
  pendingFocusQueries : ℕ
  focusReply : Option (Option SyntheticXWindowId)
  legacy : List LegacyWmRequest
  requests : List WireRequest
  packets : List (List UInt8)
  heard : List (List UInt8)

inductive BridgeMove where
  | next
  | quiet
  | deadline

inductive ServerMove where
  | next
  | timeout (quiet : Bool)

inductive SessionAction where
  | handle (request : WmRequestPacket)
  | bridge (move : BridgeMove)
  | server (move : ServerMove)
  | wmSend (request : WireRequest)
  | wmReceive

def commandCapacity : ℕ := 128

def legacyCapacity : ℕ := 256

namespace LegacySession

def start (profile : LegacyWmProfile) (session : Option WmSessionDescriptor) (root : Rect) :
    LegacySession where
  profile := profile
  session := session
  bridge := .new
  phase := .idle none
  commands := []
  server := .ok (.new root)
  reading := false
  pendingFocusQueries := 0
  focusReply := none
  legacy := []
  requests := []
  packets := []
  heard := []

variable (s : LegacySession)

def profiledKey (request : WmRequestPacket) : Option UInt8 :=
  match request.kind with
  | .actionActivated activation =>
    if s.profile = .xmonad then
      if activation.action.raw = xmonadActionFocusNext then some 106
      else if activation.action.raw = xmonadActionFocusPrevious then some 107
      else if activation.action.raw = xmonadActionNextLayout then some 32
      else none
    else none
  | _ => none

def profiledFocus (request : WmRequestPacket) : Option SyntheticXWindowId :=
  match request.kind with
  | .actionActivated activation =>
    if activation.action.raw = xmonadActionFocusNext then
      activation.focusedSurface.bind fun surface => s.bridge.cycleFocusWindow surface true
    else if activation.action.raw = xmonadActionFocusPrevious then
      activation.focusedSurface.bind fun surface => s.bridge.cycleFocusWindow surface false
    else none
  | _ => none

def managedFocus (request : WmRequestPacket) : Option SyntheticXWindowId :=
  match request.kind with
  | .manageSurface manage => s.bridge.syntheticWindow manage.node.surface
  | _ => none

/-- The response the profile makes without the window manager, or the fault that ends the bridge. -/
def profileAnswer (request : WmRequestPacket) :
    Except RuntimeFault (Option (WmResponsePacket Transform)) :=
  match s.profile with
  | .layoutOnly => .ok none
  | .xmonad =>
    match s.session with
    | none => .error .sessionNotNegotiated
    | some session =>
      (translateXmonadProfileAction request session).mapError fun error => .bridge (.error error)

def handle (request : WmRequestPacket) : LegacySession :=
  match s.phase with
  | .idle _ =>
    match s.profileAnswer request with
    | .error fault => { s with phase := .ended fault }
    | .ok (some response) => { s with phase := .idle (some response) }
    | .ok none =>
      { s with phase := .draining ⟨request, s.profiledKey request, s.profiledFocus request⟩ }
  | _ => s

/-- The command that tells the server of an event. -/
def serverCommand (bridge : X11WmBridgeState) :
    SyntheticXEvent → Except RuntimeFault ServerCommand
  | .rootConfigured bounds => .ok (.root bounds)
  | .mapRequest window =>
    match bridge.syntheticGeometry window with
    | some geometry => .ok (.map window geometry)
    | none => .error .mapWithoutGeometry
  | .configureNotify window geometry => .ok (.configure window geometry)
  | .unmapNotify window => .ok (.unmap window)
  | .destroyNotify window => .ok (.destroy window)

def expectedOf : SyntheticXEvent → Option SyntheticXWindowId
  | .mapRequest window | .configureNotify window _ => some window
  | _ => none

def keyCommands (keycode : UInt8) : List ServerCommand :=
  [.key keycode true, .key keycode false, .wake]

/-- The tables are brought up to date; what is then to be sent follows from them. -/
def applyCall (call : Call) : LegacySession :=
  match s.bridge.applyEngineRequest call.request with
  | (.error error, bridge) => { s with bridge, phase := .ended (.bridge (.error error)) }
  | (.ok update, bridge) =>
    { s with
      bridge
      phase := .sending call (update.events.filterMap expectedOf)
        (update.events.map (serverCommand bridge) ++
          (call.profiledKey.elim [] keyCommands).map .ok) }

/-- A command goes into the channel when there is room for it, and ends the bridge when there is
nobody to take it. -/
def send (command : ServerCommand) (next : BridgePhase) : LegacySession :=
  match s.server with
  | .error _ => { s with phase := .ended .serverStopped }
  | .ok _ =>
    if s.commands.length < commandCapacity then
      { s with commands := s.commands ++ [command], phase := next }
    else s

def answer (call : Call) (requests : List LegacyWmRequest) : LegacySession :=
  match s.bridge.translateLegacyRequests call.request.transaction requests 300 with
  | .error fault => { s with phase := .ended (.bridge fault) }
  | .ok response => { s with phase := .idle (some response) }

/-- The end of the collection: the focus comes from the profile, from the managed surface, from
the window manager, or from a query. -/
def settle (call : Call) (expected : List SyntheticXWindowId)
    (configured : ExtTreeMap SyntheticXWindowId LegacyWmRequest)
    (focus : Option LegacyWmRequest) : LegacySession :=
  if ¬ ∀ window ∈ expected, window ∈ configured then { s with phase := .ended .notConfigured }
  else
    match call.profiledFocus, s.managedFocus call.request, focus with
    | some window, _, _ => s.answer call (Ordered.values configured ++ [.focusWindow window])
    | none, some window, _ => s.answer call (Ordered.values configured ++ [.focusWindow window])
    | none, none, some focus => s.answer call (Ordered.values configured ++ [focus])
    | none, none, none => { s with phase := .querying call (Ordered.values configured) }

def bridgeStep (move : BridgeMove) : LegacySession :=
  match s.phase, move with
  | .draining call, .next =>
    match s.legacy with
    | _ :: legacy => { s with legacy }
    | [] => { s with phase := .drained call }
  | .drained call, .next => s.applyCall call
  | .sending call expected (.ok command :: unsent), .next =>
    s.send command (.sending call expected unsent)
  | .sending _ _ (.error fault :: _), .next => { s with phase := .ended fault }
  | .sending call expected [], .next => { s with phase := .collecting call expected ∅ none }
  | .collecting call expected configured focus, .next =>
    match s.legacy, s.server with
    | .configureWindow window geometry zIndex :: legacy, _ =>
      { s with
        legacy
        phase := .collecting call expected
          (configured.insert window (.configureWindow window geometry zIndex)) focus }
    | .focusWindow window :: legacy, _ =>
      { s with
        legacy
        phase := .collecting call expected configured (some (.focusWindow window)) }
    | [], .error _ => { s with phase := .ended .serverStopped }
    | [], .ok _ => s
  | .collecting call expected configured focus, .quiet =>
    if s.legacy = [] ∧ ∀ window ∈ expected, window ∈ configured then
      s.settle call expected configured focus
    else s
  | .collecting call expected configured focus, .deadline =>
    s.settle call expected configured focus
  | .querying call requests, .next => s.send .queryFocus (.awaiting call requests)
  | .awaiting call requests, .next =>
    match s.focusReply with
    | some window =>
      { s with focusReply := none }.answer call
        (requests ++ (window.map LegacyWmRequest.focusWindow).toList)
    | none => s
  | .awaiting _ _, .deadline => { s with phase := .ended .focusQueryTimeout }
  | _, _ => s

/-- What an effect of the server leaves in the channels. -/
def took (effect : ServerEffect) : LegacySession :=
  { s with
    server := .ok effect.state
    packets := s.packets ++ effect.packets
    legacy := s.legacy ++ effect.legacy }

def serverStep (move : ServerMove) : LegacySession :=
  match s.server with
  | .error _ => s
  | .ok state =>
    match s.reading, move with
    | false, _ =>
      match s.commands with
      | [] => { s with reading := true }
      | .queryFocus :: commands =>
        { s with commands, pendingFocusQueries := s.pendingFocusQueries + 1 }
      | command :: commands =>
        match state.applyServerCommand command with
        | .error fault => { s with commands, server := .error fault }
        | .ok effect => { s with commands }.took effect
    | true, .next =>
      match s.requests with
      | [] => s
      | request :: requests =>
        match state.serveRequest request.opcode request.detail request.body with
        | .error fault => { s with requests, server := .error fault }
        | .ok effect =>
          if s.legacy.length + effect.legacy.length ≤ legacyCapacity then
            { s with requests, reading := false }.took effect
          else s
    | true, .timeout quiet =>
      if quiet ∧ 0 < s.pendingFocusQueries then
        { s with
          reading := false
          pendingFocusQueries := 0
          focusReply := some (state.syntheticId state.inputFocus) }
      else { s with reading := false }

def step (s : LegacySession) : SessionAction → LegacySession
  | .handle request => s.handle request
  | .bridge move => s.bridgeStep move
  | .server move => s.serverStep move
  | .wmSend request => { s with requests := s.requests ++ [request] }
  | .wmReceive =>
    match s.packets with
    | [] => s
    | packet :: packets => { s with packets, heard := s.heard ++ [packet] }

end LegacySession
end Sophia.Bridge
