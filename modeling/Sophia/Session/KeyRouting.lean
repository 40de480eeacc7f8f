import Sophia.Engine.ShortcutHolds
import Sophia.Frontend.InputRoutes

/-! From a physical key event to the X authority, or to nothing. -/
namespace Sophia.Session

open Std Sophia.Protocol Sophia.Engine Sophia.Frontend

/-- An input event packet of the key kind. -/
structure KeyEventPacket where
  serial : UInt64
  seat : SeatId
  device : DeviceId
  timeMsec : UInt64
  keycode : UInt32
  pressed : Bool
  targetSurface : Option SurfaceId
  deriving DecidableEq, Repr

inductive InputFocusDecision where
  | focused
  | invalidSeat
  | unknownSurface
  deriving DecidableEq, Repr

inductive FocusedInputRoute where
  | routed (event : KeyEventPacket)
  | noFocus (event : KeyEventPacket)
  | staleFocus (event : KeyEventPacket)
  deriving DecidableEq, Repr

structure InputFocusState where
  focusedSurfaces : ExtTreeMap SeatId SurfaceId

namespace InputFocusState

def new : InputFocusState := ⟨∅⟩

def focusedSurface (state : InputFocusState) (seat : SeatId) : Option SurfaceId :=
  state.focusedSurfaces[seat]?

def focusSurface (state : InputFocusState) (seat : SeatId) (surface : SurfaceId)
    (committedSurfaces : List CommittedSurfaceState) : InputFocusDecision × InputFocusState :=
  if !seat.isValid then (.invalidSeat, state)
  else if !committedSurfaces.any fun committed => committed.surface = surface then
    (.unknownSurface, state)
  else (.focused, ⟨state.focusedSurfaces.insert seat surface⟩)

def clearSurface (state : InputFocusState) (surface : SurfaceId) : ℕ × InputFocusState :=
  let kept := state.focusedSurfaces.filter fun _ focused => focused ≠ surface
  (state.focusedSurfaces.size - kept.size, ⟨kept⟩)

def routeKeyboardEvent (state : InputFocusState) (event : KeyEventPacket)
    (committedSurfaces : List CommittedSurfaceState) : FocusedInputRoute :=
  match state.focusedSurface event.seat with
  | none => .noFocus event
  | some surface =>
    if !committedSurfaces.any fun committed => committed.surface = surface then .staleFocus event
    else .routed { event with targetSurface := some surface }

end InputFocusState

inductive EmergencyChordAction where
  | none
  | armed
  | triggered
  deriving DecidableEq, Repr

structure EmergencyChordState where
  leftControl : Bool
  rightControl : Bool
  leftAlt : Bool
  rightAlt : Bool
  backspace : Bool
  armed : Bool
  waitingForFullRelease : Bool
  deriving DecidableEq, Repr

namespace EmergencyChordState

def awaitingArm : EmergencyChordState := ⟨false, false, false, false, false, false, false⟩

def armedState : EmergencyChordState := { awaitingArm with armed := true }

/-- The keys of the chord; the other keys leave it alone. -/
def track (state : EmergencyChordState) (keycode : UInt32) (pressed : Bool) :
    Option EmergencyChordState :=
  match keycode.toNat with
  | 29 => some { state with leftControl := pressed }
  | 97 => some { state with rightControl := pressed }
  | 56 => some { state with leftAlt := pressed }
  | 100 => some { state with rightAlt := pressed }
  | 14 => some { state with backspace := pressed }
  | _ => none

def observe (state : EmergencyChordState) (keycode : UInt32) (pressed : Bool) :
    EmergencyChordAction × EmergencyChordState :=
  match state.track keycode pressed with
  | none => (.none, state)
  | some state =>
    if state.waitingForFullRelease then
      let up := !state.leftControl && !state.rightControl && !state.leftAlt && !state.rightAlt &&
        !state.backspace
      (.none, if up then { state with waitingForFullRelease := false } else state)
    else
      let control := state.leftControl || state.rightControl
      let alt := state.leftAlt || state.rightAlt
      if !(control && alt && state.backspace) then (.none, state)
      else if state.armed then (.triggered, { state with waitingForFullRelease := true })
      else (.armed, { state with waitingForFullRelease := true, armed := true })

end EmergencyChordState

structure XCoreKeyboardMapper where
  shift : UInt8
  control : UInt8
  alt : UInt8
  capsLock : Bool
  deriving DecidableEq, Repr

namespace XCoreKeyboardMapper

def new : XCoreKeyboardMapper := ⟨0, 0, 0, false⟩

def updateModifierBit (bits bit : UInt8) (pressed : Bool) : UInt8 :=
  if pressed then bits ||| bit else bits &&& ~~~bit

def modifierMask (mapper : XCoreKeyboardMapper) : UInt16 :=
  let bit (set : Bool) : UInt16 := if set then 1 else 0
  bit (0 < mapper.shift) ||| bit mapper.capsLock <<< 1 ||| bit (0 < mapper.control) <<< 2 |||
    bit (0 < mapper.alt) <<< 3

def track (mapper : XCoreKeyboardMapper) (evdevKeycode : UInt32) (pressed : Bool) :
    XCoreKeyboardMapper :=
  match evdevKeycode.toNat with
  | 42 => { mapper with shift := updateModifierBit mapper.shift 1 pressed }
  | 54 => { mapper with shift := updateModifierBit mapper.shift 2 pressed }
  | 29 => { mapper with control := updateModifierBit mapper.control 1 pressed }
  | 97 => { mapper with control := updateModifierBit mapper.control 2 pressed }
  | 56 => { mapper with alt := updateModifierBit mapper.alt 1 pressed }
  | 100 => { mapper with alt := updateModifierBit mapper.alt 2 pressed }
  | 58 => if pressed then { mapper with capsLock := !mapper.capsLock } else mapper
  | _ => mapper

/-- The keycodes that have an X keycode. -/
def maps (evdevKeycode : UInt32) : Bool :=
  evdevKeycode != 0 && decide (evdevKeycode.toNat + 8 < UInt8.size)

-- The state that comes with a key is the one before it.
def mapEvdevKey (mapper : XCoreKeyboardMapper) (evdevKeycode : UInt32) (pressed : Bool) :
    Option (UInt8 × UInt16) × XCoreKeyboardMapper :=
  if evdevKeycode = 0 then (none, mapper)
  else (if maps evdevKeycode then
      some (UInt8.ofNat (evdevKeycode.toNat + 8), mapper.modifierMask) else none,
    mapper.track evdevKeycode pressed)

end XCoreKeyboardMapper

structure PhysicalTextProofEvent where
  keycode : UInt8
  pressed : Bool
  state : UInt16
  deriving DecidableEq, Repr

inductive PhysicalTextProofProgress where
  | awaiting
  | complete
  deriving DecidableEq, Repr

structure PhysicalTextProofMismatch where
  eventIndex : ℕ
  expected : PhysicalTextProofEvent
  observed : PhysicalTextProofEvent
  deriving DecidableEq, Repr

structure PhysicalTextProof where
  expected : List PhysicalTextProofEvent
  matchedEvents : ℕ
  bounded : matchedEvents ≤ expected.length

namespace PhysicalTextProof

def isComplete (proof : PhysicalTextProof) : Bool := proof.matchedEvents == proof.expected.length

theorem lt_of_not_isComplete {proof : PhysicalTextProof} (h : ¬ proof.isComplete = true) :
    proof.matchedEvents < proof.expected.length :=
  Nat.lt_of_le_of_ne proof.bounded fun he => h (by simp [isComplete, he])

def observe (proof : PhysicalTextProof) (observed : PhysicalTextProofEvent) :
    Except PhysicalTextProofMismatch (PhysicalTextProofProgress × PhysicalTextProof) :=
  if h : proof.isComplete = true then .ok (.complete, proof)
  else
    let expected := proof.expected.get ⟨proof.matchedEvents, lt_of_not_isComplete h⟩
    if observed ≠ expected then .error ⟨proof.matchedEvents, expected, observed⟩
    else
      let next := { proof with
        matchedEvents := proof.matchedEvents + 1
        bounded := Nat.succ_le_of_lt (lt_of_not_isComplete h) }
      .ok (if next.isComplete then .complete else .awaiting, next)

end PhysicalTextProof

def pointerProofSuppressesReturn (required : Bool) (keycode : UInt32) (textComplete : Bool) :
    Bool :=
  required && textComplete && keycode == 28

inductive PhysicalInputRoutingMode where
  | suppressed
  | shortcutsOnly
  | full
  deriving DecidableEq, Repr

def physicalInputRoutingMode (primaryChildExited : Bool)
    (focusedSurface proofSurface : Option SurfaceId) (globalShortcutsAvailable : Bool) : PhysicalInputRoutingMode :=
  if !primaryChildExited || focusedSurface != proofSurface then .full
  else if globalShortcutsAvailable then .shortcutsOnly
  else .suppressed

/-- What ends the session while it routes a key. -/
inductive KeyRouteError where
  | textProofMismatch (mismatch : PhysicalTextProofMismatch)
  | deliveriesExhausted
  | queueFull
  | queueDisconnected
  deriving DecidableEq, Repr

structure PhysicalInputRouteReport where
  events : ℕ
  wmActions : List WmActionId := []
  keysObserved : ℕ := 0
  keysRouted : ℕ := 0
  deliveries : List XAuthorityInputDeliveryId := []
  emergencyExit : Bool := false
  returnSuppressed : Bool := false
  deriving DecidableEq, Repr

/-- The arguments of a call that the session computes afresh each time. -/
structure RouteInputCall where
  pointerProofRequired : Bool
  routingMode : PhysicalInputRoutingMode
  deriving DecidableEq, Repr

/-- What the session routes key events by, and every input it has sent so far. -/
structure LiveKeyInput where
  focus : InputFocusState
  committedSurfaces : List CommittedSurfaceState
  shortcuts : Option WmShortcutRouter
  emergencyChord : EmergencyChordState
  modifiers : XCoreKeyboardMapper
  physicalTextProof : Option PhysicalTextProof
  nextInputDelivery : UInt64
  inputSender : RouteQueue XAuthorityRoutedInput
  inputCapacity : ℕ
  sent : List XAuthorityRoutedInput

namespace LiveKeyInput

def textComplete (input : LiveKeyInput) : Bool :=
  match input.physicalTextProof with
  | none => false
  | some proof => proof.isComplete

def routeShortcut (input : LiveKeyInput) (event : KeyEventPacket) :
    WmShortcutDecision × LiveKeyInput :=
  match input.shortcuts with
  | none => (.pass, input)
  | some shortcuts =>
    let (decision, shortcuts) := shortcuts.routeKey event.seat event.keycode event.pressed
    (decision, { input with shortcuts := some shortcuts })

/-- Everything that keeps a key from an application, in the order it is asked. -/
def screenKey (call : RouteInputCall) (input : LiveKeyInput) (report : PhysicalInputRouteReport)
    (event : KeyEventPacket) :
    Option (KeyEventPacket × SurfaceId) × LiveKeyInput × PhysicalInputRouteReport :=
  let report := { report with keysObserved := report.keysObserved + 1 }
  let (action, emergencyChord) := input.emergencyChord.observe event.keycode event.pressed
  let input := { input with emergencyChord }
  if action = .triggered then (none, input, { report with emergencyExit := true })
  else
    let (decision, input) := input.routeShortcut event
    if decision.consumed then
      (none, input, { report with wmActions := report.wmActions ++ decision.action.toList })
    else if call.routingMode ≠ .full then (none, input, report)
    else if pointerProofSuppressesReturn call.pointerProofRequired event.keycode
        input.textComplete then
      (none, input, { report with returnSuppressed := true })
    else match input.focus.routeKeyboardEvent event input.committedSurfaces with
      | .routed event => (event.targetSurface.map (event, ·), input, report)
      | _ => (none, input, report)

def observeText (input : LiveKeyInput) (observed : PhysicalTextProofEvent) :
    Except KeyRouteError LiveKeyInput :=
  match input.physicalTextProof with
  | none => .ok input
  | some proof =>
    if proof.isComplete then .ok input
    else match proof.observe observed with
      | .error mismatch => .error (.textProofMismatch mismatch)
      | .ok (_, proof) => .ok { input with physicalTextProof := some proof }

def sendRequest (input : LiveKeyInput) (report : PhysicalInputRouteReport)
    (request : RoutedInputRequest) :
    Except KeyRouteError (LiveKeyInput × PhysicalInputRouteReport) :=
  if input.nextInputDelivery.toNat + 1 = UInt64.size then .error .deliveriesExhausted
  else
    let delivery : XAuthorityInputDeliveryId := ⟨input.nextInputDelivery⟩
    let routed : XAuthorityRoutedInput := ⟨request, some delivery⟩
    match input.inputSender.trySend input.inputCapacity routed with
    | (.full, _) => .error .queueFull
    | (.disconnected, _) => .error .queueDisconnected
    | (.sent, inputSender) => .ok (
        { input with
          nextInputDelivery := input.nextInputDelivery + 1
          inputSender
          sent := input.sent ++ [routed] },
        { report with
          keysRouted := report.keysRouted + 1
          deliveries := report.deliveries ++ [delivery] })

def sendKey (input : LiveKeyInput) (report : PhysicalInputRouteReport) (event : KeyEventPacket)
    (targetSurface : SurfaceId) : Except KeyRouteError (LiveKeyInput × PhysicalInputRouteReport) :=
  let (mapped, modifiers) := input.modifiers.mapEvdevKey event.keycode event.pressed
  let input := { input with modifiers }
  match mapped with
  | none => .ok (input, report)
  | some (keycode, state) => do
    let input ← input.observeText ⟨keycode, event.pressed, state⟩
    input.sendRequest report {
      serial := event.serial
      seat := event.seat
      device := event.device
      timeMsec := event.timeMsec
      targetSurface
      globalPosition := ⟨0, 0⟩
      localPosition := ⟨0, 0⟩
      kind := .key event.keycode event.pressed }

def routeKeyEvent (call : RouteInputCall) (state : LiveKeyInput × PhysicalInputRouteReport)
    (event : KeyEventPacket) : Except KeyRouteError (LiveKeyInput × PhysicalInputRouteReport) :=
  match screenKey call state.1 state.2 event with
  | (none, input, report) => .ok (input, report)
  | (some (event, targetSurface), input, report) => input.sendKey report event targetSurface

/-- The key events of one call. -/
def routeInputEvents (input : LiveKeyInput) (call : RouteInputCall) (events : List KeyEventPacket) :
    Except KeyRouteError (LiveKeyInput × PhysicalInputRouteReport) :=
  events.foldlM (routeKeyEvent call) (input, { events := events.length })

end LiveKeyInput
end Sophia.Session
