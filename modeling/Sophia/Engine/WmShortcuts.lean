import Std.Data.ExtTreeSet
import Sophia.Lib.Ordered
import Sophia.Protocol.Wm

/-! Which key events the window manager's shortcuts take before a client sees them. -/
namespace Sophia.Engine

open Std Sophia.Protocol

-- The source's error has codec and transport cases too; negotiation raises this one only.
inductive WmIpcError where
  | negotiation (message : String)
  deriving DecidableEq, Repr

/-- A key together with the modifiers in force when it is pressed. -/
structure WmChord where
  keycode : UInt32
  modifiers : UInt32
  deriving DecidableEq, Repr

namespace WmChord

instance : Ord WmChord := ⟨compareLex (compareOn keycode) (compareOn modifiers)⟩

instance : TransOrd WmChord :=
  inferInstanceAs (TransCmp (compareLex (compareOn keycode) (compareOn modifiers)))

instance : LawfulEqOrd WmChord where
  eq_of_compare {a b} h := by
    obtain ⟨hk, hm⟩ := compareLex_eq_eq.mp h
    cases a
    cases b
    congr 1
    · exact LawfulEqOrd.eq_of_compare hk
    · exact LawfulEqOrd.eq_of_compare hm

end WmChord

structure WmShortcutRegistry where
  bindings : ExtTreeMap WmChord WmActionId
  held : ExtTreeMap UInt32 WmActionId

structure WmShortcutDecision where
  action : Option WmActionId
  consumed : Bool
  deriving DecidableEq, Repr

namespace WmShortcutDecision

/-- The event goes on to the client. -/
def pass : WmShortcutDecision := { action := none, consumed := false }

end WmShortcutDecision

namespace WmShortcutRegistry

def registerBinding (registered : ExtTreeMap WmChord WmActionId × ExtTreeSet WmActionId)
    (binding : WmBindingRegistration) :
    Except WmIpcError (ExtTreeMap WmChord WmActionId × ExtTreeSet WmActionId) :=
  let chord : WmChord := ⟨binding.keycode, binding.modifiers.bits⟩
  let emergency := WmModifierMask.control ||| WmModifierMask.alt
  if !binding.action.isValid ∨ binding.keycode = 0 ∨ 0x2ff < binding.keycode then
    .error (.negotiation "invalid WM binding")
  else if binding.modifiers.bits &&& ~~~WmModifierMask.supported ≠ 0 then
    .error (.negotiation "unsupported WM modifier")
  else if binding.keycode = 14 ∧ binding.modifiers.bits &&& emergency = emergency then
    .error (.negotiation "reserved emergency chord")
  else if binding.action ∈ registered.2 then .error (.negotiation "duplicate WM action")
  else if chord ∈ registered.1 then .error (.negotiation "duplicate WM chord")
  else .ok (registered.1.insert chord binding.action, registered.2.insert binding.action)

def fromHello (hello : WmHello) : Except WmIpcError WmShortcutRegistry :=
  if hello.apiVersion ≠ wmApiVersion then .error (.negotiation "unsupported WM API version")
  else if hello.capabilities.bits &&& ~~~WmCapabilities.supported ≠ 0 then
    .error (.negotiation "unsupported WM capability")
  else if wmMaxBindings < hello.bindings.length then .error (.negotiation "too many WM bindings")
  else do
    let registered ← hello.bindings.foldlM registerBinding (∅, ∅)
    return { bindings := registered.1, held := ∅ }

-- A press is decided by the modifiers of the moment alone; only a release asks what is held.
def handleKey (registry : WmShortcutRegistry) (keycode : UInt32) (modifiers : WmModifierMask)
    (pressed : Bool) : WmShortcutDecision × WmShortcutRegistry :=
  if !pressed then
    ({ action := none, consumed := registry.held.contains keycode },
      { registry with held := registry.held.erase keycode })
  else match registry.bindings[(⟨keycode, modifiers.bits⟩ : WmChord)]? with
    | none => (.pass, registry)
    | some action =>
      ({ action := if registry.held.contains keycode then none else some action, consumed := true },
        { registry with held := registry.held.insert keycode action })

end WmShortcutRegistry

structure WmPhysicalModifierState where
  leftShift : Bool
  rightShift : Bool
  leftControl : Bool
  rightControl : Bool
  leftAlt : Bool
  rightAlt : Bool
  leftSuper : Bool
  rightSuper : Bool
  deriving DecidableEq, Repr

namespace WmPhysicalModifierState

def default : WmPhysicalModifierState :=
  ⟨false, false, false, false, false, false, false, false⟩

def mask (state : WmPhysicalModifierState) : WmModifierMask where
  bits :=
    (if state.leftShift || state.rightShift then WmModifierMask.shift else 0) |||
    (if state.leftControl || state.rightControl then WmModifierMask.control else 0) |||
    (if state.leftAlt || state.rightAlt then WmModifierMask.alt else 0) |||
    (if state.leftSuper || state.rightSuper then WmModifierMask.super else 0)

def update (state : WmPhysicalModifierState) (keycode : UInt32) (pressed : Bool) :
    WmPhysicalModifierState :=
  match keycode.toNat with
  | 42 => { state with leftShift := pressed }
  | 54 => { state with rightShift := pressed }
  | 29 => { state with leftControl := pressed }
  | 97 => { state with rightControl := pressed }
  | 56 => { state with leftAlt := pressed }
  | 100 => { state with rightAlt := pressed }
  | 125 => { state with leftSuper := pressed }
  | 126 => { state with rightSuper := pressed }
  | _ => state

end WmPhysicalModifierState

def wmMaxShortcutSeats : ℕ := 16

structure WmSeatShortcutState where
  shortcuts : WmShortcutRegistry
  modifiers : WmPhysicalModifierState

structure WmShortcutRouter where
  registry : WmShortcutRegistry
  seats : ExtTreeMap SeatId WmSeatShortcutState

namespace WmShortcutRouter

def new (registry : WmShortcutRegistry) : WmShortcutRouter := { registry, seats := ∅ }

/-- The state a seat has, or starts with. -/
def seatState (router : WmShortcutRouter) (seat : SeatId) : WmSeatShortcutState :=
  router.seats[seat]?.getD { shortcuts := router.registry, modifiers := .default }

/-- The router follows the seat, or has room for it. -/
def admits (router : WmShortcutRouter) (seat : SeatId) : Bool :=
  seat.isValid && (router.seats.contains seat || decide (router.seats.size < wmMaxShortcutSeats))

def routeKey (router : WmShortcutRouter) (seat : SeatId) (keycode : UInt32) (pressed : Bool) :
    WmShortcutDecision × WmShortcutRouter :=
  if !router.admits seat then (.pass, router)
  else
    let state := router.seatState seat
    let (decision, shortcuts) := state.shortcuts.handleKey keycode state.modifiers.mask pressed
    (decision,
      { router with
        seats := router.seats.insert seat
          { shortcuts, modifiers := state.modifiers.update keycode pressed } })

end WmShortcutRouter
end Sophia.Engine
