import Sophia.Authority.Resources
import Sophia.Lib.History

/-! Grabs, freezes and XI selections of the input devices, one authority per namespace. -/
namespace Sophia.Authority

open Std Sophia.Protocol

def xAnyModifier : UInt16 := 0x8000

inductive XInputGrabError where
  | alreadyGrabbed
  | accessConflict
  | invalidMode
  deriving DecidableEq, Repr

structure XActiveInputGrab where
  owner : UInt64
  window : XResourceId
  ownerEvents : Bool
  pointerMode : UInt8
  keyboardMode : UInt8
  eventMask : UInt16
  deriving DecidableEq, Repr

structure XPassiveInputGrab where
  owner : UInt64
  window : XResourceId
  detail : UInt8
  modifiers : UInt16
  ownerEvents : Bool
  pointerMode : UInt8
  keyboardMode : UInt8
  eventMask : UInt16
  deriving DecidableEq, Repr

namespace XPassiveInputGrab

def active (grab : XPassiveInputGrab) : XActiveInputGrab :=
  ⟨grab.owner, grab.window, grab.ownerEvents, grab.pointerMode, grab.keyboardMode, grab.eventMask⟩

/-- The grab fires on this key or button under these modifiers. -/
def triggers (grab : XPassiveInputGrab) (detail : UInt8) (modifiers : UInt16) : Bool :=
  (grab.detail == 0 || grab.detail == detail) &&
    (grab.modifiers == xAnyModifier || grab.modifiers == modifiers)

def patternsOverlap (a b : XPassiveInputGrab) : Bool :=
  (a.detail == 0 || b.detail == 0 || a.detail == b.detail) &&
    (a.modifiers == xAnyModifier || b.modifiers == xAnyModifier || a.modifiers == b.modifiers) &&
    a.window == b.window

def insertPassive (grabs : List XPassiveInputGrab) (grab : XPassiveInputGrab) :
    Except XInputGrabError (List XPassiveInputGrab) :=
  if grabs.any fun existing => existing.owner != grab.owner && patternsOverlap existing grab then
    .error .accessConflict
  else
    .ok (grabs.filter (fun existing => !(existing.owner == grab.owner &&
      existing.window == grab.window && existing.detail == grab.detail &&
      existing.modifiers == grab.modifiers)) ++ [grab])

def removePassive (grabs : List XPassiveInputGrab) (owner : UInt64) (window : XResourceId)
    (detail : UInt8) (modifiers : UInt16) : List XPassiveInputGrab :=
  grabs.filter fun grab => grab.owner != owner || grab.window != window ||
    !(detail == 0 || grab.detail == detail) ||
    !(modifiers == xAnyModifier || grab.modifiers == modifiers)

end XPassiveInputGrab

def validateModes (pointer keyboard : UInt8) : Except XInputGrabError Unit :=
  Fallible.require (¬ (pointer > 1 ∨ keyboard > 1)) .invalidMode

structure XNamespaceInputAuthority where
  pointer : Option XActiveInputGrab := none
  keyboard : Option XActiveInputGrab := none
  buttons : List XPassiveInputGrab := []
  keys : List XPassiveInputGrab := []
  serverOwner : Option UInt64 := none
  pointerFrozen : Bool := false
  keyboardFrozen : Bool := false
  pointerImplicit : Bool := false
  pointerPassiveDetail : Option UInt8 := none
  keyboardPassiveDetail : Option UInt8 := none
  deriving DecidableEq, Repr

/-- The grab is there and belongs to the client. -/
def ownedBy (grab : Option XActiveInputGrab) (owner : UInt64) : Bool :=
  grab.any fun active => active.owner == owner

namespace XNamespaceInputAuthority

def grabPointer (state : XNamespaceInputAuthority) (grab : XActiveInputGrab) :
    Except XInputGrabError XNamespaceInputAuthority := do
  validateModes grab.pointerMode grab.keyboardMode
  Fallible.require (¬ state.pointer.any fun active => active.owner != grab.owner) .alreadyGrabbed
  pure { state with
    pointer := some grab
    pointerImplicit := false
    pointerPassiveDetail := none
    pointerFrozen := grab.pointerMode == 0
    keyboardFrozen := state.keyboardFrozen || grab.keyboardMode == 0 }

def ungrabPointer (state : XNamespaceInputAuthority) (owner : UInt64) : XNamespaceInputAuthority :=
  if ownedBy state.pointer owner then
    { state with
      pointer := none
      pointerImplicit := false
      pointerPassiveDetail := none
      pointerFrozen := false
      keyboardFrozen := if state.keyboard.isNone then false else state.keyboardFrozen }
  else state

def grabKeyboard (state : XNamespaceInputAuthority) (grab : XActiveInputGrab) :
    Except XInputGrabError XNamespaceInputAuthority := do
  validateModes grab.pointerMode grab.keyboardMode
  Fallible.require (¬ state.keyboard.any fun active => active.owner != grab.owner) .alreadyGrabbed
  pure { state with
    keyboard := some grab
    keyboardPassiveDetail := none
    keyboardFrozen := grab.keyboardMode == 0
    pointerFrozen := state.pointerFrozen || grab.pointerMode == 0 }

def ungrabKeyboard (state : XNamespaceInputAuthority) (owner : UInt64) : XNamespaceInputAuthority :=
  if ownedBy state.keyboard owner then
    { state with
      keyboard := none
      keyboardPassiveDetail := none
      keyboardFrozen := false
      pointerFrozen := if state.pointer.isNone then false else state.pointerFrozen }
  else state

def grabButton (state : XNamespaceInputAuthority) (grab : XPassiveInputGrab) :
    Except XInputGrabError XNamespaceInputAuthority := do
  validateModes grab.pointerMode grab.keyboardMode
  let buttons ← XPassiveInputGrab.insertPassive state.buttons grab
  pure { state with buttons }

def grabKey (state : XNamespaceInputAuthority) (grab : XPassiveInputGrab) :
    Except XInputGrabError XNamespaceInputAuthority := do
  validateModes grab.pointerMode grab.keyboardMode
  let keys ← XPassiveInputGrab.insertPassive state.keys grab
  pure { state with keys }

def ungrabButton (state : XNamespaceInputAuthority) (owner : UInt64) (window : XResourceId)
    (detail : UInt8) (modifiers : UInt16) : XNamespaceInputAuthority :=
  { state with
    buttons := XPassiveInputGrab.removePassive state.buttons owner window detail modifiers }

def ungrabKey (state : XNamespaceInputAuthority) (owner : UInt64) (window : XResourceId)
    (detail : UInt8) (modifiers : UInt16) : XNamespaceInputAuthority :=
  { state with keys := XPassiveInputGrab.removePassive state.keys owner window detail modifiers }

def grabServer (state : XNamespaceInputAuthority) (owner : UInt64) :
    Except XInputGrabError XNamespaceInputAuthority :=
  if state.serverOwner.any fun active => active != owner then .error .alreadyGrabbed
  else .ok { state with serverOwner := some owner }

def ungrabServer (state : XNamespaceInputAuthority) (owner : UInt64) : XNamespaceInputAuthority :=
  if state.serverOwner = some owner then { state with serverOwner := none } else state

/-- Modes 0 to 2 thaw the pointer, 3 to 5 the keyboard, 6 and 7 both. -/
def allowEvents (state : XNamespaceInputAuthority) (owner : UInt64) (mode : UInt8) :
    Except XInputGrabError XNamespaceInputAuthority :=
  let ownsPointer := ownedBy state.pointer owner
  let ownsKeyboard := ownedBy state.keyboard owner
  if mode > 7 then .error .invalidMode
  else if mode ≤ 2 then
    .ok (if ownsPointer then { state with pointerFrozen := false } else state)
  else if mode ≤ 5 then
    .ok (if ownsKeyboard then { state with keyboardFrozen := false } else state)
  else
    .ok { state with
      pointerFrozen := if ownsPointer then false else state.pointerFrozen
      keyboardFrozen := if ownsKeyboard then false else state.keyboardFrozen }

def activateKey (state : XNamespaceInputAuthority) (key : UInt8) (modifiers : UInt16) :
    Option XActiveInputGrab × XNamespaceInputAuthority :=
  match state.keys.find? fun grab => grab.triggers key modifiers with
  | none => (none, state)
  | some passive =>
    let active := passive.active
    (some active, { state with
      keyboard := some active
      keyboardPassiveDetail := some key
      keyboardFrozen := active.keyboardMode == 0
      pointerFrozen := state.pointerFrozen || active.pointerMode == 0 })

/-- Ends the passive grab this key activated; the pointer is left as it is. -/
def releaseKey (state : XNamespaceInputAuthority) (key : UInt8) : XNamespaceInputAuthority :=
  if state.keyboardPassiveDetail = some key then
    { state with keyboard := none, keyboardPassiveDetail := none, keyboardFrozen := false }
  else state

def activateButton (state : XNamespaceInputAuthority) (button : UInt8) (modifiers : UInt16)
    (implicit : XActiveInputGrab) : XActiveInputGrab × XNamespaceInputAuthority :=
  let (active, isImplicit) :=
    match state.buttons.find? fun grab => grab.triggers button modifiers with
    | some grab => (grab.active, false)
    | none => (implicit, true)
  (active, { state with
    pointer := some active
    pointerImplicit := isImplicit
    pointerPassiveDetail := if isImplicit then none else some button
    pointerFrozen := active.pointerMode == 0
    keyboardFrozen := state.keyboardFrozen || active.keyboardMode == 0 })

/-- Ends the implicit or passive grab of the button; the keyboard is left as it is. -/
def releaseButton (state : XNamespaceInputAuthority) (button : UInt8) : XNamespaceInputAuthority :=
  if state.pointerImplicit ∨ state.pointerPassiveDetail = some button then
    { state with
      pointer := none
      pointerImplicit := false
      pointerPassiveDetail := none
      pointerFrozen := false }
  else state

def dropPointer (state : XNamespaceInputAuthority) (owner : UInt64) : XNamespaceInputAuthority :=
  if ownedBy state.pointer owner then
    { state with
      pointer := none
      pointerFrozen := false
      pointerImplicit := false
      pointerPassiveDetail := none }
  else state

def dropKeyboard (state : XNamespaceInputAuthority) (owner : UInt64) : XNamespaceInputAuthority :=
  if ownedBy state.keyboard owner then
    { state with keyboard := none, keyboardFrozen := false, keyboardPassiveDetail := none }
  else state

def dropPassive (state : XNamespaceInputAuthority) (owner : UInt64) : XNamespaceInputAuthority :=
  { state with
    buttons := state.buttons.filter fun grab => grab.owner != owner
    keys := state.keys.filter fun grab => grab.owner != owner
    serverOwner := if state.serverOwner = some owner then none else state.serverOwner }

/-- Without a grab nothing stays frozen. -/
def thawUngrabbed (state : XNamespaceInputAuthority) : XNamespaceInputAuthority :=
  if state.pointer.isNone && state.keyboard.isNone then
    { state with pointerFrozen := false, keyboardFrozen := false }
  else state

def cleanupOwner (state : XNamespaceInputAuthority) (owner : UInt64) : XNamespaceInputAuthority :=
  (((state.dropPointer owner).dropKeyboard owner).dropPassive owner).thawUngrabbed

/-- Some grab keeps the entry of the namespace alive. -/
def inUse (state : XNamespaceInputAuthority) : Bool :=
  state.pointer.isSome || state.keyboard.isSome || !state.buttons.isEmpty || !state.keys.isEmpty ||
    state.serverOwner.isSome

end XNamespaceInputAuthority

structure XiSelectionKey where
  namespaceId : NamespaceId
  owner : UInt64
  window : XResourceId
  device : UInt16
  deriving DecidableEq, Repr

namespace XiSelectionKey

instance : Ord XiSelectionKey :=
  ⟨compareLex (compareOn namespaceId)
    (compareLex (compareOn owner) (compareLex (compareOn window) (compareOn device)))⟩

instance : TransOrd XiSelectionKey :=
  inferInstanceAs (TransCmp (compareLex (compareOn namespaceId)
    (compareLex (compareOn owner) (compareLex (compareOn window) (compareOn device)))))

instance : LawfulEqOrd XiSelectionKey where
  eq_of_compare {a b} h := by
    obtain ⟨hnamespace, h⟩ := compareLex_eq_eq.mp h
    obtain ⟨howner, h⟩ := compareLex_eq_eq.mp h
    obtain ⟨hwindow, hdevice⟩ := compareLex_eq_eq.mp h
    cases a
    cases b
    congr 1
    · exact LawfulEqOrd.eq_of_compare hnamespace
    · exact LawfulEqOrd.eq_of_compare howner
    · exact LawfulEqOrd.eq_of_compare hwindow
    · exact LawfulEqOrd.eq_of_compare hdevice

end XiSelectionKey

structure XInputAuthorityState where
  namespaces : ExtTreeMap NamespaceId XNamespaceInputAuthority := ∅
  xiSelections : ExtTreeMap XiSelectionKey (List UInt32) := ∅

namespace XInputAuthorityState

/-- The entry of a namespace, as the default one where there is none yet. -/
def authority (state : XInputAuthorityState) (ns : NamespaceId) : XNamespaceInputAuthority :=
  (state.namespaces[ns]?).getD {}

def pointerGrab (state : XInputAuthorityState) (ns : NamespaceId) : Option XActiveInputGrab :=
  (state.authority ns).pointer

def keyboardGrab (state : XInputAuthorityState) (ns : NamespaceId) : Option XActiveInputGrab :=
  (state.authority ns).keyboard

def pointerFrozen (state : XInputAuthorityState) (ns : NamespaceId) : Bool :=
  (state.authority ns).pointerFrozen

def keyboardFrozen (state : XInputAuthorityState) (ns : NamespaceId) : Bool :=
  (state.authority ns).keyboardFrozen

/-- Writes the entry of a namespace, creating it where there is none. -/
def enter (state : XInputAuthorityState) (ns : NamespaceId) (next : XNamespaceInputAuthority) :
    XInputAuthorityState :=
  { state with namespaces := state.namespaces.insert ns next }

/-- Rewrites the entry of a namespace that has one. -/
def modify (state : XInputAuthorityState) (ns : NamespaceId)
    (f : XNamespaceInputAuthority → XNamespaceInputAuthority) : XInputAuthorityState :=
  match state.namespaces[ns]? with
  | none => state
  | some entry => state.enter ns (f entry)

def tryEnter (state : XInputAuthorityState) (ns : NamespaceId)
    (result : Except XInputGrabError XNamespaceInputAuthority) :
    Except XInputGrabError XInputAuthorityState :=
  result.map (state.enter ns)

def grabPointer (state : XInputAuthorityState) (ns : NamespaceId) (grab : XActiveInputGrab) :=
  state.tryEnter ns ((state.authority ns).grabPointer grab)

def ungrabPointer (state : XInputAuthorityState) (ns : NamespaceId) (owner : UInt64) :=
  state.modify ns (·.ungrabPointer owner)

def grabKeyboard (state : XInputAuthorityState) (ns : NamespaceId) (grab : XActiveInputGrab) :=
  state.tryEnter ns ((state.authority ns).grabKeyboard grab)

def ungrabKeyboard (state : XInputAuthorityState) (ns : NamespaceId) (owner : UInt64) :=
  state.modify ns (·.ungrabKeyboard owner)

def grabButton (state : XInputAuthorityState) (ns : NamespaceId) (grab : XPassiveInputGrab) :=
  state.tryEnter ns ((state.authority ns).grabButton grab)

def grabKey (state : XInputAuthorityState) (ns : NamespaceId) (grab : XPassiveInputGrab) :=
  state.tryEnter ns ((state.authority ns).grabKey grab)

def ungrabButton (state : XInputAuthorityState) (ns : NamespaceId) (owner : UInt64)
    (window : XResourceId) (detail : UInt8) (modifiers : UInt16) :=
  state.modify ns (·.ungrabButton owner window detail modifiers)

def ungrabKey (state : XInputAuthorityState) (ns : NamespaceId) (owner : UInt64)
    (window : XResourceId) (detail : UInt8) (modifiers : UInt16) :=
  state.modify ns (·.ungrabKey owner window detail modifiers)

def grabServer (state : XInputAuthorityState) (ns : NamespaceId) (owner : UInt64) :=
  state.tryEnter ns ((state.authority ns).grabServer owner)

def ungrabServer (state : XInputAuthorityState) (ns : NamespaceId) (owner : UInt64) :=
  state.modify ns (·.ungrabServer owner)

def allowEvents (state : XInputAuthorityState) (ns : NamespaceId) (owner : UInt64) (mode : UInt8) :
    Except XInputGrabError XInputAuthorityState :=
  if mode > 7 then .error .invalidMode
  else match state.namespaces[ns]? with
    | none => .ok state
    | some entry => (entry.allowEvents owner mode).map (state.enter ns)

def selectXiEvents (state : XInputAuthorityState) (ns : NamespaceId) (owner : UInt64)
    (window : XResourceId) (masks : List (UInt16 × List UInt32)) : XInputAuthorityState :=
  { state with
    xiSelections := masks.foldl (fun selections (device, mask) =>
      if mask.all (· == 0) then selections.erase ⟨ns, owner, window, device⟩
      else selections.insert ⟨ns, owner, window, device⟩ mask) state.xiSelections }

/-- Device 1 selects for every device. -/
def xiEventSelected (state : XInputAuthorityState) (ns : NamespaceId) (owner : UInt64)
    (window : XResourceId) (device eventType : UInt16) : Bool :=
  [device, 1].any fun selected =>
    (state.xiSelections[(⟨ns, owner, window, selected⟩ : XiSelectionKey)]?).any fun mask =>
      (mask[eventType.toNat / 32]?).any fun word => word.toNat.testBit (eventType.toNat % 32)

def activateKey (state : XInputAuthorityState) (ns : NamespaceId) (key : UInt8)
    (modifiers : UInt16) : Option XActiveInputGrab × XInputAuthorityState :=
  match state.namespaces[ns]? with
  | none => (none, state)
  | some entry =>
    let (active, entry) := entry.activateKey key modifiers
    (active, state.enter ns entry)

def releaseKey (state : XInputAuthorityState) (ns : NamespaceId) (key : UInt8) :=
  state.modify ns (·.releaseKey key)

def activateButton (state : XInputAuthorityState) (ns : NamespaceId) (button : UInt8)
    (modifiers : UInt16) (implicit : XActiveInputGrab) : XActiveInputGrab × XInputAuthorityState :=
  let (active, entry) := (state.authority ns).activateButton button modifiers implicit
  (active, state.enter ns entry)

def releaseButton (state : XInputAuthorityState) (ns : NamespaceId) (button : UInt8) :=
  state.modify ns (·.releaseButton button)

def cleanupOwner (state : XInputAuthorityState) (owner : UInt64) : XInputAuthorityState where
  namespaces := state.namespaces.filterMap fun _ entry =>
    let entry := entry.cleanupOwner owner
    if entry.inUse then some entry else none
  xiSelections := state.xiSelections.filter fun key _ => key.owner != owner

end XInputAuthorityState
end Sophia.Authority
