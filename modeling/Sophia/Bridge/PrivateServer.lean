import Sophia.Bridge.WmBridge
import Sophia.Lib.Codec
import Mathlib.Data.Finset.Prod

/-! The private X server of the bridge: its commands, the requests of the legacy window manager,
and the packets it writes. -/
namespace Sophia.Bridge

open Std Protocol Codec

def firstDynamicAtom : UInt32 := 256

def maxPrivateKeyGrabs : ℕ := 256

def xSetupDefaultVisual : UInt32 := 0x22

def xSetupDefaultColormap : UInt32 := 0x21

inductive ServerCommand where
  | root (bounds : Rect)
  | map (window : SyntheticXWindowId) (geometry : Rect)
  | configure (window : SyntheticXWindowId) (geometry : Rect)
  | unmap (window : SyntheticXWindowId)
  | destroy (window : SyntheticXWindowId)
  | key (keycode : UInt8) (pressed : Bool)
  | wake
  | queryFocus
  deriving DecidableEq

structure WindowState where
  geometry : Rect
  mapped : Bool
  deriving DecidableEq

structure XServerState where
  sequence : UInt16
  root : Rect
  windows : ExtTreeMap UInt32 WindowState
  atomsByName : ExtTreeMap (List UInt8) UInt32
  atomNames : ExtTreeMap UInt32 (List UInt8)
  nextAtom : UInt32
  inputFocus : UInt32
  keyGrabs : Finset (UInt8 × UInt16)

def XServerState.new (root : Rect) : XServerState where
  sequence := 0
  root := root
  windows := ∅
  atomsByName := ∅
  atomNames := ∅
  nextAtom := firstDynamicAtom
  inputFocus := syntheticRootXid
  keyGrabs := ∅

/-- Why the server stops: an error it reports, or a panic. -/
inductive ServerFault where
  | nonRootGrab
  | keyGrabLimit
  | truncatedAtomName
  | unsupportedRequest (opcode : UInt8)
  | panic
  deriving DecidableEq

/-- What is left behind by one command or request. -/
structure ServerEffect where
  state : XServerState
  packets : List (List UInt8) := []
  legacy : List LegacyWmRequest := []

section Bytes

def readU16 (bytes : List UInt8) (offset : ℕ) : UInt16 :=
  if offset + 2 ≤ bytes.length then UInt16.ofNat (fromLe ((bytes.drop offset).take 2)) else 0

def readU32 (bytes : List UInt8) (offset : ℕ) : UInt32 :=
  if offset + 4 ≤ bytes.length then UInt32.ofNat (fromLe ((bytes.drop offset).take 4)) else 0

def pushU16 (value : UInt16) : List UInt8 := toLe 2 value.toNat

def pushU32 (value : UInt32) : List UInt8 := toLe 4 value.toNat

/-- The low half of a coordinate, as a position or as an extent. -/
def pushI16 (value : Int32) : List UInt8 := toLe 2 value.toUInt32.toNat

def resize (bytes : List UInt8) (length : ℕ) : List UInt8 :=
  bytes.take length ++ List.replicate (length - bytes.length) 0

/-- The first eight bytes of a reply. -/
def replyHeader (detail : UInt8) (sequence : UInt16) (length : UInt32) : List UInt8 :=
  [1, detail] ++ pushU16 sequence ++ pushU32 length

/-- The first four bytes of an event. -/
def eventHeader (code detail : UInt8) (sequence : UInt16) : List UInt8 :=
  [code, detail] ++ pushU16 sequence

/-- A reply that says how many words follow its first 32 bytes, brought to a size of its own. -/
def sizedReply (detail : UInt8) (sequence : UInt16) (length : UInt32) (payload : List UInt8)
    (size : ℕ) : List UInt8 :=
  resize (replyHeader detail sequence length ++ payload) size

def sizedEvent (code : UInt8) (sequence : UInt16) (payload : List UInt8) (size : ℕ) : List UInt8 :=
  resize (eventHeader code 0 sequence ++ payload) size

end Bytes

section Replies

variable (state : XServerState)

def writeConfigureNotify (sequence : UInt16) (window : UInt32) (geometry : Rect) : List UInt8 :=
  sizedEvent 22 sequence (pushU32 window ++ pushU32 window ++ pushU32 0 ++ pushI16 geometry.x ++
    pushI16 geometry.y ++ pushI16 geometry.width ++ pushI16 geometry.height ++ pushU16 0) 32

def writeWindowEvent (sequence : UInt16) (eventType : UInt8) (window : UInt32) : List UInt8 :=
  sizedEvent eventType sequence (pushU32 window ++ pushU32 window) 32

def writeMapRequest (sequence : UInt16) (window : UInt32) : List UInt8 :=
  sizedEvent 20 sequence (pushU32 syntheticRootXid ++ pushU32 window) 32

/-- The key event is written out in full: nothing resizes it. -/
def writeKeyEvent (sequence : UInt16) (keycode : UInt8) (pressed : Bool) : List UInt8 :=
  eventHeader (if pressed then 2 else 3) keycode sequence ++ pushU32 0 ++
    pushU32 syntheticRootXid ++ pushU32 syntheticRootXid ++ pushU32 0 ++ pushU16 0 ++ pushU16 0 ++
    pushU16 0 ++ pushU16 0 ++ pushU16 8 ++ [1, 0]

def replyWindowAttributes (window : UInt32) : List UInt8 :=
  let mapped := (state.windows[window]?.map (·.mapped)).getD false
  sizedReply 0 state.sequence 3 (pushU32 xSetupDefaultVisual ++ pushU16 1 ++ [0, 0] ++
    pushU32 (UInt32.ofNat (UInt32.size - 1)) ++ pushU32 0 ++ [0, 1, if mapped then 2 else 0, 0] ++
    pushU32 xSetupDefaultColormap ++ pushU32 0 ++ pushU32 0 ++ pushU16 0) 44

def replyGeometry (window : UInt32) : List UInt8 :=
  let geometry :=
    if window = syntheticRootXid then state.root
    else (state.windows[window]?.map (·.geometry)).getD state.root
  sizedReply 24 state.sequence 0 (pushU32 syntheticRootXid ++ pushI16 geometry.x ++
    pushI16 geometry.y ++ pushI16 geometry.width ++ pushI16 geometry.height ++ pushU16 0) 32

def replyQueryTree : List UInt8 :=
  let children := state.windows.keys
  sizedReply 0 state.sequence (UInt32.ofNat children.length)
    (pushU32 syntheticRootXid ++ pushU32 0 ++ pushU16 (UInt16.ofNat children.length)) 32 ++
    children.flatMap pushU32

def replyU32 (sequence : UInt16) (detail : UInt8) (value : UInt32) : List UInt8 :=
  sizedReply detail sequence 0 (pushU32 value) 32

def replySimple (sequence : UInt16) (detail : UInt8) : List UInt8 :=
  sizedReply detail sequence 0 [] 32

def replyInternAtom (onlyIfExists : Bool) (body : List UInt8) : Except ServerFault ServerEffect :=
  let len := (readU16 body 0).toNat
  if body.length < 4 + len then .error .truncatedAtomName
  else
    let name := (body.drop 4).take len
    match state.atomsByName[name]? with
    | some atom => .ok { state, packets := [replyU32 state.sequence 0 atom] }
    | none =>
      if onlyIfExists then .ok { state, packets := [replyU32 state.sequence 0 0] }
      else
        let atom := state.nextAtom
        .ok {
          state := { state with
            nextAtom := if atom.toNat + 1 < UInt32.size then atom + 1 else atom
            atomsByName := state.atomsByName.insert name atom
            atomNames := state.atomNames.insert atom name }
          packets := [replyU32 state.sequence 0 atom] }

def replyAtomName (atom : UInt32) : List UInt8 :=
  let name := state.atomNames[atom]?.getD []
  let padded := (name.length + 3) / 4 * 4
  resize (sizedReply 0 state.sequence (UInt32.ofNat (padded / 4))
    (pushU16 (UInt16.ofNat name.length)) 32 ++ name) (32 + padded)

def replyEmptyProperty (sequence : UInt16) : List UInt8 :=
  sizedReply 0 sequence 0 (pushU32 0 ++ pushU32 0 ++ pushU32 0) 32

def replyListProperties (sequence : UInt16) : List UInt8 := replySimple sequence 0

def replyQueryPointer : List UInt8 :=
  sizedReply 1 state.sequence 0 (pushU32 syntheticRootXid ++ pushU32 0 ++ pushU16 0 ++
    pushU16 0 ++ pushU16 0 ++ pushU16 0 ++ pushU16 0) 32

def replyTranslateCoordinates : List UInt8 :=
  sizedReply 1 state.sequence 0 (pushU32 0 ++ pushU16 0 ++ pushU16 0) 32

def replyQueryKeymap (sequence : UInt16) : List UInt8 := sizedReply 0 sequence 2 [] 40

def replyAllocColor (sequence : UInt16) (body : List UInt8) : List UInt8 :=
  let red := readU16 body 4
  let green := readU16 body 6
  let blue := readU16 body 8
  let pixel := (red >>> 8).toUInt32 <<< 16 ||| (green >>> 8).toUInt32 <<< 8 |||
    (blue >>> 8).toUInt32
  resize (sizedReply 0 sequence 0 (pushU16 red ++ pushU16 green ++ pushU16 blue) 20 ++
    pushU32 pixel) 32

def replyAllocNamedColor (sequence : UInt16) : List UInt8 :=
  sizedReply 0 sequence 0 (pushU32 0) 32

def replyBestSize (body : List UInt8) : List UInt8 :=
  sizedReply 0 state.sequence 0 (pushU16 (readU16 body 4) ++ pushU16 (readU16 body 6)) 32

def replyQueryExtension (sequence : UInt16) : List UInt8 := sizedReply 0 sequence 0 [] 32

def replyListExtensions (sequence : UInt16) : List UInt8 := replySimple sequence 0

/-- The length field is the count asked for; the keycodes stop at the last one there is. -/
def replyKeyboardMapping (sequence : UInt16) (firstKeycode : UInt8) (body : List UInt8) :
    List UInt8 :=
  let count := (body.headD 0).toNat
  let keycodes := List.range' firstKeycode.toNat
    (min (UInt8.size - 1) (firstKeycode.toNat + count) - firstKeycode.toNat)
  sizedReply 1 sequence (UInt32.ofNat count) [] 32 ++
    keycodes.flatMap fun keycode => pushU32 (UInt32.ofNat keycode)

def replyKeyboardControl (sequence : UInt16) : List UInt8 := sizedReply 0 sequence 5 [] 52

def replyPointerControl (sequence : UInt16) : List UInt8 :=
  sizedReply 0 sequence 0 (pushU16 1 ++ pushU16 1 ++ pushU16 4) 32

def replyScreenSaver (sequence : UInt16) : List UInt8 := sizedReply 0 sequence 0 [] 32

def replyPointerMapping (sequence : UInt16) : List UInt8 := replySimple sequence 0

def replyModifierMapping (sequence : UInt16) : List UInt8 := sizedReply 0 sequence 0 [] 32

end Replies

namespace XServerState

variable (state : XServerState)

def syntheticId (raw : UInt32) : Option SyntheticXWindowId :=
  if raw ∈ state.windows then some ⟨raw⟩ else none

def applyServerCommand : ServerCommand → Except ServerFault ServerEffect
  | .root bounds =>
    .ok {
      state := { state with root := bounds }
      packets := [writeConfigureNotify state.sequence syntheticRootXid bounds] }
  | .map window geometry =>
    .ok {
      state := { state with windows := state.windows.insert window.raw ⟨geometry, false⟩ }
      packets := [writeMapRequest state.sequence window.raw] }
  | .configure window geometry =>
    .ok {
      state := { state with
        windows := state.windows.modify window.raw fun entry => { entry with geometry } }
      packets := [writeConfigureNotify state.sequence syntheticRootXid state.root] }
  | .unmap window =>
    .ok {
      state := { state with windows := state.windows.erase window.raw }
      packets := [writeWindowEvent state.sequence 18 window.raw] }
  | .destroy window =>
    .ok {
      state := { state with windows := state.windows.erase window.raw }
      packets := [writeWindowEvent state.sequence 17 window.raw] }
  | .key keycode pressed =>
    .ok { state, packets := [writeKeyEvent state.sequence keycode pressed] }
  | .wake =>
    .ok { state, packets := [writeConfigureNotify state.sequence syntheticRootXid state.root] }
  -- Focus queries never get here: the loop keeps them back.
  | .queryFocus => .error .panic

/-- The values of a `ConfigureWindow` request follow its mask, one for each bit set. -/
def configuredGeometry (mask : UInt16) (body : List UInt8) (geometry : Rect) : Rect :=
  let (geometry, _) := (List.range 7).foldl (fun (progress : Rect × ℕ) bit =>
    let (geometry, cursor) := progress
    if mask &&& (1 <<< UInt16.ofNat bit) = 0 then progress
    else
      let value := (readU32 body cursor).toInt32
      (match bit with
        | 0 => { geometry with x := value }
        | 1 => { geometry with y := value }
        | 2 => { geometry with width := value }
        | 3 => { geometry with height := value }
        | _ => geometry, cursor + 4)) (geometry, 8)
  geometry

def configureWindow (body : List UInt8) : ServerEffect :=
  let raw := readU32 body 0
  let mask := readU16 body 4
  match state.windows[raw]? with
  | none => { state }
  | some entry =>
    let geometry := configuredGeometry mask body entry.geometry
    { state := { state with windows := state.windows.insert raw { entry with geometry } }
      legacy := [.configureWindow ⟨raw⟩ geometry 0] }

def setMapped (window : UInt32) (mapped : Bool) : XServerState :=
  { state with windows := state.windows.modify window fun entry => { entry with mapped } }

def grabKey (body : List UInt8) : Except ServerFault ServerEffect :=
  if readU32 body 0 ≠ syntheticRootXid then .error .nonRootGrab
  else match body[6]? with
    | none => .error .panic
    | some keycode =>
      let grab := (keycode, readU16 body 4)
      if grab ∉ state.keyGrabs ∧ maxPrivateKeyGrabs ≤ state.keyGrabs.card then
        .error .keyGrabLimit
      else .ok { state := { state with keyGrabs := insert grab state.keyGrabs } }

def ungrabKey (detail : UInt8) (body : List UInt8) : XServerState :=
  let modifiers := readU16 body 4
  if detail = 0 then
    { state with keyGrabs := state.keyGrabs.filter fun grab => grab.2 ≠ modifiers }
  else { state with keyGrabs := state.keyGrabs.erase (detail, modifiers) }

def setInputFocus (body : List UInt8) : ServerEffect :=
  let window := readU32 body 0
  { state := { state with inputFocus := window }
    legacy := ((state.syntheticId window).map LegacyWmRequest.focusWindow).toList }

/-- The reply of a request that changes nothing. -/
def reply (packet : List UInt8) : Except ServerFault ServerEffect :=
  .ok { state, packets := [packet] }

def dispatchRequest (opcode detail : UInt8) (body : List UInt8) :
    Except ServerFault ServerEffect :=
  match opcode with
  | 2 => .ok { state }
  | 3 => state.reply (replyWindowAttributes state (readU32 body 0))
  | 8 => .ok { state := state.setMapped (readU32 body 0) true }
  | 10 => .ok { state := state.setMapped (readU32 body 0) false }
  | 12 => .ok (state.configureWindow body)
  | 14 => state.reply (replyGeometry state (readU32 body 0))
  | 15 => state.reply (replyQueryTree state)
  | 16 => replyInternAtom state (detail ≠ 0) body
  | 17 => state.reply (replyAtomName state (readU32 body 0))
  | 18 | 19 => .ok { state }
  | 20 => state.reply (replyEmptyProperty state.sequence)
  | 21 => state.reply (replyListProperties state.sequence)
  | 22 => .ok { state }
  | 23 => state.reply (replyU32 state.sequence 0 0)
  | 25 | 28 | 29 | 30 | 32 | 35 | 36 | 37 | 39 | 41 => .ok { state }
  | 33 => state.grabKey body
  | 34 => .ok { state := state.ungrabKey detail body }
  | 26 => state.reply (replySimple state.sequence 0)
  | 31 => state.reply (replySimple state.sequence 0)
  | 38 => state.reply (replyQueryPointer state)
  | 40 => state.reply (replyTranslateCoordinates state)
  | 42 => .ok (state.setInputFocus body)
  | 43 => state.reply (replyU32 state.sequence 0 state.inputFocus)
  | 44 => state.reply (replyQueryKeymap state.sequence)
  | 84 => state.reply (replyAllocColor state.sequence body)
  | 85 => state.reply (replyAllocNamedColor state.sequence)
  | 91 => state.reply (replyBestSize state body)
  | 98 => state.reply (replyQueryExtension state.sequence)
  | 99 => state.reply (replyListExtensions state.sequence)
  | 101 => state.reply (replyKeyboardMapping state.sequence detail body)
  | 103 => state.reply (replyKeyboardControl state.sequence)
  | 106 => state.reply (replyPointerControl state.sequence)
  | 108 => state.reply (replyScreenSaver state.sequence)
  | 117 => state.reply (replyPointerMapping state.sequence)
  | 119 => state.reply (replyModifierMapping state.sequence)
  | 127 => .ok { state }
  | other =>
    if 53 ≤ other ∧ other ≤ 83 then .ok { state } else .error (.unsupportedRequest other)

/-- One request of the window manager, read from its socket. -/
def serveRequest (opcode detail : UInt8) (body : List UInt8) : Except ServerFault ServerEffect :=
  dispatchRequest { state with sequence := state.sequence + 1 } opcode detail body

variable {state} {opcode detail : UInt8} {body : List UInt8} {effect : ServerEffect}

/-- A name that is interned has the length its halfword says. -/
theorem replyInternAtom_cases {onlyIfExists : Bool}
    (h : replyInternAtom state onlyIfExists body = .ok effect) :
    effect.legacy = [] ∧ (effect.state = state ∨
      ∃ name atom nextAtom atomsByName, name.length < UInt16.size ∧
        effect.state = { state with
          nextAtom, atomsByName, atomNames := state.atomNames.insert atom name }) := by
  rw [replyInternAtom] at h
  dsimp only at h
  split at h
  · cases h
  · split at h
    · cases h
      exact ⟨rfl, Or.inl rfl⟩
    · split at h
      · cases h
        exact ⟨rfl, Or.inl rfl⟩
      · cases h
        refine ⟨rfl, Or.inr ⟨_, _, _, _, ?_, rfl⟩⟩
        rw [List.length_take]
        exact Nat.lt_of_le_of_lt (Nat.min_le_left ..) (readU16 body 0).toNat_lt

theorem grabKey_cases (h : state.grabKey body = .ok effect) :
    ∃ keyGrabs, effect = { state := { state with keyGrabs } } := by
  rw [grabKey] at h
  split at h
  · cases h
  · split at h
    · cases h
    · dsimp only at h
      split at h
      · cases h
      · cases h
        exact ⟨_, rfl⟩

theorem ungrabKey_eq (state : XServerState) (detail : UInt8) (body : List UInt8) :
    ∃ keyGrabs, state.ungrabKey detail body = { state with keyGrabs } := by
  rw [ungrabKey]
  split
  · exact ⟨_, rfl⟩
  · exact ⟨_, rfl⟩

/-- What a request leaves besides its reply. -/
theorem dispatchRequest_cases (h : state.dispatchRequest opcode detail body = .ok effect) :
    (effect.state = state ∧ effect.legacy = []) ∨
    (∃ mapped, effect = { state := state.setMapped (readU32 body 0) mapped }) ∨
    (opcode = 12 ∧ effect = state.configureWindow body) ∨
    replyInternAtom state (detail ≠ 0) body = .ok effect ∨
    state.grabKey body = .ok effect ∨
    effect = { state := state.ungrabKey detail body } ∨
    (opcode = 42 ∧ effect = state.setInputFocus body) := by
  have hsame {packets : List (List UInt8)}
      (h : (.ok { state, packets } : Except ServerFault ServerEffect) = .ok effect) :
      effect.state = state ∧ effect.legacy = [] := by
    cases h
    exact ⟨rfl, rfl⟩
  unfold dispatchRequest at h
  split at h
  · exact .inl (hsame h)
  · exact .inl (hsame h)
  · exact .inr (.inl ⟨_, (Except.ok.inj h).symm⟩)
  · exact .inr (.inl ⟨_, (Except.ok.inj h).symm⟩)
  · exact .inr (.inr (.inl ⟨rfl, (Except.ok.inj h).symm⟩))
  · exact .inl (hsame h)
  · exact .inl (hsame h)
  · exact .inr (.inr (.inr (.inl h)))
  · exact .inl (hsame h)
  · exact .inl (hsame h)
  · exact .inl (hsame h)
  · exact .inl (hsame h)
  · exact .inl (hsame h)
  · exact .inl (hsame h)
  · exact .inl (hsame h)
  · exact .inl (hsame h)
  · exact .inl (hsame h)
  · exact .inl (hsame h)
  · exact .inl (hsame h)
  · exact .inl (hsame h)
  · exact .inl (hsame h)
  · exact .inl (hsame h)
  · exact .inl (hsame h)
  · exact .inl (hsame h)
  · exact .inl (hsame h)
  · exact .inr (.inr (.inr (.inr (.inl h))))
  · exact .inr (.inr (.inr (.inr (.inr (.inl (Except.ok.inj h).symm)))))
  · exact .inl (hsame h)
  · exact .inl (hsame h)
  · exact .inl (hsame h)
  · exact .inl (hsame h)
  · exact .inr (.inr (.inr (.inr (.inr (.inr ⟨rfl, (Except.ok.inj h).symm⟩)))))
  · exact .inl (hsame h)
  · exact .inl (hsame h)
  · exact .inl (hsame h)
  · exact .inl (hsame h)
  · exact .inl (hsame h)
  · exact .inl (hsame h)
  · exact .inl (hsame h)
  · exact .inl (hsame h)
  · exact .inl (hsame h)
  · exact .inl (hsame h)
  · exact .inl (hsame h)
  · exact .inl (hsame h)
  · exact .inl (hsame h)
  · exact .inl (hsame h)
  · split at h
    · exact .inl (hsame h)
    · cases h

end XServerState
end Sophia.Bridge
