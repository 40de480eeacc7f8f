import Sophia.Authority.RandrResources
import Sophia.Frontend.PropertyCalls
import Sophia.Lib.Layout

/-! The errors, events and replies that go to a client, and their bytes. -/
namespace Sophia.Authority

/-- The bytes of a number, the lowest one first or last. -/
def XByteOrder.bytes (order : XByteOrder) (width value : ℕ) : List UInt8 :=
  match order with
  | .littleEndian => Codec.toLe width value
  | .bigEndian => (Codec.toLe width value).reverse

def XByteOrder.number (order : XByteOrder) (bytes : List UInt8) : ℕ :=
  match order with
  | .littleEndian => Codec.fromLe bytes
  | .bigEndian => Codec.fromLe bytes.reverse

def XErrorCode.wireCode : XErrorCode → UInt8
  | .badRequest => 1
  | .badValue => 2
  | .badWindow => 3
  | .badAtom => 5
  | .badAccess => 10
  | .badIdChoice => 14
  | .badLength => 16
  | .badImplementation => 17

end Sophia.Authority

namespace Sophia.Frontend

open Protocol Authority

inductive XClientEventContent where
  | key (pressed : Bool) (keycode : UInt8) (time : UInt32) (root event : XResourceId)
      (state : UInt16)
  | focus (focused : Bool) (detail : UInt8) (event : XResourceId) (mode : UInt8)
  | xkbStateNotify (time : UInt32) (modifiers : UInt8) (changed : UInt16)
      (keycode eventType : UInt8)
  | pointerMotion (time : UInt32) (root event : XResourceId) (rootX rootY eventX eventY : Int16)
      (state : UInt16)
  | pointerButton (pressed : Bool) (button : UInt8) (time : UInt32) (root event : XResourceId)
      (rootX rootY eventX eventY : Int16) (state : UInt16)
  | expose (window : XResourceId) (x y width height count : UInt16)
  | visibilityNotify (window : XResourceId) (state : UInt8)
  | mapNotify (event window : XResourceId) (overrideRedirect : Bool)
  | configureNotify (event window : XResourceId) (aboveSibling : Option XResourceId)
      (x y : Int16) (width height borderWidth : UInt16) (overrideRedirect : Bool)
  | propertyNotify (window : XResourceId) (atom time : UInt32) (newValue : Bool)
  | selectionClear (time : UInt32) (owner : XResourceId) (selection : UInt32)
  | selectionRequest (time : UInt32) (owner requestor : XResourceId)
      (selection target property : UInt32)
  | selectionNotify (time : UInt32) (requestor : XResourceId) (selection target property : UInt32)
  | clientMessage (bytes : Vector UInt8 32)
  | shmCompletion (drawable segment : XResourceId) (offset : UInt32)
  | presentCompleteNotify (eventId window : XResourceId) (serial : UInt32) (ust msc : UInt64)
      (mode : UInt8)
  | presentIdleNotify (eventId window : XResourceId) (serial : UInt32) (pixmap : XResourceId)
      (idleFence : Option XResourceId)
  | randrScreenChange (timestamp configTimestamp : UInt32) (root requestWindow : XResourceId)
      (width height mmWidth mmHeight : UInt16)
  | randrCrtcChange (timestamp : UInt32) (window : XResourceId) (crtc mode : UInt32)
      (x y : Int16) (width height : UInt16)
  | randrOutputChange (timestamp : UInt32) (window : XResourceId) (output crtc mode : UInt32)
  | randrResourceChange (timestamp : UInt32) (window : XResourceId)

/-- Every event has a sequence number. -/
structure XClientEvent where
  sequence : UInt16
  content : XClientEventContent

inductive XXiDeviceClass where
  | key (sourceId : UInt16) (keys : List UInt32)
  | button (sourceId buttonCount : UInt16)
  | valuator (sourceId number : UInt16) (min max : Int64)

structure XXiDeviceInfo where
  deviceId : UInt16
  deviceType : UInt16
  attachment : UInt16
  name : String
  classes : List XXiDeviceClass

structure XRandrMonitorInfo where
  name : UInt32
  primary : Bool
  x : Int16
  y : Int16
  width : UInt16
  height : UInt16
  mmWidth : UInt32
  mmHeight : UInt32
  outputs : List UInt32

inductive XClientReplyContent where
  | grabStatus (status : UInt8)
  | internAtom (atom : UInt32)
  | getAtomName (name : String)
  | getGeometry (depth : UInt8) (root : XResourceId) (geometry : Rect) (borderWidth : UInt16)
  | getImage (depth : UInt8) (visual : UInt32) (data : List UInt8)
  | queryTree (root parent : XResourceId) (children : List XResourceId)
  | getWindowAttributes (visual : UInt32) (colormap : XResourceId) (mapState : UInt8)
      (overrideRedirect : Bool)
  | queryExtension (present : Bool) (majorOpcode firstEvent firstError : UInt8)
  | listExtensions
  | listFonts (names : List String)
  | listFontsWithInfo (names : List String)
  | queryBestSize (width height : UInt16)
  | shmQueryVersion (majorVersion minorVersion : UInt16) (sharedPixmaps : Bool)
      (pixmapFormat : UInt8)
  | dri3QueryVersion (majorVersion minorVersion : UInt32)
  | dri3Open
  | dri3GetSupportedModifiers (windowModifiers screenModifiers : List UInt64)
  | xfixesQueryVersion (majorVersion minorVersion : UInt32)
  | presentQueryVersion (majorVersion minorVersion : UInt32)
  | presentQueryCapabilities (capabilities : UInt32)
  | randrQueryVersion (majorVersion minorVersion : UInt32)
  | randrGetScreenSizeRange (minWidth minHeight maxWidth maxHeight : UInt16)
  | randrGetScreenResources (timestamp : UInt32) (crtcs outputs : List UInt32)
      (modes : List XRandrModeInfo)
  | randrGetOutputInfo (timestamp crtc mmWidth mmHeight : UInt32) (crtcs modes : List UInt32)
      (name : List UInt8)
  | randrGetOutputProperty (propertyType bytesAfter : UInt32) (format : UInt8) (data : List UInt8)
  | randrGetCrtcInfo (timestamp : UInt32) (x y : Int16) (width height : UInt16) (mode : UInt32)
      (outputs : List UInt32)
  | randrGetCrtcGammaSize (size : UInt16)
  | randrGetOutputPrimary (output : UInt32)
  | randrGetProviders (timestamp : UInt32)
  | randrGetMonitors (timestamp : UInt32) (monitors : List XRandrMonitorInfo)
  | xkbUseExtension (supported : Bool) (serverMajor serverMinor : UInt16)
  | glxQueryVersion (majorVersion minorVersion : UInt32)
  | glxString (value : String)
  | glxVisualConfigs (configs : List (Vector UInt32 18))
  | glxFbConfigs (configs : List (List (UInt32 × UInt32)))
  | glxIsDirect (direct : Bool)
  | glxDrawableAttributes (attributes : List (UInt32 × UInt32))
  | syncInitialize (majorVersion minorVersion : UInt8)
  | xkbGetMap (present : UInt16) (keysyms : List (Vector UInt32 2))
      (modifierMap : List (UInt8 × UInt8))
  | xkbGetCompatMap (deviceId : UInt8)
  | xkbGetIndicatorMap (deviceId : UInt8)
  | xkbGetState (modifiers : UInt8)
  | xkbGetControls
  | xkbGetNames (which : UInt32) (minKeycode maxKeycode : UInt8)
      (componentAtoms typeAtoms : List UInt32) (keyNames : List (Vector UInt8 4))
  | xkbGetDeviceInfo (deviceId : UInt8) (supported unsupported : UInt16)
  | xkbPerClientFlags (supported value : UInt32)
  | xiQueryVersion (majorVersion minorVersion : UInt16)
  | geQueryVersion (majorVersion minorVersion : UInt16)
  | xiGetClientPointer (deviceId : UInt16)
  | xiGetExtensionVersion (serverMajor serverMinor : UInt16)
  | xiQueryDevice (devices : List XXiDeviceInfo)
  | xiQueryPointer (root child : XResourceId)
  | xiGetFocus (focus : XResourceId)
  | xiGetProperty
  | bigRequestsEnable (maximumRequestLength : UInt32)
  | getInputFocus (focus : XResourceId) (revertTo : UInt8)
  | queryPointer (root child : XResourceId) (rootX rootY winX winY : Int16) (mask : UInt16)
  | getModifierMapping (keycodesPerModifier : UInt8) (keycodes : List UInt8)
  | getKeyboardMapping (keysymsPerKeycode : UInt8) (keysyms : List UInt32)
  | getKeyboardControl
  | translateCoordinates (sameScreen : Bool) (child : Option XResourceId) (dstX dstY : Int16)
  | queryFont (fontAscent fontDescent : Int16)
  | getProperty (propertyType : UInt32) (format : UInt8) (bytesAfter itemCount : UInt32)
      (bytes : List UInt8)
  | getSelectionOwner (owner : Option XResourceId)
  | allocNamedColor (pixel : UInt32) (red green blue : UInt16)
  | allocColor (pixel : UInt32) (red green blue : UInt16)
  | listProperties (atoms : List UInt32)
  | queryColors (pixels : List UInt32)

/-- Every reply has a sequence number. -/
structure XClientReply where
  sequence : UInt16
  content : XClientReplyContent

inductive XClientOutput where
  | error (error : XClientError)
  | event (event : XClientEvent)
  | reply (reply : XClientReply)

def XClientOutput.sequence : XClientOutput → UInt16
  | .error e => e.sequence
  | .event e => e.sequence
  | .reply r => r.sequence

section Numbers

/-- `u8::try_from(n).unwrap_or(default)`. -/
def tryU8 (n : ℤ) (default : UInt8) : UInt8 :=
  if 0 ≤ n ∧ n < 256 then .ofNat n.toNat else default

def tryU16 (n : ℤ) (default : UInt16) : UInt16 :=
  if 0 ≤ n ∧ n < 65536 then .ofNat n.toNat else default

def tryI16 (n : ℤ) (default : Int16) : Int16 :=
  if -32768 ≤ n ∧ n < 32768 then .ofInt n else default

def tryU32 (n : ℤ) (default : UInt32) : UInt32 :=
  if 0 ≤ n ∧ n < 4294967296 then .ofNat n.toNat else default

/-- The sum of some numbers; one that overflows stops the program. -/
def sumU32 (values : List UInt32) : Option UInt32 :=
  values.foldlM (fun sum value =>
    if sum.toNat + value.toNat < UInt32.size then some (sum + value) else none) 0

end Numbers

def rawXid (resource : XResourceId) : UInt32 := tryU32 resource.localId.raw.toNat 0

def xResourceNone : XResourceId := .new 0 0

section Fields

variable (order : XByteOrder)

def putU8 (offset : ℕ) (value : UInt8) : Layout.Field UInt8 := ⟨offset, [value]⟩

def putU16 (offset : ℕ) (value : UInt16) : Layout.Field UInt8 :=
  ⟨offset, order.bytes 2 value.toNat⟩

def putI16 (offset : ℕ) (value : Int16) : Layout.Field UInt8 := putU16 order offset value.toUInt16

def putU32 (offset : ℕ) (value : UInt32) : Layout.Field UInt8 :=
  ⟨offset, order.bytes 4 value.toNat⟩

def putU64 (offset : ℕ) (value : UInt64) : Layout.Field UInt8 :=
  ⟨offset, order.bytes 8 value.toNat⟩

def putResource (offset : ℕ) (resource : XResourceId) : Layout.Field UInt8 :=
  putU32 order offset (rawXid resource)

/-- The numbers one after the other. -/
def putIds (offset : ℕ) (ids : List UInt32) : List (Layout.Field UInt8) :=
  Layout.each (fun _ => 4) (fun offset id => [putU32 order offset id]) offset ids

def putPairs (offset : ℕ) (pairs : List (UInt32 × UInt32)) : List (Layout.Field UInt8) :=
  Layout.each (fun _ => 8)
    (fun offset pair => [putU32 order offset pair.1, putU32 order (offset + 4) pair.2]) offset pairs

def pushU16 (value : UInt16) : List UInt8 := order.bytes 2 value.toNat

def pushU32 (value : UInt32) : List UInt8 := order.bytes 4 value.toNat

def pushI64 (value : Int64) : List UInt8 := order.bytes 8 value.toUInt64.toNat

def writeReplyHeader (sequence : UInt16) (lengthUnits : UInt32) : List (Layout.Field UInt8) :=
  [putU8 0 1, putU16 order 2 sequence, putU32 order 4 lengthUnits]

def writeEventHeader (eventType detail : UInt8) (sequence : UInt16) :
    List (Layout.Field UInt8) :=
  [putU8 0 eventType, putU8 1 detail, putU16 order 2 sequence]

end Fields

def xKeyboardFirstEvent : UInt8 := 89
def xMitShmFirstEvent : UInt8 := 108
def xMitShmMajorOpcode : UInt8 := 131
def xMitShmPutImageMinorOpcode : UInt8 := 3
def xPresentMajorOpcode : UInt8 := 138
def xRandrFirstEvent : UInt8 := 64

section Encoding

variable (order : XByteOrder)

def encodeXClientError (error : XClientError) : Option (List UInt8) :=
  Layout.write (List.replicate 32 0)
    [putU8 0 0, putU8 1 error.code.wireCode, putU16 order 2 error.sequence,
      putU32 order 4 error.resourceId, putU16 order 8 error.minorCode, putU8 10 error.majorCode]

def pointerEvent (time : UInt32) (root event : XResourceId) (rootX rootY eventX eventY : Int16)
    (state : UInt16) : List (Layout.Field UInt8) :=
  [putU32 order 4 time, putResource order 8 root, putResource order 12 event,
    putResource order 16 xResourceNone, putI16 order 20 rootX, putI16 order 22 rootY,
    putI16 order 24 eventX, putI16 order 26 eventY, putU16 order 28 state, putU8 30 1]

/-- An event of the usual length. -/
def plainEvent (sequence : UInt16) (eventType detail : UInt8)
    (fields : List (Layout.Field UInt8)) : Option (List UInt8) :=
  Layout.write (List.replicate 32 0) (writeEventHeader order eventType detail sequence ++ fields)

def encodeXClientEvent (event : XClientEvent) : Option (List UInt8) :=
  let sequence := event.sequence
  match event.content with
  | .key pressed keycode time root event state =>
    plainEvent order sequence (if pressed then 2 else 3) keycode
      [putU32 order 4 time, putResource order 8 root, putResource order 12 event,
        putResource order 16 xResourceNone, putI16 order 20 0, putI16 order 22 0,
        putI16 order 24 0, putI16 order 26 0, putU16 order 28 state, putU8 30 1]
  | .focus focused detail event mode =>
    plainEvent order sequence (if focused then 9 else 10) detail
      [putResource order 4 event, putU8 8 mode]
  | .xkbStateNotify time modifiers changed keycode eventType =>
    plainEvent order sequence xKeyboardFirstEvent 2
      [putU32 order 4 time, putU8 8 3, putU8 9 modifiers, putU8 10 modifiers, putU8 16 modifiers,
        putU8 18 modifiers, putU16 order 24 changed, putU8 26 keycode, putU8 27 eventType]
  | .pointerMotion time root event rootX rootY eventX eventY state =>
    plainEvent order sequence 6 0
      (pointerEvent order time root event rootX rootY eventX eventY state)
  | .pointerButton pressed button time root event rootX rootY eventX eventY state =>
    plainEvent order sequence (if pressed then 4 else 5) button
      (pointerEvent order time root event rootX rootY eventX eventY state)
  | .expose window x y width height count =>
    plainEvent order sequence 12 0
      [putResource order 4 window, putU16 order 8 x, putU16 order 10 y, putU16 order 12 width,
        putU16 order 14 height, putU16 order 16 count]
  | .visibilityNotify window state =>
    plainEvent order sequence 15 0 [putResource order 4 window, putU8 8 state]
  | .mapNotify event window overrideRedirect =>
    plainEvent order sequence 19 0
      [putResource order 4 event, putResource order 8 window, putU8 12 overrideRedirect.toUInt8]
  | .configureNotify event window aboveSibling x y width height borderWidth overrideRedirect =>
    plainEvent order sequence 22 0
      [putResource order 4 event, putResource order 8 window,
        putU32 order 12 ((aboveSibling.map rawXid).getD 0), putI16 order 16 x, putI16 order 18 y,
        putU16 order 20 width, putU16 order 22 height, putU16 order 24 borderWidth,
        putU8 26 overrideRedirect.toUInt8]
  | .propertyNotify window atom time newValue =>
    plainEvent order sequence 28 0
      [putResource order 4 window, putU32 order 8 atom, putU32 order 12 time,
        putU8 16 (if newValue then 0 else 1)]
  | .selectionClear time owner selection =>
    plainEvent order sequence 29 0
      [putU32 order 4 time, putResource order 8 owner, putU32 order 12 selection]
  | .selectionRequest time owner requestor selection target property =>
    plainEvent order sequence 30 0
      [putU32 order 4 time, putResource order 8 owner, putResource order 12 requestor,
        putU32 order 16 selection, putU32 order 20 target, putU32 order 24 property]
  | .selectionNotify time requestor selection target property =>
    plainEvent order sequence 31 0
      [putU32 order 4 time, putResource order 8 requestor, putU32 order 12 selection,
        putU32 order 16 target, putU32 order 20 property]
  | .clientMessage bytes => Layout.write bytes.toList [putU16 order 2 sequence]
  | .shmCompletion drawable segment offset =>
    plainEvent order sequence xMitShmFirstEvent 0
      [putResource order 4 drawable, putU16 order 8 xMitShmPutImageMinorOpcode.toUInt16,
        putU8 10 xMitShmMajorOpcode, putResource order 12 segment, putU32 order 16 offset]
  | .presentCompleteNotify eventId window serial ust msc mode =>
    Layout.write (List.replicate 40 0)
      [putU8 0 35, putU8 1 xPresentMajorOpcode, putU16 order 2 sequence, putU32 order 4 2,
        putU16 order 8 1, putU8 10 0, putU8 11 mode, putResource order 12 eventId,
        putResource order 16 window, putU32 order 20 serial, putU64 order 24 ust,
        putU64 order 32 msc]
  | .presentIdleNotify eventId window serial pixmap idleFence =>
    Layout.write (List.replicate 32 0)
      [putU8 0 35, putU8 1 xPresentMajorOpcode, putU16 order 2 sequence, putU16 order 8 2,
        putResource order 12 eventId, putResource order 16 window, putU32 order 20 serial,
        putResource order 24 pixmap, putResource order 28 (idleFence.getD xResourceNone)]
  | .randrScreenChange timestamp configTimestamp root requestWindow width height mmWidth mmHeight =>
    plainEvent order sequence xRandrFirstEvent 1
      [putU32 order 4 timestamp, putU32 order 8 configTimestamp, putResource order 12 root,
        putResource order 16 requestWindow, putU16 order 20 0, putU16 order 22 0,
        putU16 order 24 width, putU16 order 26 height, putU16 order 28 mmWidth,
        putU16 order 30 mmHeight]
  | .randrCrtcChange timestamp window crtc mode x y width height =>
    plainEvent order sequence (xRandrFirstEvent + 1) 0
      [putU32 order 4 timestamp, putResource order 8 window, putU32 order 12 crtc,
        putU32 order 16 mode, putU16 order 20 1, putI16 order 24 x, putI16 order 26 y,
        putU16 order 28 width, putU16 order 30 height]
  | .randrOutputChange timestamp window output crtc mode =>
    plainEvent order sequence (xRandrFirstEvent + 1) 1
      [putU32 order 4 timestamp, putU32 order 8 timestamp, putResource order 12 window,
        putU32 order 16 output, putU32 order 20 crtc, putU32 order 24 mode, putU16 order 28 1,
        putU8 30 0, putU8 31 0]
  | .randrResourceChange timestamp window =>
    plainEvent order sequence (xRandrFirstEvent + 1) 5
      [putU32 order 4 timestamp, putResource order 8 window]

/-- A reply of zeros that its header and then the fields are written to. -/
def reply (sequence : UInt16) (lengthUnits : UInt32) (length : ℕ)
    (fields : List (Layout.Field UInt8)) : Option (List UInt8) :=
  Layout.write (List.replicate length 0) (writeReplyHeader order sequence lengthUnits ++ fields)

def encodeFontInfoReply (sequence : UInt16) (fontAscent fontDescent : Int16)
    (name : Option (List UInt8)) : Option (List UInt8) :=
  let name := name.getD []
  let paddedNameLen := paddedLen name.length
  reply order sequence (tryU32 (7 + paddedNameLen / 4 : ℕ) 7) (60 + paddedNameLen)
    [putU8 1 (tryU8 name.length 0),
      putI16 order 8 0, putI16 order 10 8, putI16 order 12 8, putI16 order 14 8,
      putI16 order 16 2, putU16 order 18 0,
      putI16 order 24 0, putI16 order 26 8, putI16 order 28 8, putI16 order 30 8,
      putI16 order 32 2, putU16 order 34 0,
      putU16 order 40 0, putU16 order 42 255, putU16 order 44 0, putU16 order 46 0,
      putU8 48 0, putU8 49 0, putU8 50 0, putU8 51 1,
      putI16 order 52 fontAscent, putI16 order 54 fontDescent, putU32 order 56 0, ⟨60, name⟩]

def putFontNames (names : List String) : List (Layout.Field UInt8) :=
  Layout.each (fun name => 1 + name.utf8ByteSize)
    (fun offset name =>
      [putU8 offset (tryU8 name.utf8ByteSize 0), ⟨offset + 1, Codec.utf8Bytes name⟩]) 32 names

def putModifiers (modifiers : List UInt64) : List (Layout.Field UInt8) :=
  Layout.each (fun _ => 8) (fun offset modifier => [putU64 order offset modifier]) 32 modifiers

-- The numbers of 16, 16 and 32 bits have a product of 64.
def dotClock (mode : XRandrModeInfo) : ℕ :=
  mode.width.toNat * mode.height.toNat * mode.refreshMillihz.toNat / 1000

def putMode (offset : ℕ) (mode : XRandrModeInfo) : List (Layout.Field UInt8) :=
  [putU32 order offset mode.id, putU16 order (offset + 4) mode.width,
    putU16 order (offset + 6) mode.height,
    putU32 order (offset + 8) (tryU32 (dotClock mode) 0xffffffff),
    putU16 order (offset + 12) mode.width, putU16 order (offset + 14) mode.width,
    putU16 order (offset + 16) mode.width, putU16 order (offset + 20) mode.height,
    putU16 order (offset + 22) mode.height, putU16 order (offset + 24) mode.height,
    putU16 order (offset + 26) (.ofNat mode.name.length)]

/-- The ids, then the modes, then their names. -/
def putScreenResources (ids : List UInt32) (modes : List XRandrModeInfo) :
    List (Layout.Field UInt8) :=
  let idsEnd := 32 + 4 * ids.length
  putIds order 32 ids ++ Layout.each (fun _ => 32) (putMode order) idsEnd modes ++
    Layout.each (fun mode => mode.name.length) (fun offset mode => [⟨offset, mode.name⟩])
      (idsEnd + 32 * modes.length) modes

def putMonitor (offset : ℕ) (monitor : XRandrMonitorInfo) : List (Layout.Field UInt8) :=
  [putU32 order offset monitor.name, putU8 (offset + 4) monitor.primary.toUInt8,
    putU8 (offset + 5) 1, putU16 order (offset + 6) (.ofNat monitor.outputs.length),
    putI16 order (offset + 8) monitor.x, putI16 order (offset + 10) monitor.y,
    putU16 order (offset + 12) monitor.width, putU16 order (offset + 14) monitor.height,
    putU32 order (offset + 16) monitor.mmWidth, putU32 order (offset + 20) monitor.mmHeight] ++
    putIds order (offset + 24) monitor.outputs

def putColors (pixels : List UInt32) : List (Layout.Field UInt8) :=
  Layout.each (fun _ => 8)
    (fun offset pixel =>
      let intensity : UInt16 := if pixel = 0 then 0 else 0xffff
      [putU16 order offset intensity, putU16 order (offset + 2) intensity,
        putU16 order (offset + 4) intensity]) 32 pixels

-- The header is written for the length without the two fields that only this reply has, and the
-- length in it is written again at the end.
def encodeOutputInfo (sequence : UInt16) (timestamp crtc mmWidth mmHeight : UInt32)
    (crtcs modes : List UInt32) (name : List UInt8) : Option (List UInt8) := do
  let paddedPayloadLen := paddedLen (crtcs.length * 4 + modes.length * 4 + name.length)
  let out ← reply order sequence (.ofNat (paddedPayloadLen / 4)) (32 + paddedPayloadLen)
    [putU8 1 0, putU32 order 8 timestamp, putU32 order 12 crtc, putU32 order 16 mmWidth,
      putU32 order 20 mmHeight, putU8 24 0, putU8 25 0, putU16 order 26 (.ofNat crtcs.length),
      putU16 order 28 (.ofNat modes.length), putU16 order 30 (!modes.isEmpty).toUInt16]
  let out ← Layout.write (out ++ [0, 0, 0, 0]) [putU16 order 34 (.ofNat name.length)]
  let payload := ((crtcs ++ modes).flatMap (pushU32 order) ++ name).takeD paddedPayloadLen 0
  let out := out.take 36 ++ payload
  let replyUnits := (out.length - 32 + 3) / 4
  Layout.write (out.takeD (32 + replyUnits * 4) 0) [putU32 order 4 (.ofNat replyUnits)]

def xkbMapBody (present : UInt16) (keysyms : List (Vector UInt32 2))
    (modifierMap : List (UInt8 × UInt8)) : List UInt8 :=
  let types := if present &&& 1 ≠ 0 then
      (List.replicate 4 (1 :: 1 :: pushU16 order 0 ++ [2, 1, 0, 0] ++ [1, 1, 1, 1] ++
        pushU16 order 0 ++ [0, 0])).flatten
    else []
  let body := if present &&& 2 ≠ 0 then
      types ++ keysyms.flatMap fun syms => 0 :: 0 :: 0 :: 0 :: 1 :: 2 :: pushU16 order 2 ++
        pushU32 order syms[0] ++ pushU32 order syms[1]
    else types
  let body := if present &&& 0x10 ≠ 0 then
      let counted := body.takeD (body.length + keysyms.length) 0
      counted.takeD (paddedLen counted.length) 0
    else body
  if present &&& 4 ≠ 0 then
    let mapped := body ++ modifierMap.flatMap fun entry => [entry.1, entry.2]
    mapped.takeD (paddedLen mapped.length) 0
  else body

-- A body too long for its length field stops the program.
def encodeXkbMap (sequence : UInt16) (present : UInt16) (keysyms : List (Vector UInt32 2))
    (modifierMap : List (UInt8 × UInt8)) : Option (List UInt8) :=
  let types := decide (present &&& 1 ≠ 0)
  let syms := decide (present &&& 2 ≠ 0)
  let actions := decide (present &&& 0x10 ≠ 0)
  let modmap := decide (present &&& 4 ≠ 0)
  let body := xkbMapBody order present keysyms modifierMap
  let replyUnits := (8 + body.length) / 4
  if replyUnits < UInt32.size then
    (reply order sequence (.ofNat replyUnits) 40
      [putU8 1 3, putU8 10 8, putU8 11 255, putU16 order 12 present, putU8 14 0,
        putU8 15 (if types then 4 else 0), putU8 16 (if types then 4 else 0), putU8 17 8,
        putU16 order 18 (if syms then tryU16 (keysyms.length * 2 : ℕ) 0xffff else 0),
        putU8 20 (if syms then tryU8 keysyms.length 255 else 0),
        putU8 21 (if actions then 8 else 0),
        putU8 24 (if actions then tryU8 keysyms.length 255 else 0),
        putU8 25 (if present &&& 0x20 ≠ 0 then 8 else 0),
        putU8 28 (if present &&& 8 ≠ 0 then 8 else 0), putU8 31 (if modmap then 8 else 0),
        putU8 32 (if modmap then 248 else 0),
        putU8 33 (if modmap then tryU8 modifierMap.length 255 else 0),
        putU8 34 (if present &&& 0x80 ≠ 0 then 8 else 0)]).map (· ++ body)
  else none

def xkbNamesBody (which : UInt32) (componentAtoms typeAtoms : List UInt32)
    (keyNames : List (Vector UInt8 4)) : List UInt8 :=
  let components := componentAtoms.flatMap (pushU32 order)
  let types := if which &&& 0x40 ≠ 0 then components ++ typeAtoms.flatMap (pushU32 order)
    else components
  let levels := if which &&& 0x80 ≠ 0 then
      let counted := types ++ List.replicate typeAtoms.length 2
      counted.takeD (paddedLen counted.length) 0 ++
        (List.replicate (typeAtoms.length * 2) (pushU32 order 0)).flatten
    else types
  if which &&& 0x200 ≠ 0 then levels ++ keyNames.flatMap Vector.toList else levels

/-- A class of a device; counting the words of too many buttons overflows. -/
def xiClassBytes : XXiDeviceClass → Option (List UInt8)
  | .key sourceId keys =>
    some (pushU16 order 0 ++ pushU16 order (tryU16 (2 + keys.length) 0xffff) ++
      pushU16 order sourceId ++ pushU16 order (tryU16 keys.length 0) ++
      keys.flatMap (pushU32 order))
  | .button sourceId buttonCount =>
    if 3 + buttonCount.toNat < UInt16.size then
      some (pushU16 order 1 ++ pushU16 order (3 + buttonCount) ++ pushU16 order sourceId ++
        pushU16 order buttonCount ++ pushU32 order 0 ++
        (List.replicate buttonCount.toNat (pushU32 order 0)).flatten)
    else none
  | .valuator sourceId number min max =>
    some (pushU16 order 2 ++ pushU16 order 11 ++ pushU16 order sourceId ++ pushU16 order number ++
      pushU32 order 0 ++ pushI64 order min ++ pushI64 order max ++ pushI64 order 0 ++
      pushU32 order 1 ++ [0, 0, 0, 0])

/-- The next device behind the ones before it. -/
def xiPushDevice (body : List UInt8) (device : XXiDeviceInfo) : Option (List UInt8) := do
  let named := body ++ pushU16 order device.deviceId ++ pushU16 order device.deviceType ++
    pushU16 order device.attachment ++ pushU16 order (tryU16 device.classes.length 0) ++
    pushU16 order (tryU16 device.name.utf8ByteSize 0) ++ [1, 0] ++ Codec.utf8Bytes device.name
  let classes ← device.classes.mapM (xiClassBytes order)
  return named.takeD (paddedLen named.length) 0 ++ classes.flatten

def encodeXClientReply (r : XClientReply) : Option (List UInt8) :=
  let sequence := r.sequence
  match r.content with
  | .grabStatus status => reply order sequence 0 32 [putU8 1 status]
  | .internAtom atom => reply order sequence 0 32 [putU32 order 8 atom]
  | .getAtomName name =>
    let paddedNameLen := paddedLen name.utf8ByteSize
    reply order sequence (tryU32 (paddedNameLen / 4 : ℕ) 0) (32 + paddedNameLen)
      [putU16 order 8 (tryU16 name.utf8ByteSize 0), ⟨32, Codec.utf8Bytes name⟩]
  | .getGeometry depth root geometry borderWidth =>
    reply order sequence 0 32
      [putU8 1 depth, putResource order 8 root, putI16 order 12 (tryI16 geometry.x.toInt 0),
        putI16 order 14 (tryI16 geometry.y.toInt 0),
        putU16 order 16 (tryU16 geometry.width.toInt 0),
        putU16 order 18 (tryU16 geometry.height.toInt 0), putU16 order 20 borderWidth]
  | .getImage depth visual data =>
    reply order sequence (tryU32 (paddedLen data.length / 4 : ℕ) 0xffffffff)
      (32 + paddedLen data.length) [putU8 1 depth, putU32 order 8 visual, ⟨32, data⟩]
  | .queryTree root parent children =>
    let childrenLen := children.length * 4
    reply order sequence (tryU32 (childrenLen / 4 : ℕ) 0) (32 + childrenLen)
      ([putResource order 8 root, putResource order 12 parent,
        putU16 order 16 (tryU16 children.length 0)] ++ putIds order 32 (children.map rawXid))
  | .getWindowAttributes visual colormap mapState overrideRedirect =>
    reply order sequence 3 (32 + 12)
      [putU8 1 0, putU32 order 8 visual, putU16 order 12 1, putU8 14 0, putU8 15 1,
        putU32 order 16 0, putU32 order 20 0, putU8 24 0, putU8 25 1, putU8 26 mapState,
        putU8 27 overrideRedirect.toUInt8, putResource order 28 colormap]
  | .queryExtension present majorOpcode firstEvent firstError =>
    reply order sequence 0 32
      [putU8 8 present.toUInt8, putU8 9 majorOpcode, putU8 10 firstEvent, putU8 11 firstError]
  | .listExtensions => reply order sequence 0 32 [putU8 1 0]
  | .listFonts names =>
    let paddedNamesLen := paddedLen (names.map fun name => 1 + name.utf8ByteSize).sum
    reply order sequence (tryU32 (paddedNamesLen / 4 : ℕ) 0) (32 + paddedNamesLen)
      (putU16 order 8 (tryU16 names.length 0) :: putFontNames names)
  | .listFontsWithInfo names => do
    let infos ← names.mapM fun name =>
      encodeFontInfoReply order sequence 8 2 (some (Codec.utf8Bytes name))
    let last ← encodeFontInfoReply order sequence 0 0 none
    return infos.flatten ++ last
  | .queryBestSize width height =>
    reply order sequence 0 32 [putU16 order 8 width, putU16 order 10 height]
  | .shmQueryVersion majorVersion minorVersion sharedPixmaps pixmapFormat =>
    reply order sequence 0 32
      [putU8 1 sharedPixmaps.toUInt8, putU16 order 8 majorVersion, putU16 order 10 minorVersion,
        putU8 16 pixmapFormat]
  | .dri3QueryVersion majorVersion minorVersion
  | .xfixesQueryVersion majorVersion minorVersion
  | .presentQueryVersion majorVersion minorVersion =>
    reply order sequence 0 32 [putU32 order 8 majorVersion, putU32 order 12 minorVersion]
  | .dri3Open => reply order sequence 0 32 [putU8 1 1]
  | .dri3GetSupportedModifiers windowModifiers screenModifiers =>
    let modifierCount := windowModifiers.length + screenModifiers.length
    reply order sequence (tryU32 (modifierCount * 2 : ℕ) 0xffffffff) (32 + modifierCount * 8)
      ([putU32 order 8 (tryU32 windowModifiers.length 0xffffffff),
        putU32 order 12 (tryU32 screenModifiers.length 0xffffffff)] ++
        putModifiers order (windowModifiers ++ screenModifiers))
  | .presentQueryCapabilities capabilities =>
    reply order sequence 0 32 [putU32 order 8 capabilities]
  | .randrQueryVersion majorVersion minorVersion =>
    reply order sequence 0 32 [putU32 order 8 majorVersion, putU32 order 12 minorVersion]
  | .randrGetScreenSizeRange minWidth minHeight maxWidth maxHeight =>
    reply order sequence 0 32
      [putU16 order 8 minWidth, putU16 order 10 minHeight, putU16 order 12 maxWidth,
        putU16 order 14 maxHeight]
  | .randrGetCrtcGammaSize size => reply order sequence 0 32 [putU16 order 8 size]
  | .randrGetScreenResources timestamp crtcs outputs modes =>
    let namesLen := (modes.map fun mode => mode.name.length).sum
    let paddedPayloadLen :=
      paddedLen (crtcs.length * 4 + outputs.length * 4 + modes.length * 32 + namesLen)
    reply order sequence (tryU32 (paddedPayloadLen / 4 : ℕ) 0xffffffff) (32 + paddedPayloadLen)
      ([putU32 order 8 timestamp, putU32 order 12 timestamp, putU16 order 16 (.ofNat crtcs.length),
        putU16 order 18 (.ofNat outputs.length), putU16 order 20 (.ofNat modes.length),
        putU16 order 22 (.ofNat namesLen)] ++ putScreenResources order (crtcs ++ outputs) modes)
  | .randrGetOutputInfo timestamp crtc mmWidth mmHeight crtcs modes name =>
    encodeOutputInfo order sequence timestamp crtc mmWidth mmHeight crtcs modes name
  | .randrGetOutputProperty propertyType bytesAfter format data =>
    let itemWidth := format.toNat / 8
    let items := if itemWidth = 0 then 0 else data.length / itemWidth
    reply order sequence (.ofNat (paddedLen data.length / 4)) (32 + paddedLen data.length)
      [putU8 1 format, putU32 order 8 propertyType, putU32 order 12 bytesAfter,
        putU32 order 16 (tryU32 items 0xffffffff), ⟨32, data⟩]
  | .randrGetCrtcInfo timestamp x y width height mode outputs =>
    let payloadLen := outputs.length * 8
    reply order sequence (.ofNat (payloadLen / 4)) (32 + payloadLen)
      ([putU8 1 0, putU32 order 8 timestamp, putI16 order 12 x, putI16 order 14 y,
        putU16 order 16 width, putU16 order 18 height, putU32 order 20 mode, putU16 order 24 1,
        putU16 order 26 1, putU16 order 28 (.ofNat outputs.length),
        putU16 order 30 (.ofNat outputs.length)] ++ putIds order 32 (outputs ++ outputs))
  | .randrGetOutputPrimary output => reply order sequence 0 32 [putU32 order 8 output]
  | .randrGetProviders timestamp =>
    reply order sequence 0 32 [putU32 order 8 timestamp, putU16 order 12 0]
  | .randrGetMonitors timestamp monitors => do
    let payloadLen := (monitors.map fun monitor => 24 + monitor.outputs.length * 4).sum
    let outputs ← sumU32 (monitors.map fun monitor => .ofNat monitor.outputs.length)
    reply order sequence (.ofNat (payloadLen / 4)) (32 + payloadLen)
      ([putU32 order 8 timestamp, putU32 order 12 (.ofNat monitors.length),
        putU32 order 16 outputs] ++
        Layout.each (fun monitor => 24 + monitor.outputs.length * 4) (putMonitor order) 32 monitors)
  | .xkbUseExtension supported serverMajor serverMinor =>
    reply order sequence 0 32
      [putU8 1 supported.toUInt8, putU16 order 8 serverMajor, putU16 order 10 serverMinor]
  | .glxQueryVersion majorVersion minorVersion =>
    reply order sequence 0 32 [putU32 order 8 majorVersion, putU32 order 12 minorVersion]
  | .glxString value =>
    let bytes := Codec.utf8Bytes value ++ [0]
    let padded := paddedLen bytes.length
    reply order sequence (tryU32 (padded / 4 : ℕ) 0xffffffff) (32 + padded)
      [putU32 order 12 (tryU32 bytes.length 0xffffffff), ⟨32, bytes⟩]
  | .glxVisualConfigs configs =>
    let bodyLen := configs.length * 18 * 4
    reply order sequence (.ofNat (bodyLen / 4)) (32 + bodyLen)
      ([putU32 order 8 (.ofNat configs.length), putU32 order 12 18] ++
        putIds order 32 (configs.flatMap Vector.toList))
  | .glxFbConfigs configs =>
    let attributes := (configs.head?.map List.length).getD 0
    let bodyLen := configs.length * attributes * 8
    reply order sequence (.ofNat (bodyLen / 4)) (32 + bodyLen)
      ([putU32 order 8 (.ofNat configs.length), putU32 order 12 (.ofNat attributes)] ++
        putPairs order 32 configs.flatten)
  | .glxIsDirect direct => reply order sequence 0 32 [putU8 8 direct.toUInt8]
  | .glxDrawableAttributes attributes =>
    let bodyLen := attributes.length * 8
    reply order sequence (.ofNat (bodyLen / 4)) (32 + bodyLen)
      (putU32 order 8 (.ofNat attributes.length) :: putPairs order 32 attributes)
  | .syncInitialize majorVersion minorVersion =>
    reply order sequence 0 32 [putU8 8 majorVersion, putU8 9 minorVersion]
  | .xkbGetMap present keysyms modifierMap =>
    encodeXkbMap order sequence present keysyms modifierMap
  | .xkbGetCompatMap deviceId => reply order sequence 0 32 [putU8 1 deviceId]
  | .xkbGetIndicatorMap deviceId => reply order sequence 0 32 [putU8 1 deviceId]
  | .xkbGetState modifiers =>
    reply order sequence 0 32
      [putU8 1 3, putU8 8 modifiers, putU8 9 modifiers, putU8 18 modifiers, putU8 20 modifiers]
  | .xkbGetControls =>
    reply order sequence 15 92 [putU8 1 3, putU8 9 1, putU16 order 20 660, putU16 order 22 40]
  | .xkbGetNames which minKeycode maxKeycode componentAtoms typeAtoms keyNames =>
    let body := xkbNamesBody order which componentAtoms typeAtoms keyNames
    (reply order sequence (tryU32 (body.length / 4 : ℕ) 0xffffffff) 32
      [putU8 1 3, putU32 order 8 which, putU8 12 minKeycode, putU8 13 maxKeycode,
        putU8 14 (tryU8 typeAtoms.length 255), putU8 18 minKeycode,
        putU8 19 (tryU8 keyNames.length 255)]).map (· ++ body)
  | .xkbGetDeviceInfo deviceId supported unsupported =>
    reply order sequence 1 36
      [putU8 1 deviceId, putU16 order 10 supported, putU16 order 12 unsupported, putU8 21 1]
  | .xkbPerClientFlags supported value =>
    reply order sequence 0 32 [putU8 1 3, putU32 order 8 supported, putU32 order 12 value]
  | .xiQueryVersion majorVersion minorVersion =>
    reply order sequence 0 32
      [putU8 1 47, putU16 order 8 majorVersion, putU16 order 10 minorVersion]
  | .geQueryVersion majorVersion minorVersion =>
    reply order sequence 0 32 [putU16 order 8 majorVersion, putU16 order 10 minorVersion]
  | .xiGetClientPointer deviceId =>
    reply order sequence 0 32 [putU8 8 1, putU16 order 10 deviceId]
  | .xiGetExtensionVersion serverMajor serverMinor =>
    reply order sequence 0 32
      [putU8 1 1, putU16 order 8 serverMajor, putU16 order 10 serverMinor, putU8 12 1]
  | .xiQueryDevice devices => do
    let body ← devices.foldlM (xiPushDevice order) []
    let out ← reply order sequence (tryU32 (body.length / 4 : ℕ) 0) 32
      [putU8 1 48, putU16 order 8 (tryU16 devices.length 0)]
    return out ++ body
  | .xiQueryPointer root child =>
    reply order sequence 6 56 [putResource order 8 root, putResource order 12 child, putU8 32 1]
  | .xiGetFocus focus => reply order sequence 0 32 [putU8 1 50, putResource order 8 focus]
  | .xiGetProperty => reply order sequence 0 32 [putU8 1 59]
  | .bigRequestsEnable maximumRequestLength =>
    reply order sequence 0 32 [putU32 order 8 maximumRequestLength]
  | .getInputFocus focus revertTo =>
    reply order sequence 0 32 [putU8 1 revertTo, putResource order 8 focus]
  | .queryPointer root child rootX rootY winX winY mask =>
    reply order sequence 0 32
      [putU8 1 1, putResource order 8 root, putResource order 12 child, putI16 order 16 rootX,
        putI16 order 18 rootY, putI16 order 20 winX, putI16 order 22 winY, putU16 order 24 mask]
  | .getModifierMapping keycodesPerModifier keycodes =>
    reply order sequence (tryU32 (paddedLen keycodes.length / 4 : ℕ) 0)
      (32 + paddedLen keycodes.length) [putU8 1 keycodesPerModifier, ⟨32, keycodes⟩]
  | .getKeyboardMapping keysymsPerKeycode keysyms =>
    let keysymsLen := keysyms.length * 4
    reply order sequence (tryU32 (keysymsLen / 4 : ℕ) 0) (32 + keysymsLen)
      (putU8 1 keysymsPerKeycode :: putIds order 32 keysyms)
  | .getKeyboardControl =>
    reply order sequence 5 52
      [putU8 1 1, putU8 13 50, putU16 order 14 400, putU16 order 16 100,
        ⟨20, List.replicate 32 0xff⟩]
  | .translateCoordinates sameScreen child dstX dstY =>
    reply order sequence 0 32
      [putU8 1 sameScreen.toUInt8, putResource order 8 (child.getD xResourceNone),
        putI16 order 12 dstX, putI16 order 14 dstY]
  | .queryFont fontAscent fontDescent =>
    encodeFontInfoReply order sequence fontAscent fontDescent none
  | .getProperty propertyType format bytesAfter itemCount bytes =>
    reply order sequence (tryU32 (paddedLen bytes.length / 4 : ℕ) 0)
      (32 + paddedLen bytes.length)
      [putU8 1 format, putU32 order 8 propertyType, putU32 order 12 bytesAfter,
        putU32 order 16 itemCount, ⟨32, bytes⟩]
  | .getSelectionOwner owner =>
    reply order sequence 0 32 [putU32 order 8 ((owner.map rawXid).getD 0)]
  | .allocNamedColor pixel red green blue =>
    reply order sequence 0 32
      [putU32 order 8 pixel, putU16 order 12 red, putU16 order 14 green, putU16 order 16 blue,
        putU16 order 18 red, putU16 order 20 green, putU16 order 22 blue]
  | .allocColor pixel red green blue =>
    reply order sequence 0 32
      [putU16 order 8 red, putU16 order 10 green, putU16 order 12 blue, putU32 order 16 pixel]
  | .listProperties atoms =>
    reply order sequence (tryU32 atoms.length 0) (32 + atoms.length * 4)
      (putU16 order 8 (tryU16 atoms.length 0) :: putIds order 32 atoms)
  | .queryColors pixels =>
    let colorsLen := pixels.length * 8
    reply order sequence (tryU32 (colorsLen / 4 : ℕ) 0) (32 + colorsLen)
      (putU16 order 8 (tryU16 pixels.length 0) :: putColors order pixels)

/-- The bytes of an output, or nothing where the program stops. -/
def encodeXClientOutput : XClientOutput → Option (List UInt8)
  | .error e => encodeXClientError order e
  | .event e => encodeXClientEvent order e
  | .reply r => encodeXClientReply order r

end Encoding

section SendEvent

def xSendEvent : UInt8 := 25
def xSendEventReqLen : ℕ := 44

/-- What a client sends to a window. -/
structure SendSelectionNotify where
  destination : XResourceId
  eventMask : UInt32
  event : XClientEvent

def decodeSendEvent (context : XWireClientContext) (bytes : List UInt8) :
    Except XWireParseError SendSelectionNotify := do
  requireExactLen bytes xSendEvent xSendEventReqLen
  let eventType := bytes.getD 12 0 &&& 0x7f
  if eventType < 9 then throw (.invalidEventType eventType)
  let content := if eventType ≠ 31 then
      XClientEventContent.clientMessage (Vector.ofFn fun i => bytes.getD (12 + i) 0)
    else .selectionNotify (context.u32 bytes 16) (context.resource bytes 20)
      (context.u32 bytes 24) (context.u32 bytes 28) (context.u32 bytes 32)
  return ⟨context.resource bytes 4, context.u32 bytes 8, ⟨0, content⟩⟩

end SendEvent

end Sophia.Frontend
