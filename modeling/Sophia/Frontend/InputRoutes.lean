import Sophia.Authority.InputAuthority
import Sophia.Frontend.Routes
import Mathlib.Algebra.Order.Floor.Defs
import Mathlib.Data.Rat.Floor

/-! From an Engine-routed input to the client queue, the frozen queue or a rejection. -/
namespace Sophia.Frontend

open Std Sophia.Protocol Sophia.Authority

inductive InputEventKind where
  | pointerMotion
  | pointerButton (button : UInt32) (pressed : Bool)
  | key (keycode : UInt32) (pressed : Bool)
  deriving DecidableEq, Repr

structure RoutedInputRequest where
  serial : UInt64
  seat : SeatId
  device : DeviceId
  timeMsec : UInt64
  targetSurface : SurfaceId
  globalPosition : Point
  localPosition : Point
  kind : InputEventKind
  deriving DecidableEq, Repr

structure XAuthorityInputDeliveryId where
  raw : UInt64
  deriving DecidableEq, Repr

inductive XAuthorityInputDeliveryOutcome where
  | flushed
  | routeRejected
  | writeFailed
  deriving DecidableEq, Repr

structure XAuthorityClientInputDelivery where
  client : XServerFrontendClientId
  delivery : XAuthorityInputDeliveryId
  outcome : XAuthorityInputDeliveryOutcome
  deriving DecidableEq, Repr

structure XAuthorityRoutedInput where
  request : RoutedInputRequest
  delivery : Option XAuthorityInputDeliveryId
  deriving DecidableEq, Repr

structure XAuthorityKeyEvent where
  keycode : UInt8
  pressed : Bool
  state : UInt16
  timeMsec : UInt32
  deriving DecidableEq, Repr

inductive XAuthorityPointerEventKind where
  | motion
  | button (button : UInt8) (pressed : Bool)
  deriving DecidableEq, Repr

structure XAuthorityPointerEvent where
  kind : XAuthorityPointerEventKind
  surface : SurfaceId
  rootX : Int
  rootY : Int
  eventX : Int
  eventY : Int
  state : UInt16
  timeMsec : UInt32
  deriving DecidableEq, Repr

inductive XAuthorityInputEvent where
  | key (event : XAuthorityKeyEvent)
  | pointer (event : XAuthorityPointerEvent)
  deriving DecidableEq, Repr

structure XAuthorityClientInputEvent where
  client : XServerFrontendClientId
  event : XAuthorityInputEvent
  targetWindow : Option XResourceId
  xiEventType : Option UInt16
  xiTransitionMask : UInt16
  delivery : Option XAuthorityInputDeliveryId
  deriving DecidableEq, Repr

/-- Control commands are routed by client; what they say does not matter here. -/
structure XAuthorityClientControlCommand where
  client : XServerFrontendClientId
  transaction : TransactionId
  surface : SurfaceId
  deriving DecidableEq, Repr

/-- The keyboard library, as the worker thread drives it. -/
structure XkbKeymap (κ : Type) where
  initial : κ
  modifierMask : κ → UInt16
  updateKey : κ → UInt8 → Bool → κ

namespace XkbKeymap

variable {κ : Type}

def mapEvdevKey (keymap : XkbKeymap κ) (state : κ) (evdevKeycode : UInt32) (pressed : Bool) :
    Option (UInt8 × UInt16) × κ :=
  if evdevKeycode.toNat + 8 < UInt8.size then
    let keycode := UInt8.ofNat (evdevKeycode.toNat + 8)
    (some (keycode, keymap.modifierMask state), keymap.updateKey state keycode pressed)
  else (none, state)

end XkbKeymap

structure XCorePointerMapper where
  buttonState : UInt16
  deriving DecidableEq, Repr

namespace XCorePointerMapper

def new : XCorePointerMapper := ⟨0⟩

def buttonMask (evdevButton : UInt32) : Option (UInt8 × UInt16) :=
  if evdevButton = 272 then some (1, 256)
  else if evdevButton = 274 then some (2, 512)
  else if evdevButton = 273 then some (3, 1024)
  else if evdevButton = 275 then some (8, 0)
  else if evdevButton = 276 then some (9, 0)
  else none

def mapEvdevButton (mapper : XCorePointerMapper) (evdevButton : UInt32) (pressed : Bool) :
    Option (UInt8 × UInt16) × XCorePointerMapper :=
  match buttonMask evdevButton with
  | none => (none, mapper)
  | some (button, mask) =>
    (some (button, mapper.buttonState),
      ⟨if pressed then mapper.buttonState ||| mask else mapper.buttonState &&& ~~~mask⟩)

end XCorePointerMapper

/-- Coordinates are finite here; they are rounded down and clamped to 16 bits. -/
def clampInputCoordinate (value : ℚ) : ℤ := max (-32768) (min 32767 ⌊value⌋)

def u32TryFrom (value : UInt64) : UInt32 :=
  if value.toNat < UInt32.size then value.toUInt32 else UInt32.ofNat (UInt32.size - 1)

structure ClientInputRoute where
  input : RouteQueue XAuthorityClientInputEvent
  control : RouteQueue XAuthorityClientControlCommand

structure XDeferredRoutedInput where
  client : XServerFrontendClientId
  route : XAuthorityRoutedInput
  deriving DecidableEq, Repr

/-- The tables of the route registry that input goes through. -/
structure InputRoutes (κ : Type) where
  clients : ExtTreeMap XServerFrontendClientId ClientInputRoute
  surfaces : ExtTreeMap SurfaceId XServerFrontendSurfaceRoute
  pointerState : ExtTreeMap SeatId XCorePointerMapper
  inputAuthority : XInputAuthorityState
  frozenInput : List XDeferredRoutedInput
  keyboards : ExtTreeMap SeatId κ
  /-- The acknowledgement queue of the Engine, where it supplied one, with its bound. -/
  inputDelivery : Option (RouteQueue XAuthorityClientInputDelivery)
  inputDeliveryCapacity : ℕ
  /-- Every acknowledgement the broker has put into that queue. -/
  deliveries : List XAuthorityClientInputDelivery
  perClientQueueCapacity : ℕ

/-- What became of a routed input that met no error. -/
inductive InputDisposition where
  | forwarded (event : XAuthorityClientInputEvent)
  | deferred
  | rejected
  deriving DecidableEq, Repr

/-- An input after grabs and device mapping; without an event its key or button is unmapped. -/
structure PreparedInput where
  client : XServerFrontendClientId
  window : XResourceId
  event : Option XAuthorityInputEvent
  deriving DecidableEq, Repr

namespace InputRoutes

variable {κ : Type}

def sendInputDelivery (routes : InputRoutes κ) (client : XServerFrontendClientId)
    (delivery : Option XAuthorityInputDeliveryId) (outcome : XAuthorityInputDeliveryOutcome) :
    Except XServerFrontendRouteError Unit × InputRoutes κ :=
  match delivery, routes.inputDelivery with
  | some delivery, some queue =>
    let acknowledgement := ⟨client, delivery, outcome⟩
    match queue.trySend routes.inputDeliveryCapacity acknowledgement with
    | (.sent, queue) => (.ok (), { routes with
        inputDelivery := some queue
        deliveries := routes.deliveries ++ [acknowledgement] })
    | (.full, _) => (.error .inputDeliveryQueueFull, routes)
    | (.disconnected, _) => (.ok (), routes)
  | _, _ => (.ok (), routes)

def routeInput (routes : InputRoutes κ) (route : XAuthorityClientInputEvent) :
    Except XServerFrontendRouteError Unit × InputRoutes κ :=
  match routes.clients[route.client]? with
  | none => (.error (.unknownClient route.client), routes)
  | some senders => match senders.input.trySend routes.perClientQueueCapacity route with
    | (.sent, input) =>
      (.ok (), { routes with clients := routes.clients.insert route.client { senders with input } })
    | (.full, _) => (.error (.clientQueueFull route.client), routes)
    | (.disconnected, _) => (.error (.clientQueueDisconnected route.client),
        { routes with clients := routes.clients.erase route.client })

def routeControl (routes : InputRoutes κ) (route : XAuthorityClientControlCommand) :
    Except XServerFrontendRouteError Unit × InputRoutes κ :=
  match routes.clients[route.client]? with
  | none => (.error (.unknownClient route.client), routes)
  | some senders => match senders.control.trySend routes.perClientQueueCapacity route with
    | (.sent, control) => (.ok (),
        { routes with clients := routes.clients.insert route.client { senders with control } })
    | (.full, _) => (.error (.clientQueueFull route.client), routes)
    | (.disconnected, _) => (.error (.clientQueueDisconnected route.client),
        { routes with clients := routes.clients.erase route.client })

def routeIsFrozen (routes : InputRoutes κ) (route : XAuthorityRoutedInput) (ns : NamespaceId) :
    Bool :=
  match route.request.kind with
  | .key _ _ => routes.inputAuthority.keyboardFrozen ns
  | _ => routes.inputAuthority.pointerFrozen ns

/-- The client and window a grab sends an input of this surface to. -/
def grabTarget (surfaceRoute : XServerFrontendSurfaceRoute) (grab : XActiveInputGrab) :
    XServerFrontendClientId × XResourceId :=
  (⟨grab.owner⟩,
    if grab.ownerEvents && (⟨grab.owner⟩ : XServerFrontendClientId) == surfaceRoute.client then
      surfaceRoute.window
    else grab.window)

def target (surfaceRoute : XServerFrontendSurfaceRoute) (grab : Option XActiveInputGrab)
    (otherwise : XServerFrontendClientId × XResourceId) : XServerFrontendClientId × XResourceId :=
  (grab.map (grabTarget surfaceRoute)).getD otherwise

def pointer (routes : InputRoutes κ) (seat : SeatId) : XCorePointerMapper :=
  (routes.pointerState[seat]?).getD .new

def keyboard (routes : InputRoutes κ) (keymap : XkbKeymap κ) (seat : SeatId) : κ :=
  (routes.keyboards[seat]?).getD keymap.initial

/-- What the devices and the grab state of a namespace are left as by an input. -/
def setDevices (routes : InputRoutes κ) (seat : SeatId) (pointer : XCorePointerMapper)
    (keyboard : κ) (inputAuthority : XInputAuthorityState) : InputRoutes κ :=
  { routes with
    pointerState := routes.pointerState.insert seat pointer
    keyboards := routes.keyboards.insert seat keyboard
    inputAuthority }

def prepareKey (routes : InputRoutes κ) (keymap : XkbKeymap κ)
    (surfaceRoute : XServerFrontendSurfaceRoute) (request : RoutedInputRequest) (keycode : UInt32)
    (pressed : Bool) : PreparedInput × InputRoutes κ :=
  let ns := surfaceRoute.namespaceId
  let authority := routes.inputAuthority
  let pointer := routes.pointer request.seat
  let active := target surfaceRoute (authority.keyboardGrab ns)
    (surfaceRoute.client, surfaceRoute.window)
  match keymap.mapEvdevKey (routes.keyboard keymap request.seat) keycode pressed with
  | (none, keyboard) =>
    (⟨active.1, active.2, none⟩, routes.setDevices request.seat pointer keyboard authority)
  | (some (keycode, state), keyboard) =>
    let (passive, authority) :=
      if pressed then authority.activateKey ns keycode (state &&& 0xff) else (none, authority)
    let active := target surfaceRoute passive active
    let authority := if pressed then authority else authority.releaseKey ns keycode
    (⟨active.1, active.2, some (.key ⟨keycode, pressed, state ||| pointer.buttonState,
        u32TryFrom request.timeMsec⟩)⟩,
      routes.setDevices request.seat pointer keyboard authority)

def pointerEvent (request : RoutedInputRequest) (kind : XAuthorityPointerEventKind)
    (state : UInt16) : XAuthorityInputEvent :=
  .pointer {
    kind
    surface := request.targetSurface
    rootX := clampInputCoordinate request.globalPosition.x
    rootY := clampInputCoordinate request.globalPosition.y
    eventX := clampInputCoordinate request.localPosition.x
    eventY := clampInputCoordinate request.localPosition.y
    state
    timeMsec := u32TryFrom request.timeMsec }

def prepareMotion (routes : InputRoutes κ) (keymap : XkbKeymap κ)
    (surfaceRoute : XServerFrontendSurfaceRoute) (request : RoutedInputRequest) :
    PreparedInput × InputRoutes κ :=
  let pointer := routes.pointer request.seat
  let keyboard := routes.keyboard keymap request.seat
  let active := target surfaceRoute (routes.inputAuthority.pointerGrab surfaceRoute.namespaceId)
    (surfaceRoute.client, surfaceRoute.window)
  (⟨active.1, active.2,
      some (pointerEvent request .motion (keymap.modifierMask keyboard ||| pointer.buttonState))⟩,
    routes.setDevices request.seat pointer keyboard routes.inputAuthority)

/-- The grab a button press makes when no passive grab matches it. -/
def implicitGrab (surfaceRoute : XServerFrontendSurfaceRoute) : XActiveInputGrab where
  owner := surfaceRoute.client.raw
  window := surfaceRoute.window
  ownerEvents := true
  pointerMode := 1
  keyboardMode := 1
  eventMask := UInt16.ofNat (UInt16.size - 1)

def prepareButton (routes : InputRoutes κ) (keymap : XkbKeymap κ)
    (surfaceRoute : XServerFrontendSurfaceRoute) (request : RoutedInputRequest) (button : UInt32)
    (pressed : Bool) : PreparedInput × InputRoutes κ :=
  let ns := surfaceRoute.namespaceId
  let authority := routes.inputAuthority
  let keyboard := routes.keyboard keymap request.seat
  let active := target surfaceRoute (authority.pointerGrab ns)
    (surfaceRoute.client, surfaceRoute.window)
  match (routes.pointer request.seat).mapEvdevButton button pressed with
  | (none, pointer) =>
    (⟨active.1, active.2, none⟩,
      { routes with pointerState := routes.pointerState.insert request.seat pointer })
  | (some (button, state), pointer) =>
    let (active, authority) :=
      if pressed then
        let (grab, authority) :=
          authority.activateButton ns button (state &&& 0xff) (implicitGrab surfaceRoute)
        (grabTarget surfaceRoute grab, authority)
      else (active, authority.releaseButton ns button)
    (⟨active.1, active.2, some (pointerEvent request (.button button pressed)
        (keymap.modifierMask keyboard ||| state))⟩,
      routes.setDevices request.seat pointer keyboard authority)

def prepare (routes : InputRoutes κ) (keymap : XkbKeymap κ)
    (surfaceRoute : XServerFrontendSurfaceRoute) (request : RoutedInputRequest) :
    PreparedInput × InputRoutes κ :=
  match request.kind with
  | .key keycode pressed => routes.prepareKey keymap surfaceRoute request keycode pressed
  | .pointerMotion => routes.prepareMotion keymap surfaceRoute request
  | .pointerButton button pressed => routes.prepareButton keymap surfaceRoute request button pressed

/-- The XI device and event type of a core event. -/
def xiEvent : XAuthorityInputEvent → UInt16 × UInt16
  | .key event => (3, if event.pressed then 2 else 3)
  | .pointer event => match event.kind with
    | .button _ pressed => (2, if pressed then 4 else 5)
    | .motion => (2, 6)

/-- Adds the XI selections of the receiving client to the event. -/
def clientEvent (routes : InputRoutes κ) (ns : NamespaceId) (prepared : PreparedInput)
    (event : XAuthorityInputEvent) (delivery : Option XAuthorityInputDeliveryId) :
    XAuthorityClientInputEvent :=
  let (xiDevice, selectedType) := xiEvent event
  let selected := routes.inputAuthority.xiEventSelected ns prepared.client.raw prepared.window xiDevice
  let transitionTypes : List UInt16 := if xiDevice = 3 then [9, 10] else [7, 8]
  { client := prepared.client
    event
    targetWindow := some prepared.window
    xiEventType := if selected selectedType then some selectedType else none
    xiTransitionMask := transitionTypes.foldl
      (fun mask eventType => if selected eventType then mask ||| 1 <<< eventType else mask) 0
    delivery }

/-- The frozen branch of `route_engine_input`. -/
def deferInput (routes : InputRoutes κ) (surfaceRoute : XServerFrontendSurfaceRoute)
    (route : XAuthorityRoutedInput) :
    Except XServerFrontendRouteError InputDisposition × InputRoutes κ :=
  if routes.perClientQueueCapacity ≤ routes.frozenInput.length then
    match routes.sendInputDelivery surfaceRoute.client route.delivery .routeRejected with
    | (.ok _, routes) => (.error (.clientQueueFull surfaceRoute.client), routes)
    | (.error error, routes) => (.error error, routes)
  else (.ok .deferred,
    { routes with frozenInput := routes.frozenInput ++ [⟨surfaceRoute.client, route⟩] })

/-- The rest of `route_engine_input`, for an input that is not frozen. -/
def forwardInput (routes : InputRoutes κ) (keymap : XkbKeymap κ)
    (surfaceRoute : XServerFrontendSurfaceRoute) (route : XAuthorityRoutedInput) :
    Except XServerFrontendRouteError InputDisposition × InputRoutes κ :=
  match routes.prepare keymap surfaceRoute route.request with
  | (prepared, routes) => match prepared.event with
    | none => match routes.sendInputDelivery prepared.client route.delivery .routeRejected with
      | (.ok _, routes) => (.ok .rejected, routes)
      | (.error error, routes) => (.error error, routes)
    | some event =>
      let event := routes.clientEvent surfaceRoute.namespaceId prepared event route.delivery
      match routes.routeInput event with
      | (.ok _, routes) => (.ok (.forwarded event), routes)
      | (.error error, routes) => (.error error, routes)

def routeEngineInput (routes : InputRoutes κ) (keymap : XkbKeymap κ)
    (route : XAuthorityRoutedInput) :
    Except XServerFrontendRouteError InputDisposition × InputRoutes κ :=
  match routes.surfaces[route.request.targetSurface]? with
  | none => (.error (.unknownSurface route.request.targetSurface), routes)
  | some surfaceRoute =>
    if routes.routeIsFrozen route surfaceRoute.namespaceId then routes.deferInput surfaceRoute route
    else routes.forwardInput keymap surfaceRoute route

def registerClient (routes : InputRoutes κ) (client : XServerFrontendClientId) :
    Except XServerFrontendRouteError (InputRoutes κ) :=
  if (routes.clients[client]?).isSome then .error (.duplicateClient client)
  else .ok { routes with clients := routes.clients.insert client ⟨.empty, .empty⟩ }

def registerSurface (routes : InputRoutes κ) (client : XServerFrontendClientId) (ns : NamespaceId)
    (surface : SurfaceId) (window : XResourceId) : InputRoutes κ :=
  { routes with surfaces := routes.surfaces.insert surface ⟨client, ns, window⟩ }

/-- Dropping a registration discards what was deferred for the client. -/
def dropRegistration (routes : InputRoutes κ) (client : XServerFrontendClientId) : InputRoutes κ :=
  { routes with
    clients := routes.clients.erase client
    surfaces := routes.surfaces.filter fun _ route => route.client ≠ client
    frozenInput := routes.frozenInput.filter fun deferred => deferred.client ≠ client }

/-- The client an input that is not frozen goes to; there is none for an unmapped key or button. -/
def receiver (routes : InputRoutes κ) (keymap : XkbKeymap κ)
    (surfaceRoute : XServerFrontendSurfaceRoute) (request : RoutedInputRequest) :
    Option XServerFrontendClientId :=
  let ns := surfaceRoute.namespaceId
  let authority := routes.inputAuthority
  let owner := (surfaceRoute.client, surfaceRoute.window)
  match request.kind with
  | .key keycode pressed =>
    let active := target surfaceRoute (authority.keyboardGrab ns) owner
    (keymap.mapEvdevKey (routes.keyboard keymap request.seat) keycode pressed).1.map
      fun (keycode, state) =>
        if pressed then
          (target surfaceRoute (authority.activateKey ns keycode (state &&& 0xff)).1 active).1
        else active.1
  | .pointerMotion => some (target surfaceRoute (authority.pointerGrab ns) owner).1
  | .pointerButton button pressed =>
    ((routes.pointer request.seat).mapEvdevButton button pressed).1.map fun (button, state) =>
      if pressed then
        (grabTarget surfaceRoute (authority.activateButton ns button (state &&& 0xff)
          (implicitGrab surfaceRoute)).1).1
      else (target surfaceRoute (authority.pointerGrab ns) owner).1

/-- The client is registered, listens and has room for one more input. -/
def clientReady (routes : InputRoutes κ) (client : XServerFrontendClientId) : Bool :=
  (routes.clients[client]?).any fun senders =>
    senders.input.listening && decide (senders.input.items.length < routes.perClientQueueCapacity)

/-- An acknowledgement of this delivery would not find the queue of the Engine full. -/
def canAcknowledge (routes : InputRoutes κ) (delivery : Option XAuthorityInputDeliveryId) : Bool :=
  delivery.isNone || routes.inputDelivery.all fun queue =>
    !queue.listening || decide (queue.items.length < routes.inputDeliveryCapacity)

/-- The input reaches the queue of a client. -/
def forwards (routes : InputRoutes κ) (keymap : XkbKeymap κ) (route : XAuthorityRoutedInput) :
    Bool :=
  (routes.surfaces[route.request.targetSurface]?).any fun surfaceRoute =>
    !routes.routeIsFrozen route surfaceRoute.namespaceId &&
      (routes.receiver keymap surfaceRoute route.request).any routes.clientReady

/-- The input meets no error. -/
def completes (routes : InputRoutes κ) (keymap : XkbKeymap κ) (route : XAuthorityRoutedInput) :
    Bool :=
  (routes.surfaces[route.request.targetSurface]?).any fun surfaceRoute =>
    if routes.routeIsFrozen route surfaceRoute.namespaceId then
      decide (routes.frozenInput.length < routes.perClientQueueCapacity)
    else match routes.receiver keymap surfaceRoute route.request with
      | none => routes.canAcknowledge route.delivery
      | some client => routes.clientReady client

/-- The tables that neither the devices nor the grabs of a prepared input touch. -/
structure SameQueues (routes next : InputRoutes κ) : Prop where
  clients : next.clients = routes.clients
  surfaces : next.surfaces = routes.surfaces
  frozenInput : next.frozenInput = routes.frozenInput
  inputDelivery : next.inputDelivery = routes.inputDelivery
  inputDeliveryCapacity : next.inputDeliveryCapacity = routes.inputDeliveryCapacity
  deliveries : next.deliveries = routes.deliveries
  perClientQueueCapacity : next.perClientQueueCapacity = routes.perClientQueueCapacity

/-- What routing one input does, up to the tables of devices and grabs. -/
inductive EngineEffect (routes : InputRoutes κ) (keymap : XkbKeymap κ)
    (route : XAuthorityRoutedInput) :
    Except XServerFrontendRouteError InputDisposition → InputRoutes κ → Prop
  | unknownSurface
      (hsurface : routes.surfaces[route.request.targetSurface]? = none) :
      EngineEffect routes keymap route (.error (.unknownSurface route.request.targetSurface)) routes
  | deferred {surfaceRoute : XServerFrontendSurfaceRoute}
      (hsurface : routes.surfaces[route.request.targetSurface]? = some surfaceRoute)
      (hfrozen : routes.routeIsFrozen route surfaceRoute.namespaceId = true)
      (hroom : routes.frozenInput.length < routes.perClientQueueCapacity) :
      EngineEffect routes keymap route (.ok .deferred)
        { routes with frozenInput := routes.frozenInput ++ [⟨surfaceRoute.client, route⟩] }
  | overflow {surfaceRoute : XServerFrontendSurfaceRoute} {error : XServerFrontendRouteError}
      (hsurface : routes.surfaces[route.request.targetSurface]? = some surfaceRoute)
      (hfrozen : routes.routeIsFrozen route surfaceRoute.namespaceId = true)
      (hfull : routes.perClientQueueCapacity ≤ routes.frozenInput.length) :
      EngineEffect routes keymap route (.error error)
        (routes.sendInputDelivery surfaceRoute.client route.delivery .routeRejected).2
  | unmapped {surfaceRoute : XServerFrontendSurfaceRoute} {prepared : InputRoutes κ}
      {client : XServerFrontendClientId}
      (hsurface : routes.surfaces[route.request.targetSurface]? = some surfaceRoute)
      (hthawed : routes.routeIsFrozen route surfaceRoute.namespaceId = false)
      (hreceiver : routes.receiver keymap surfaceRoute route.request = none)
      (hprepared : routes.SameQueues prepared) :
      EngineEffect routes keymap route
        ((prepared.sendInputDelivery client route.delivery .routeRejected).1.map fun _ => .rejected)
        (prepared.sendInputDelivery client route.delivery .routeRejected).2
  | forwarded {surfaceRoute : XServerFrontendSurfaceRoute} {event : XAuthorityClientInputEvent}
      {prepared : InputRoutes κ}
      (hsurface : routes.surfaces[route.request.targetSurface]? = some surfaceRoute)
      (hthawed : routes.routeIsFrozen route surfaceRoute.namespaceId = false)
      (hreceiver : routes.receiver keymap surfaceRoute route.request = some event.client)
      (hprepared : routes.SameQueues prepared)
      (hdelivery : event.delivery = route.delivery)
      (hroute : (prepared.routeInput event).1 = .ok ()) :
      EngineEffect routes keymap route (.ok (.forwarded event)) (prepared.routeInput event).2
  | refused {surfaceRoute : XServerFrontendSurfaceRoute} {event : XAuthorityClientInputEvent}
      {error : XServerFrontendRouteError} {prepared : InputRoutes κ}
      (hsurface : routes.surfaces[route.request.targetSurface]? = some surfaceRoute)
      (hthawed : routes.routeIsFrozen route surfaceRoute.namespaceId = false)
      (hreceiver : routes.receiver keymap surfaceRoute route.request = some event.client)
      (hprepared : routes.SameQueues prepared)
      (hroute : (prepared.routeInput event).1 = .error error) :
      EngineEffect routes keymap route (.error error) (prepared.routeInput event).2

variable {routes next : InputRoutes κ} {keymap : XkbKeymap κ} {route : XAuthorityRoutedInput}
  {surfaceRoute : XServerFrontendSurfaceRoute} {request : RoutedInputRequest}
  {event : XAuthorityClientInputEvent} {client : XServerFrontendClientId}

theorem SameQueues.setDevices (seat : SeatId) (pointer : XCorePointerMapper) (keyboard : κ)
    (authority : XInputAuthorityState) :
    routes.SameQueues (routes.setDevices seat pointer keyboard authority) :=
  ⟨rfl, rfl, rfl, rfl, rfl, rfl, rfl⟩

theorem SameQueues.clientReady (h : routes.SameQueues next) :
    next.clientReady client = routes.clientReady client := by
  simp only [InputRoutes.clientReady, h.clients, h.perClientQueueCapacity]

theorem sameQueues_prepare : routes.SameQueues (routes.prepare keymap surfaceRoute request).2 := by
  cases hkind : request.kind with
  | pointerMotion =>
    simp only [prepare, hkind, prepareMotion]
    exact .setDevices _ _ _ _
  | key keycode pressed =>
    simp only [prepare, hkind, prepareKey]
    split
    · exact .setDevices _ _ _ _
    · exact .setDevices _ _ _ _
  | pointerButton button pressed =>
    simp only [prepare, hkind, prepareButton]
    split
    · exact ⟨rfl, rfl, rfl, rfl, rfl, rfl, rfl⟩
    · exact .setDevices _ _ _ _

theorem receiver_eq :
    routes.receiver keymap surfaceRoute request =
      (routes.prepare keymap surfaceRoute request).1.event.map
        fun _ => (routes.prepare keymap surfaceRoute request).1.client := by
  cases hkind : request.kind with
  | pointerMotion => simp only [prepare, receiver, hkind, prepareMotion, Option.map_some]
  | key keycode pressed =>
    simp only [prepare, receiver, hkind, prepareKey]
    rcases hmap : keymap.mapEvdevKey (routes.keyboard keymap request.seat) keycode pressed with
      ⟨_ | mapped, keyboard⟩
    · simp
    · cases pressed <;> simp [target]
  | pointerButton button pressed =>
    simp only [prepare, receiver, hkind, prepareButton]
    rcases hmap : (routes.pointer request.seat).mapEvdevButton button pressed with
      ⟨_ | mapped, pointer⟩
    · simp
    · cases pressed <;> simp

/-- The result of an acknowledgement says whether the queue of the Engine was full. -/
theorem sendInputDelivery_ok {delivery : Option XAuthorityInputDeliveryId}
    {outcome : XAuthorityInputDeliveryOutcome} :
    (routes.sendInputDelivery client delivery outcome).1 = .ok () ↔
      routes.canAcknowledge delivery = true := by
  rcases delivery with _ | delivery
  · simp [sendInputDelivery, canAcknowledge]
  · rcases hqueue : routes.inputDelivery with _ | ⟨items, listening⟩
    · simp [sendInputDelivery, canAcknowledge, hqueue]
    · cases listening
      · simp [sendInputDelivery, canAcknowledge, hqueue, RouteQueue.trySend]
      · by_cases hroom : items.length < routes.inputDeliveryCapacity
        · simp [sendInputDelivery, canAcknowledge, hqueue, RouteQueue.trySend, hroom]
        · simp [sendInputDelivery, canAcknowledge, hqueue, RouteQueue.trySend, hroom]

theorem routeInput_ok :
    (routes.routeInput event).1 = .ok () ↔ routes.clientReady event.client = true := by
  rcases hclient : routes.clients[event.client]? with _ | ⟨⟨items, listening⟩, control⟩
  · simp [routeInput, clientReady, hclient]
  · cases listening
    · simp [routeInput, clientReady, hclient, RouteQueue.trySend]
    · by_cases hroom : items.length < routes.perClientQueueCapacity
      · simp [routeInput, clientReady, hclient, RouteQueue.trySend, hroom]
      · simp [routeInput, clientReady, hclient, RouteQueue.trySend, hroom]

@[simp] theorem sendInputDelivery_surfaces {delivery : Option XAuthorityInputDeliveryId}
    {outcome : XAuthorityInputDeliveryOutcome} :
    (routes.sendInputDelivery client delivery outcome).2.surfaces = routes.surfaces := by
  simp only [sendInputDelivery]
  split
  · split <;> rfl
  · rfl

@[simp] theorem sendInputDelivery_frozenInput {delivery : Option XAuthorityInputDeliveryId}
    {outcome : XAuthorityInputDeliveryOutcome} :
    (routes.sendInputDelivery client delivery outcome).2.frozenInput = routes.frozenInput := by
  simp only [sendInputDelivery]
  split
  · split <;> rfl
  · rfl

/-- Routing to a client queue changes the table of clients only. -/
theorem routeInput_eq :
    ∃ clients, (routes.routeInput event).2 = { routes with clients } := by
  simp only [routeInput]
  split
  · exact ⟨_, rfl⟩
  · split
    · exact ⟨_, rfl⟩
    · exact ⟨_, rfl⟩
    · exact ⟨_, rfl⟩

theorem routeControl_eq {command : XAuthorityClientControlCommand} :
    ∃ clients, (routes.routeControl command).2 = { routes with clients } := by
  simp only [routeControl]
  split
  · exact ⟨_, rfl⟩
  · split
    · exact ⟨_, rfl⟩
    · exact ⟨_, rfl⟩
    · exact ⟨_, rfl⟩

@[simp] theorem routeInput_surfaces : (routes.routeInput event).2.surfaces = routes.surfaces := by
  obtain ⟨clients, h⟩ := @routeInput_eq _ routes event
  rw [h]

@[simp] theorem routeInput_frozenInput :
    (routes.routeInput event).2.frozenInput = routes.frozenInput := by
  obtain ⟨clients, h⟩ := @routeInput_eq _ routes event
  rw [h]

@[simp] theorem routeInput_deliveries :
    (routes.routeInput event).2.deliveries = routes.deliveries := by
  obtain ⟨clients, h⟩ := @routeInput_eq _ routes event
  rw [h]

/-- The frozen branch. -/
theorem EngineEffect.deferInput
    (hsurface : routes.surfaces[route.request.targetSurface]? = some surfaceRoute)
    (hfrozen : routes.routeIsFrozen route surfaceRoute.namespaceId = true) :
    EngineEffect routes keymap route (routes.deferInput surfaceRoute route).1
      (routes.deferInput surfaceRoute route).2 := by
  by_cases hfull : routes.perClientQueueCapacity ≤ routes.frozenInput.length
  · have heffect (error : XServerFrontendRouteError) : EngineEffect routes keymap route
        (.error error) _ := .overflow hsurface hfrozen hfull
    simp only [InputRoutes.deferInput, hfull, if_true]
    generalize routes.sendInputDelivery surfaceRoute.client route.delivery .routeRejected = sent
      at heffect ⊢
    rcases sent with ⟨_ | _, sent⟩
    · exact heffect _
    · exact heffect _
  · simp only [InputRoutes.deferInput, hfull, if_false]
    exact .deferred hsurface hfrozen (Nat.not_le.mp hfull)

/-- The branch of an input that is not frozen. -/
theorem EngineEffect.forwardInput
    (hsurface : routes.surfaces[route.request.targetSurface]? = some surfaceRoute)
    (hthawed : routes.routeIsFrozen route surfaceRoute.namespaceId = false) :
    EngineEffect routes keymap route (routes.forwardInput keymap surfaceRoute route).1
      (routes.forwardInput keymap surfaceRoute route).2 := by
  have hreceiver := @receiver_eq _ routes keymap surfaceRoute route.request
  have hprepared := @sameQueues_prepare _ routes keymap surfaceRoute route.request
  simp only [InputRoutes.forwardInput]
  generalize routes.prepare keymap surfaceRoute route.request = result at hreceiver hprepared ⊢
  rcases result with ⟨⟨client, window, _ | event⟩, prepared⟩
  · have heffect := @EngineEffect.unmapped _ _ _ _ _ _ client hsurface hthawed hreceiver hprepared
    simp only
    generalize prepared.sendInputDelivery client route.delivery .routeRejected = sent
      at heffect ⊢
    rcases sent with ⟨_ | _, sent⟩
    · exact heffect
    · exact heffect
  · simp only
    generalize hevent : prepared.clientEvent surfaceRoute.namespaceId ⟨client, window, some event⟩
      event route.delivery = sent
    have hclient : sent.client = client := by
      rw [← hevent]
      rfl
    have hdelivery : sent.delivery = route.delivery := by
      rw [← hevent]
      rfl
    rw [Option.map_some, ← hclient] at hreceiver
    rcases hroute : prepared.routeInput sent with ⟨error | _, next⟩
    · have heffect := EngineEffect.refused hsurface hthawed hreceiver hprepared
        (congrArg Prod.fst hroute)
      rwa [hroute] at heffect
    · have heffect := EngineEffect.forwarded hsurface hthawed hreceiver hprepared hdelivery
        (congrArg Prod.fst hroute)
      rwa [hroute] at heffect

theorem engineEffect :
    EngineEffect routes keymap route (routes.routeEngineInput keymap route).1
      (routes.routeEngineInput keymap route).2 := by
  rcases hsurface : routes.surfaces[route.request.targetSurface]? with _ | surfaceRoute
  · simp only [routeEngineInput, hsurface]
    exact .unknownSurface hsurface
  · simp only [routeEngineInput, hsurface]
    split
    · rename_i hfrozen
      exact .deferInput hsurface hfrozen
    · rename_i hfrozen
      exact .forwardInput hsurface (Bool.eq_false_iff.mpr hfrozen)

theorem SameQueues.canAcknowledge (h : routes.SameQueues next)
    (delivery : Option XAuthorityInputDeliveryId) :
    next.canAcknowledge delivery = routes.canAcknowledge delivery := by
  simp only [InputRoutes.canAcknowledge, h.inputDelivery, h.inputDeliveryCapacity]

theorem forwards_iff :
    routes.forwards keymap route = true ↔
      ∃ event, (routes.routeEngineInput keymap route).1 = .ok (.forwarded event) := by
  have heffect := @engineEffect _ routes keymap route
  generalize routes.routeEngineInput keymap route = result at heffect ⊢
  rcases result with ⟨result, next⟩
  simp only at heffect ⊢
  cases heffect with
  | unknownSurface hsurface => simp [forwards, hsurface]
  | deferred hsurface hfrozen hroom => simp [forwards, hsurface, hfrozen]
  | overflow hsurface hfrozen hfull => simp [forwards, hsurface, hfrozen]
  | unmapped hsurface hthawed hreceiver hprepared =>
    have hresult (result : Except XServerFrontendRouteError Unit) :
        ∀ event, (result.map fun _ => InputDisposition.rejected) ≠ .ok (.forwarded event) := by
      intro event h
      rcases result with _ | _
      · cases h
      · cases h
    simp [forwards, hsurface, hthawed, hreceiver, hresult]
  | forwarded hsurface hthawed hreceiver hprepared hdelivery hroute =>
    have hready := routeInput_ok.mp hroute
    rw [hprepared.clientReady] at hready
    simp [forwards, hsurface, hthawed, hreceiver, hready]
  | @refused _ event error _ hsurface hthawed hreceiver hprepared hroute =>
    have hready : ¬ routes.clientReady event.client = true := by
      rw [← hprepared.clientReady, ← routeInput_ok, hroute]
      simp
    simp [forwards, hsurface, hthawed, hreceiver, hready]

theorem completes_iff :
    routes.completes keymap route = true ↔
      ∃ disposition, (routes.routeEngineInput keymap route).1 = .ok disposition := by
  have heffect := @engineEffect _ routes keymap route
  generalize routes.routeEngineInput keymap route = result at heffect ⊢
  rcases result with ⟨result, next⟩
  simp only at heffect ⊢
  cases heffect with
  | unknownSurface hsurface => simp [completes, hsurface]
  | deferred hsurface hfrozen hroom => simp [completes, hsurface, hfrozen, hroom]
  | overflow hsurface hfrozen hfull => simp [completes, hsurface, hfrozen, hfull]
  | @unmapped _ prepared client hsurface hthawed hreceiver hprepared =>
    have hsent := @sendInputDelivery_ok _ prepared client route.delivery .routeRejected
    rw [hprepared.canAcknowledge] at hsent
    have hcompletes : routes.completes keymap route = routes.canAcknowledge route.delivery := by
      simp [completes, hsurface, hthawed, hreceiver]
    rw [hcompletes, ← hsent]
    rcases (prepared.sendInputDelivery client route.delivery .routeRejected).1 with _ | _
    · simp [Except.map]
    · simp [Except.map]
  | forwarded hsurface hthawed hreceiver hprepared hdelivery hroute =>
    have hready := routeInput_ok.mp hroute
    rw [hprepared.clientReady] at hready
    simp [completes, hsurface, hthawed, hreceiver, hready]
  | @refused _ event error _ hsurface hthawed hreceiver hprepared hroute =>
    have hready : ¬ routes.clientReady event.client = true := by
      rw [← hprepared.clientReady, ← routeInput_ok, hroute]
      simp
    simp [completes, hsurface, hthawed, hreceiver, hready]

theorem EngineEffect.surfaces {result : Except XServerFrontendRouteError InputDisposition}
    (h : EngineEffect routes keymap route result next) : next.surfaces = routes.surfaces := by
  cases h with
  | unknownSurface hsurface => rfl
  | deferred hsurface hfrozen hroom => rfl
  | overflow hsurface hfrozen hfull => simp
  | unmapped hsurface hthawed hreceiver hprepared => simp [hprepared.surfaces]
  | forwarded hsurface hthawed hreceiver hprepared hdelivery hroute => simp [hprepared.surfaces]
  | refused hsurface hthawed hreceiver hprepared hroute => simp [hprepared.surfaces]

/-- Only an input that is deferred joins the frozen queue, at its back. -/
theorem EngineEffect.frozenInput {result : Except XServerFrontendRouteError InputDisposition}
    (h : EngineEffect routes keymap route result next) :
    (∃ client, result = .ok .deferred ∧
        next.frozenInput = routes.frozenInput ++ [⟨client, route⟩]) ∨
      result ≠ .ok .deferred ∧ next.frozenInput = routes.frozenInput := by
  cases h with
  | unknownSurface hsurface => exact Or.inr ⟨by simp, rfl⟩
  | deferred hsurface hfrozen hroom => exact Or.inl ⟨_, rfl, rfl⟩
  | overflow hsurface hfrozen hfull => exact Or.inr ⟨by simp, by simp⟩
  | @unmapped _ prepared client hsurface hthawed hreceiver hprepared =>
    refine Or.inr ⟨?_, by simp [hprepared.frozenInput]⟩
    rcases (prepared.sendInputDelivery client route.delivery .routeRejected).1 with _ | _
    · simp [Except.map]
    · simp [Except.map]
  | forwarded hsurface hthawed hreceiver hprepared hdelivery hroute =>
    exact Or.inr ⟨by simp, by simp [hprepared.frozenInput]⟩
  | refused hsurface hthawed hreceiver hprepared hroute =>
    exact Or.inr ⟨by simp, by simp [hprepared.frozenInput]⟩

end InputRoutes
end Sophia.Frontend
