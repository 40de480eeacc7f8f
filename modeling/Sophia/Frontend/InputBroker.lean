import Sophia.Authority.InputFreeze
import Sophia.Frontend.InputRoutes

/-! `route_pending` step by step, between the actions of the Engine and the client workers. -/
namespace Sophia.Frontend

open Std Sophia.Protocol Sophia.Authority

/-- What a running call does next. `remaining` counts the inputs its drain has still to take. -/
inductive RouteStage where
  | engineInput
  | clientInput
  | control
  | drain
  | popping (remaining : ℕ)
  | inspecting (remaining : ℕ) (deferred : XDeferredRoutedInput)
  | puttingBack (remaining : ℕ) (deferred : XDeferredRoutedInput)
  | thawing (remaining : ℕ) (deferred : XDeferredRoutedInput)
  deriving DecidableEq, Repr

namespace RouteStage

/-- How many inputs the drain has still to take from the frozen queue. -/
def remaining : RouteStage → ℕ
  | .popping remaining | .inspecting remaining _ | .puttingBack remaining _
  | .thawing remaining _ => remaining
  | _ => 0

/-- The input the drain took from the frozen queue last. -/
def inHand : RouteStage → Option XDeferredRoutedInput
  | .inspecting _ deferred | .puttingBack _ deferred | .thawing _ deferred => some deferred
  | _ => none

end RouteStage

/-- The local variables of a running call. -/
structure RoutePass where
  routed : UInt64
  progressed : Bool
  thawed : UInt64
  stage : RouteStage
  deriving DecidableEq, Repr

namespace RoutePass

def start : RoutePass := ⟨0, false, 0, .engineInput⟩

def goTo (pass : RoutePass) (stage : RouteStage) : RoutePass := { pass with stage }

/-- One value more was routed. -/
def count (pass : RoutePass) (stage : RouteStage) : RoutePass :=
  { pass with routed := saturatingAdd pass.routed 1, progressed := true, stage }

end RoutePass

structure XServerFrontendRouteBroker (κ : Type) where
  registry : InputRoutes κ
  routedInput : RouteQueue XAuthorityRoutedInput
  input : RouteQueue XAuthorityClientInputEvent
  control : RouteQueue XAuthorityClientControlCommand

/-- A broker with the call it runs, what its calls returned, and what went in and out so far. -/
structure RouteSession (κ : Type) where
  broker : XServerFrontendRouteBroker κ
  pass : Option RoutePass
  results : List (Except XServerFrontendRouteError UInt64)
  received : List XAuthorityRoutedInput
  forwarded : List (XAuthorityRoutedInput × XAuthorityClientInputEvent)
  receivedDirect : List XAuthorityClientInputEvent
  forwardedDirect : List XAuthorityClientInputEvent

inductive BrokerAction where
  | sendRoutedInput (route : XAuthorityRoutedInput)
  | sendInput (event : XAuthorityClientInputEvent)
  | sendControl (command : XAuthorityClientControlCommand)
  | routePending
  | advance
  | inputRequest (request : XInputRequest)
  | registerClient (client : XServerFrontendClientId)
  | registerSurface (client : XServerFrontendClientId) (ns : NamespaceId) (surface : SurfaceId)
      (window : XResourceId)
  | disconnect (client : XServerFrontendClientId)
  | receiveInput (client : XServerFrontendClientId) (n : ℕ)
  | receiveControl (client : XServerFrontendClientId) (n : ℕ)
  | hangUp (client : XServerFrontendClientId)
  | sendDelivery (client : XServerFrontendClientId) (delivery : XAuthorityInputDeliveryId)
      (flushed : Bool)
  | receiveDeliveries (n : ℕ)
  deriving DecidableEq

namespace InputRoutes

variable {κ : Type}

/-- The worker of a client changes its ends of the queues. -/
def modifyClient (routes : InputRoutes κ) (client : XServerFrontendClientId)
    (f : ClientInputRoute → ClientInputRoute) : InputRoutes κ :=
  match routes.clients[client]? with
  | none => routes
  | some senders => { routes with clients := routes.clients.insert client (f senders) }

theorem modifyClient_eq (routes : InputRoutes κ) (client : XServerFrontendClientId)
    (f : ClientInputRoute → ClientInputRoute) :
    ∃ clients, routes.modifyClient client f = { routes with clients } := by
  simp only [modifyClient]
  split
  · exact ⟨_, rfl⟩
  · exact ⟨_, rfl⟩

theorem registerClient_eq {routes next : InputRoutes κ} {client : XServerFrontendClientId}
    (h : routes.registerClient client = .ok next) :
    ∃ clients, next = { routes with clients } := by
  simp only [registerClient] at h
  split at h
  · cases h
  · cases h
    exact ⟨_, rfl⟩

/-- A worker reports an input as written or as failed. -/
def workerDelivery (routes : InputRoutes κ) (client : XServerFrontendClientId)
    (delivery : XAuthorityInputDeliveryId) (flushed : Bool) : InputRoutes κ :=
  (routes.sendInputDelivery client (some delivery) (if flushed then .flushed else .writeFailed)).2

end InputRoutes

namespace XServerFrontendRouteError

/-- The errors of an Engine-routed input that `route_pending` passes over. -/
def passedOver : XServerFrontendRouteError → Bool
  | .unknownSurface _ | .clientQueueDisconnected _ | .unknownClient _ => true
  | _ => false

end XServerFrontendRouteError

namespace RouteSession

variable {κ : Type}

def new (capacity deliveryCapacity : ℕ) (acknowledges : Bool) : RouteSession κ where
  broker := {
    registry := {
      clients := ∅
      surfaces := ∅
      pointerState := ∅
      inputAuthority := {}
      frozenInput := []
      keyboards := ∅
      inputDelivery := if acknowledges then some .empty else none
      inputDeliveryCapacity := deliveryCapacity
      deliveries := []
      perClientQueueCapacity := capacity }
    routedInput := .empty
    input := .empty
    control := .empty }
  pass := none
  results := []
  received := []
  forwarded := []
  receivedDirect := []
  forwardedDirect := []

def registry (session : RouteSession κ) : InputRoutes κ := session.broker.registry

def setRegistry (session : RouteSession κ) (registry : InputRoutes κ) : RouteSession κ :=
  { session with broker := { session.broker with registry } }

def enter (session : RouteSession κ) (pass : RoutePass) : RouteSession κ :=
  { session with pass := some pass }

def finish (session : RouteSession κ) (result : Except XServerFrontendRouteError UInt64) :
    RouteSession κ :=
  { session with pass := none, results := session.results ++ [result] }

/-- Notes an input that reached a client queue. -/
def record (session : RouteSession κ) (route : XAuthorityRoutedInput) :
    Except XServerFrontendRouteError InputDisposition → RouteSession κ
  | .ok (.forwarded event) => { session with forwarded := session.forwarded ++ [(route, event)] }
  | _ => session

def routeEngine (session : RouteSession κ) (keymap : XkbKeymap κ) (pass : RoutePass) :
    RouteSession κ :=
  match session.broker.routedInput.items with
  | [] => session.enter (pass.goTo .clientInput)
  | route :: rest =>
    let session := { session with
      broker.routedInput.items := rest
      received := session.received ++ [route] }
    let (result, registry) := session.registry.routeEngineInput keymap route
    let session := (session.setRegistry registry).record route result
    match result with
    | .ok _ => session.enter (pass.count .clientInput)
    | .error error =>
      if error.passedOver then
        session.enter { pass with progressed := true, stage := .clientInput }
      else session.finish (.error error)

def routeClient (session : RouteSession κ) (pass : RoutePass) : RouteSession κ :=
  match session.broker.input.items with
  | [] => session.enter (pass.goTo .control)
  | event :: rest =>
    let session := { session with
      broker.input.items := rest
      receivedDirect := session.receivedDirect ++ [event] }
    match session.registry.routeInput event with
    | (.ok _, registry) =>
      { (session.setRegistry registry).enter (pass.count .control) with
        forwardedDirect := session.forwardedDirect ++ [event] }
    | (.error error, registry) =>
      match registry.sendInputDelivery event.client event.delivery .routeRejected with
      | (.ok _, registry) => (session.setRegistry registry).finish (.error error)
      | (.error full, registry) => (session.setRegistry registry).finish (.error full)

def routeControl (session : RouteSession κ) (pass : RoutePass) : RouteSession κ :=
  match session.broker.control.items with
  | [] => session.enter (pass.goTo .drain)
  | command :: rest =>
    let session := { session with broker.control.items := rest }
    match session.registry.routeControl command with
    | (.ok _, registry) => (session.setRegistry registry).enter (pass.count .drain)
    | (.error error, registry) => (session.setRegistry registry).finish (.error error)

/-- The end of one round: another one follows while there was something to do. -/
def endDrain (session : RouteSession κ) (pass : RoutePass) : RouteSession κ :=
  let routed := if pass.thawed = 0 then pass.routed
    else saturatingAdd pass.routed pass.thawed
  if pass.progressed ∨ pass.thawed ≠ 0 then
    session.enter { RoutePass.start with routed }
  else session.finish (.ok routed)

def popFrozen (session : RouteSession κ) (pass : RoutePass) : ℕ → RouteSession κ
  | 0 => session.endDrain pass
  | remaining + 1 => match session.registry.frozenInput with
    | [] => session.endDrain pass
    | deferred :: rest =>
      (session.setRegistry { session.registry with frozenInput := rest }).enter
        (pass.goTo (.inspecting remaining deferred))

def inspect (session : RouteSession κ) (pass : RoutePass) (remaining : ℕ)
    (deferred : XDeferredRoutedInput) : RouteSession κ :=
  match session.registry.surfaces[deferred.route.request.targetSurface]? with
  | none =>
    match session.registry.sendInputDelivery deferred.client deferred.route.delivery
      .routeRejected with
    | (.ok _, registry) => (session.setRegistry registry).enter (pass.goTo (.popping remaining))
    | (.error error, registry) => (session.setRegistry registry).finish (.error error)
  | some surfaceRoute =>
    if session.registry.routeIsFrozen deferred.route surfaceRoute.namespaceId then
      session.enter (pass.goTo (.puttingBack remaining deferred))
    else session.enter (pass.goTo (.thawing remaining deferred))

def putBack (session : RouteSession κ) (pass : RoutePass) (remaining : ℕ)
    (deferred : XDeferredRoutedInput) : RouteSession κ :=
  (session.setRegistry { session.registry with
    frozenInput := session.registry.frozenInput ++ [deferred] }).enter
      (pass.goTo (.popping remaining))

def routeThawed (session : RouteSession κ) (keymap : XkbKeymap κ) (pass : RoutePass)
    (remaining : ℕ) (deferred : XDeferredRoutedInput) : RouteSession κ :=
  let (result, registry) := session.registry.routeEngineInput keymap deferred.route
  let session := (session.setRegistry registry).record deferred.route result
  match result with
  | .ok _ => session.enter { pass with
      thawed := saturatingAdd pass.thawed 1
      stage := .popping remaining }
  | .error error => session.finish (.error error)

/-- The next step of a running call. -/
def advance (session : RouteSession κ) (keymap : XkbKeymap κ) (pass : RoutePass) :
    RouteSession κ :=
  match pass.stage with
  | .engineInput => session.routeEngine keymap pass
  | .clientInput => session.routeClient pass
  | .control => session.routeControl pass
  | .drain =>
    session.enter { pass with thawed := 0, stage := .popping session.registry.frozenInput.length }
  | .popping remaining => session.popFrozen pass remaining
  | .inspecting remaining deferred => session.inspect pass remaining deferred
  | .puttingBack remaining deferred => session.putBack pass remaining deferred
  | .thawing remaining deferred => session.routeThawed keymap pass remaining deferred

def step (keymap : XkbKeymap κ) (session : RouteSession κ) : BrokerAction → RouteSession κ
  | .sendRoutedInput route => { session with
      broker.routedInput := (session.broker.routedInput.trySend
        session.registry.perClientQueueCapacity route).2 }
  | .sendInput event => { session with
      broker.input := (session.broker.input.trySend
        session.registry.perClientQueueCapacity event).2 }
  | .sendControl command => { session with
      broker.control := (session.broker.control.trySend
        session.registry.perClientQueueCapacity command).2 }
  | .routePending => match session.pass with
    | none => session.enter .start
    | some _ => session
  | .advance => match session.pass with
    | none => session
    | some pass => session.advance keymap pass
  | .inputRequest request => session.setRegistry { session.registry with
      inputAuthority := session.registry.inputAuthority.step request }
  | .registerClient client => match session.registry.registerClient client with
    | .ok registry => session.setRegistry registry
    | .error _ => session
  | .registerSurface client ns surface window =>
    session.setRegistry (session.registry.registerSurface client ns surface window)
  | .disconnect client => session.setRegistry (session.registry.dropRegistration client)
  | .receiveInput client n => session.setRegistry (session.registry.modifyClient client
      fun senders => { senders with input := senders.input.receive n })
  | .receiveControl client n => session.setRegistry (session.registry.modifyClient client
      fun senders => { senders with control := senders.control.receive n })
  | .hangUp client => session.setRegistry (session.registry.modifyClient client
      fun senders => ⟨senders.input.hangUp, senders.control.hangUp⟩)
  | .sendDelivery client delivery flushed =>
    session.setRegistry (session.registry.workerDelivery client delivery flushed)
  | .receiveDeliveries n => session.setRegistry { session.registry with
      inputDelivery := session.registry.inputDelivery.map (·.receive n) }

def remaining (session : RouteSession κ) : ℕ :=
  (session.pass.map (·.stage.remaining)).getD 0

def inHand (session : RouteSession κ) : Option XDeferredRoutedInput :=
  session.pass.bind (·.stage.inHand)

variable {session : RouteSession κ} {pass : RoutePass}

@[simp] theorem remaining_enter : (session.enter pass).remaining = pass.stage.remaining := rfl

@[simp] theorem inHand_enter : (session.enter pass).inHand = pass.stage.inHand := rfl

@[simp] theorem registry_enter : (session.enter pass).registry = session.registry := rfl

theorem remaining_of (hpass : session.pass = some pass) :
    session.remaining = pass.stage.remaining := by
  simp only [remaining, hpass, Option.map_some, Option.getD_some]

theorem inHand_of (hpass : session.pass = some pass) : session.inHand = pass.stage.inHand := by
  simp only [inHand, hpass, Option.bind_some]

/-- Outside the drain nothing is in hand and the whole frozen queue is put back. -/
theorem not_draining (hpass : session.pass = some pass) (hhand : pass.stage.inHand = none)
    (hremaining : pass.stage.remaining = 0) : session.inHand = none ∧ session.remaining = 0 :=
  ⟨(inHand_of hpass).trans hhand, (remaining_of hpass).trans hremaining⟩

/-- A keyboard library without modifiers. -/
def plainKeymap : XkbKeymap Unit := ⟨(), fun _ => 0, fun _ _ _ => ()⟩

def keyPress (keycode : UInt32) : XAuthorityRoutedInput where
  request := {
    serial := keycode.toUInt64
    seat := ⟨1⟩
    device := ⟨1⟩
    timeMsec := 2
    targetSurface := ⟨11, 1⟩
    globalPosition := ⟨0, 0⟩
    localPosition := ⟨0, 0⟩
    kind := .key keycode true }
  delivery := none

end RouteSession
end Sophia.Frontend
