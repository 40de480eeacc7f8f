import Sophia.Authority.ExplicitGrabs
import Sophia.Frontend.InputBroker

/-! What routing an input asks of the grab state. -/
namespace Sophia.Frontend

open Std Sophia.Protocol Sophia.Authority

namespace InputRoutes

variable {κ : Type}

/-- What routing an input asks of the grab state. -/
def authorityCall (routes : InputRoutes κ) (keymap : XkbKeymap κ) (route : XAuthorityRoutedInput) :
    Option XInputRequest :=
  (routes.surfaces[route.request.targetSurface]?).bind fun surfaceRoute =>
    let ns := surfaceRoute.namespaceId
    let seat := route.request.seat
    if routes.routeIsFrozen route ns then none
    else match route.request.kind with
      | .pointerMotion => none
      | .key keycode pressed =>
        (keymap.mapEvdevKey (routes.keyboard keymap seat) keycode pressed).1.map
          fun (keycode, state) =>
            if pressed then .activateKey ns keycode (state &&& 0xff) else .releaseKey ns keycode
      | .pointerButton button pressed =>
        ((routes.pointer seat).mapEvdevButton button pressed).1.map fun (button, state) =>
          if pressed then .activateButton ns button (state &&& 0xff) (implicitGrab surfaceRoute)
          else .releaseButton ns button

variable {routes : InputRoutes κ} {keymap : XkbKeymap κ} {route : XAuthorityRoutedInput}
  {surfaceRoute : XServerFrontendSurfaceRoute} {client : XServerFrontendClientId}

theorem sendInputDelivery_frame (delivery : Option XAuthorityInputDeliveryId)
    (outcome : XAuthorityInputDeliveryOutcome) :
    ∃ inputDelivery deliveries, (routes.sendInputDelivery client delivery outcome).2 =
      { routes with inputDelivery, deliveries } := by
  simp only [sendInputDelivery]
  split
  · split
    · exact ⟨_, _, rfl⟩
    · exact ⟨_, _, rfl⟩
    · exact ⟨_, _, rfl⟩
  · exact ⟨_, _, rfl⟩

@[simp] theorem sendInputDelivery_inputAuthority {delivery : Option XAuthorityInputDeliveryId}
    {outcome : XAuthorityInputDeliveryOutcome} :
    (routes.sendInputDelivery client delivery outcome).2.inputAuthority =
      routes.inputAuthority := by
  obtain ⟨inputDelivery, deliveries, h⟩ :=
    @sendInputDelivery_frame _ routes client delivery outcome
  rw [h]

@[simp] theorem routeInput_inputAuthority {event : XAuthorityClientInputEvent} :
    (routes.routeInput event).2.inputAuthority = routes.inputAuthority := by
  obtain ⟨clients, h⟩ := @routeInput_eq _ routes event
  rw [h]

@[simp] theorem routeControl_inputAuthority {command : XAuthorityClientControlCommand} :
    (routes.routeControl command).2.inputAuthority = routes.inputAuthority := by
  obtain ⟨clients, h⟩ := @routeControl_eq _ routes command
  rw [h]

@[simp] theorem modifyClient_inputAuthority {f : ClientInputRoute → ClientInputRoute} :
    (routes.modifyClient client f).inputAuthority = routes.inputAuthority := by
  obtain ⟨clients, h⟩ := routes.modifyClient_eq client f
  rw [h]

theorem deferInput_inputAuthority :
    (routes.deferInput surfaceRoute route).2.inputAuthority = routes.inputAuthority := by
  have hsent := @sendInputDelivery_inputAuthority _ routes surfaceRoute.client route.delivery
    .routeRejected
  unfold deferInput
  split
  · generalize routes.sendInputDelivery surfaceRoute.client route.delivery .routeRejected = sent
      at hsent ⊢
    rcases sent with ⟨_ | _, sent⟩
    · exact hsent
    · exact hsent
  · rfl

/-- An input is sent on from what preparing it left, and only the queues move. -/
theorem forwardInput_frame :
    ∃ clients inputDelivery deliveries, (routes.forwardInput keymap surfaceRoute route).2 =
      { (routes.prepare keymap surfaceRoute route.request).2 with
        clients, inputDelivery, deliveries } := by
  unfold forwardInput
  generalize routes.prepare keymap surfaceRoute route.request = result
  rcases result with ⟨⟨client, window, _ | event⟩, prepared⟩
  · obtain ⟨inputDelivery, deliveries, hsent⟩ :=
      @sendInputDelivery_frame _ prepared client route.delivery .routeRejected
    simp only
    generalize prepared.sendInputDelivery client route.delivery .routeRejected = sent at hsent ⊢
    rcases sent with ⟨_ | _, sent⟩
    · exact ⟨_, _, _, hsent⟩
    · exact ⟨_, _, _, hsent⟩
  · simp only
    generalize prepared.clientEvent surfaceRoute.namespaceId ⟨client, window, some event⟩ event
      route.delivery = sent
    obtain ⟨clients, hsent⟩ := @routeInput_eq _ prepared sent
    generalize prepared.routeInput sent = result at hsent ⊢
    rcases result with ⟨_ | _, next⟩
    · exact ⟨_, _, _, hsent⟩
    · exact ⟨_, _, _, hsent⟩

theorem forwardInput_inputAuthority :
    (routes.forwardInput keymap surfaceRoute route).2.inputAuthority =
      (routes.prepare keymap surfaceRoute route.request).2.inputAuthority := by
  obtain ⟨clients, inputDelivery, deliveries, hframe⟩ :=
    @forwardInput_frame _ routes keymap route surfaceRoute
  rw [hframe]

theorem authorityCall_routed {request : XInputRequest}
    (h : routes.authorityCall keymap route = some request) : request.Routed := by
  obtain ⟨surfaceRoute, -, hcall⟩ := Option.bind_eq_some_iff.mp h
  simp only at hcall
  split at hcall
  · cases hcall
  · split at hcall
    · cases hcall
    · obtain ⟨mapped, -, rfl⟩ := Option.map_eq_some_iff.mp hcall
      split <;> trivial
    · obtain ⟨mapped, -, rfl⟩ := Option.map_eq_some_iff.mp hcall
      split <;> trivial

/-- Routing an input changes the grab state by the call it makes, or not at all. -/
theorem routeEngineInput_inputAuthority :
    (routes.routeEngineInput keymap route).2.inputAuthority =
      ((routes.authorityCall keymap route).map routes.inputAuthority.step).getD
        routes.inputAuthority := by
  unfold routeEngineInput authorityCall
  cases hsurface : routes.surfaces[route.request.targetSurface]? with
  | none => rfl
  | some surfaceRoute =>
    simp only [Option.bind_some]
    split
    · exact deferInput_inputAuthority
    · rw [forwardInput_inputAuthority]
      cases hkind : route.request.kind with
      | pointerMotion =>
        simp only [prepare, hkind]
        rfl
      | key keycode pressed =>
        simp only [prepare, hkind, prepareKey]
        rcases keymap.mapEvdevKey (routes.keyboard keymap route.request.seat) keycode pressed with
          ⟨_ | mapped, keyboard⟩
        · rfl
        · cases pressed <;> rfl
      | pointerButton button pressed =>
        simp only [prepare, hkind, prepareButton]
        rcases (routes.pointer route.request.seat).mapEvdevButton button pressed with
          ⟨_ | mapped, pointer⟩
        · rfl
        · cases pressed <;> rfl

end InputRoutes
end Sophia.Frontend
