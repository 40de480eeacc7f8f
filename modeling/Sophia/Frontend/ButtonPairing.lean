import Sophia.Frontend.InputCalls

/-! Which client the release of a button goes to when several buttons are held. -/
namespace Sophia.Frontend

open Std Sophia.Protocol Sophia.Authority

/-- A button goes down or up over a surface of a client. -/
structure ButtonStroke where
  button : UInt8
  pressed : Bool
  client : XServerFrontendClientId
  deriving DecidableEq, Repr

namespace ButtonStroke

/-- The client of the last stroke, if that was a press. -/
def holder (strokes : List ButtonStroke) : Option XServerFrontendClientId :=
  strokes.getLast?.bind fun last => if last.pressed then some last.client else none

variable {strokes more : List ButtonStroke} {stroke : ButtonStroke}

@[simp] theorem holder_nil : holder [] = none := rfl

theorem holder_snoc :
    holder (strokes ++ [stroke]) = if stroke.pressed then some stroke.client else none := by
  simp [holder]

theorem holder_append (h : more ≠ []) : holder (strokes ++ more) = holder more := by
  simp only [holder, List.getLast?_append_of_ne_nil _ h]

end ButtonStroke

namespace InputRoutes

variable {κ : Type}

/-- The stroke an input is, by the surface it is aimed at; other inputs and unmapped buttons are
none. -/
def stroke (routes : InputRoutes κ) (route : XAuthorityRoutedInput) : Option ButtonStroke :=
  (routes.surfaces[route.request.targetSurface]?).bind fun surfaceRoute =>
    match route.request.kind with
    | .pointerButton button pressed => (XCorePointerMapper.buttonMask button).map
      fun (button, _) => ⟨button, pressed, surfaceRoute.client⟩
    | _ => none

def strokes (routes : InputRoutes κ) (inputs : List XAuthorityRoutedInput) : List ButtonStroke :=
  inputs.filterMap routes.stroke

/-- The client an input is sent to, whatever its queue has room for. -/
def sentTo (routes : InputRoutes κ) (keymap : XkbKeymap κ) (route : XAuthorityRoutedInput) :
    Option XServerFrontendClientId :=
  (routes.surfaces[route.request.targetSurface]?).bind fun surfaceRoute =>
    if routes.routeIsFrozen route surfaceRoute.namespaceId then none
    else routes.receiver keymap surfaceRoute route.request

def routeStep (keymap : XkbKeymap κ) (routes : InputRoutes κ) (route : XAuthorityRoutedInput) :
    InputRoutes κ :=
  (routes.routeEngineInput keymap route).2

/-- The inputs hold a press and the next stroke of the same button, which is its release. -/
structure Drag (routes : InputRoutes κ) (inputs before between after : List XAuthorityRoutedInput)
    (down up : XAuthorityRoutedInput) (press release : ButtonStroke) : Prop where
  inputs : inputs = before ++ down :: (between ++ up :: after)
  down : routes.stroke down = some press
  up : routes.stroke up = some release
  pressed : press.pressed = true
  released : release.pressed = false
  button : release.button = press.button
  between : ∀ stroke ∈ routes.strokes between, stroke.button ≠ press.button

/-- Every button is released at the client it was pressed at. -/
def Paired (keymap : XkbKeymap κ) (routes : InputRoutes κ) (inputs : List XAuthorityRoutedInput) :
    Prop :=
  ∀ before down between up after press release,
    routes.Drag inputs before between after down up press release →
      (Run.exec (routeStep keymap) routes (before ++ down :: between)).sentTo keymap up =
        (Run.exec (routeStep keymap) routes before).sentTo keymap down

/-- No drag ends after a press over another client, nor over another client after a release. -/
def Undisturbed (routes : InputRoutes κ) (inputs : List XAuthorityRoutedInput) : Prop :=
  ∀ before down between up after press release,
    routes.Drag inputs before between after down up press release →
      (ButtonStroke.holder (press :: routes.strokes between)).getD release.client = press.client

/-- All the inputs are aimed at surfaces of one namespace. -/
def Within (routes : InputRoutes κ) (ns : NamespaceId) (inputs : List XAuthorityRoutedInput) :
    Prop :=
  ∀ route ∈ inputs, ∀ surfaceRoute,
    routes.surfaces[route.request.targetSurface]? = some surfaceRoute →
      surfaceRoute.namespaceId = ns

/-- Nothing is grabbed, but for the pointer by the press of a client. -/
def GrabbedBy (routes : InputRoutes κ) (ns : NamespaceId)
    (client : Option XServerFrontendClientId) : Prop :=
  ∃ grab : Option XActiveInputGrab, grab.map (fun grab => ⟨grab.owner⟩) = client ∧
    routes.inputAuthority.authority ns = { pointer := grab, pointerImplicit := grab.isSome }

variable {routes next : InputRoutes κ} {keymap : XkbKeymap κ} {route : XAuthorityRoutedInput}
  {surfaceRoute : XServerFrontendSurfaceRoute} {ns : NamespaceId}
  {client : Option XServerFrontendClientId} {inputs : List XAuthorityRoutedInput}
  {stroke : ButtonStroke}

theorem routeStep_surfaces : (routeStep keymap routes route).surfaces = routes.surfaces :=
  engineEffect.surfaces

theorem exec_surfaces (keymap : XkbKeymap κ) (routes : InputRoutes κ)
    (inputs : List XAuthorityRoutedInput) :
    (Run.exec (routeStep keymap) routes inputs).surfaces = routes.surfaces := by
  induction inputs generalizing routes with
  | nil => rfl
  | cons route inputs ih =>
    rw [Run.exec_cons, ih]
    exact routeStep_surfaces

theorem strokes_snoc :
    routes.strokes (inputs ++ [route]) = routes.strokes inputs ++ (routes.stroke route).toList := by
  simp only [strokes, List.filterMap_append]
  cases hstroke : routes.stroke route with
  | none => simp [hstroke]
  | some stroke => simp [hstroke]

theorem stroke_congr (h : next.surfaces = routes.surfaces) : next.stroke route = routes.stroke route := by
  rw [InputRoutes.stroke, InputRoutes.stroke, h]

theorem GrabbedBy.thawed (h : routes.GrabbedBy ns client) (route : XAuthorityRoutedInput) :
    routes.routeIsFrozen route ns = false := by
  obtain ⟨grab, -, hentry⟩ := h
  unfold routeIsFrozen
  split
  · simp only [XInputAuthorityState.keyboardFrozen, hentry]
  · simp only [XInputAuthorityState.pointerFrozen, hentry]

theorem GrabbedBy.authorityCall (keymap : XkbKeymap κ) (h : routes.GrabbedBy ns client)
    (hsurface : routes.surfaces[route.request.targetSurface]? = some surfaceRoute)
    (hns : surfaceRoute.namespaceId = ns) :
    routes.authorityCall keymap route = match route.request.kind with
      | .pointerMotion => none
      | .key keycode pressed =>
        (keymap.mapEvdevKey (routes.keyboard keymap route.request.seat) keycode pressed).1.map
          fun (keycode, state) =>
            if pressed then .activateKey ns keycode (state &&& 0xff) else .releaseKey ns keycode
      | .pointerButton button pressed =>
        ((routes.pointer route.request.seat).mapEvdevButton button pressed).1.map
          fun (button, state) =>
            if pressed then .activateButton ns button (state &&& 0xff) (implicitGrab surfaceRoute)
            else .releaseButton ns button := by
  simp only [InputRoutes.authorityCall, hsurface, Option.bind_some, hns, h.thawed route]
  rfl

/-- A button is mapped in every state of the pointer or in none. -/
theorem mapEvdevButton_fst (mapper : XCorePointerMapper) (button : UInt32) (pressed : Bool) :
    (mapper.mapEvdevButton button pressed).1 =
      (XCorePointerMapper.buttonMask button).map fun mask => (mask.1, mapper.buttonState) := by
  unfold XCorePointerMapper.mapEvdevButton
  split
  · rename_i hmask
    rw [hmask]
    rfl
  · rename_i hmask
    rw [hmask]
    rfl

theorem stroke_eq_some :
    routes.stroke route = some stroke ↔ ∃ surfaceRoute button mask,
      routes.surfaces[route.request.targetSurface]? = some surfaceRoute ∧
      route.request.kind = .pointerButton button stroke.pressed ∧
      XCorePointerMapper.buttonMask button = some (stroke.button, mask) ∧
      stroke.client = surfaceRoute.client := by
  constructor
  · intro h
    obtain ⟨surfaceRoute, hsurface, hkind⟩ := Option.bind_eq_some_iff.mp h
    split at hkind
    · rename_i button pressed hroute
      obtain ⟨⟨mapped, mask⟩, hmask, rfl⟩ := Option.map_eq_some_iff.mp hkind
      exact ⟨surfaceRoute, button, mask, hsurface, hroute, hmask, rfl⟩
    · cases hkind
  · rintro ⟨surfaceRoute, button, mask, hsurface, hkind, hmask, hclient⟩
    simp only [InputRoutes.stroke, hsurface, Option.bind_some, hkind, hmask, Option.map_some,
      ← hclient]

theorem routeStep_authority :
    (routeStep keymap routes route).inputAuthority.authority ns =
      (((routes.authorityCall keymap route).map routes.inputAuthority.step).getD
        routes.inputAuthority).authority ns :=
  congrArg (·.authority ns) routeEngineInput_inputAuthority

theorem GrabbedBy.congr (h : routes.GrabbedBy ns client)
    (hsame : next.inputAuthority.authority ns = routes.inputAuthority.authority ns) :
    next.GrabbedBy ns client := by
  obtain ⟨grab, hgrab, hentry⟩ := h
  exact ⟨grab, hgrab, hsame.trans hentry⟩

/-- Without passive grabs a key changes nothing. -/
theorem GrabbedBy.key (h : routes.GrabbedBy ns client) (key : UInt8) (modifiers : UInt16) :
    (routes.inputAuthority.step (.activateKey ns key modifiers)).authority ns =
        routes.inputAuthority.authority ns ∧
      (routes.inputAuthority.step (.releaseKey ns key)).authority ns =
        routes.inputAuthority.authority ns := by
  obtain ⟨grab, -, hentry⟩ := h
  constructor
  · simp only [XInputAuthorityState.step, XInputAuthorityState.authority_activateKey, if_pos,
      hentry]
    rfl
  · refine (XInputAuthorityState.authority_modify_self (f := (·.releaseKey key)) rfl).trans ?_
    rw [hentry]
    rfl

theorem GrabbedBy.press (h : routes.GrabbedBy ns client) (button : UInt8) (modifiers : UInt16)
    (implicit : XActiveInputGrab) (hmodes : implicit.pointerMode = 1 ∧ implicit.keyboardMode = 1) :
    (routes.inputAuthority.activateButton ns button modifiers implicit).1 = implicit ∧
      (routes.inputAuthority.step (.activateButton ns button modifiers implicit)).authority ns =
        { pointer := some implicit, pointerImplicit := true } := by
  obtain ⟨grab, -, hentry⟩ := h
  simp only [XInputAuthorityState.step, XInputAuthorityState.activateButton,
    XInputAuthorityState.authority_enter, if_pos, hentry, XNamespaceInputAuthority.activateButton,
    List.find?_nil, hmodes]
  exact ⟨trivial, rfl⟩

theorem GrabbedBy.release (h : routes.GrabbedBy ns client) (button : UInt8) :
    (routes.inputAuthority.step (.releaseButton ns button)).authority ns = {} := by
  obtain ⟨grab, -, hentry⟩ := h
  refine (XInputAuthorityState.authority_modify_self (f := (·.releaseButton button)) rfl).trans ?_
  rw [hentry]
  cases grab with
  | none => rfl
  | some grab => rfl

/-- A press grabs the pointer for the client under it, a release ends that grab, and no other input
changes it. -/
theorem GrabbedBy.step (keymap : XkbKeymap κ) (route : XAuthorityRoutedInput)
    (h : routes.GrabbedBy ns client)
    (hns : ∀ surfaceRoute, routes.surfaces[route.request.targetSurface]? = some surfaceRoute →
      surfaceRoute.namespaceId = ns) :
    (routeStep keymap routes route).GrabbedBy ns
      (((routes.stroke route).map fun stroke =>
        if stroke.pressed then some stroke.client else none).getD client) := by
  cases hsurface : routes.surfaces[route.request.targetSurface]? with
  | none =>
    have hstroke : routes.stroke route = none := by
      simp only [InputRoutes.stroke, hsurface, Option.bind_none]
    rw [hstroke]
    refine h.congr ?_
    rw [routeStep_authority, InputRoutes.authorityCall, hsurface]
    rfl
  | some surfaceRoute =>
    have hcall := h.authorityCall keymap hsurface (hns _ hsurface)
    have hstroke : routes.stroke route = match route.request.kind with
        | .pointerButton button pressed => (XCorePointerMapper.buttonMask button).map
          fun (button, _) => ⟨button, pressed, surfaceRoute.client⟩
        | _ => none := by
      simp only [InputRoutes.stroke, hsurface, Option.bind_some]
    have hauthority := @routeStep_authority _ routes keymap route ns
    rw [hcall] at hauthority
    rw [hstroke]
    cases hkind : route.request.kind with
    | pointerMotion =>
      rw [hkind] at hauthority
      exact h.congr hauthority
    | key keycode pressed =>
      rw [hkind] at hauthority
      refine h.congr (hauthority.trans ?_)
      simp only
      cases (keymap.mapEvdevKey (routes.keyboard keymap route.request.seat) keycode pressed).1 with
      | none => rfl
      | some mapped =>
        cases pressed with
        | true => exact (h.key mapped.1 (mapped.2 &&& 0xff)).1
        | false => exact (h.key mapped.1 (mapped.2 &&& 0xff)).2
    | pointerButton button pressed =>
      simp only [hkind, mapEvdevButton_fst] at hauthority ⊢
      cases hmask : XCorePointerMapper.buttonMask button with
      | none =>
        rw [hmask] at hauthority
        exact h.congr hauthority
      | some mask =>
        rw [hmask] at hauthority
        cases pressed with
        | true =>
          refine ⟨some (implicitGrab surfaceRoute), rfl, hauthority.trans ?_⟩
          exact (h.press mask.1 _ (implicitGrab surfaceRoute) ⟨rfl, rfl⟩).2
        | false => exact ⟨none, rfl, hauthority.trans (h.release mask.1)⟩

/-- After any inputs the pointer is grabbed by the client of the last stroke, if that was a press. -/
theorem grabbedBy_exec (keymap : XkbKeymap κ) (hclear : routes.inputAuthority.authority ns = {})
    (hwithin : routes.Within ns inputs) :
    (Run.exec (routeStep keymap) routes inputs).GrabbedBy ns
      (ButtonStroke.holder (routes.strokes inputs)) := by
  induction inputs using List.reverseRecOn with
  | nil => exact ⟨none, rfl, hclear⟩
  | append_singleton inputs route ih =>
    have hbefore := ih fun route hroute => hwithin route (List.mem_append_left _ hroute)
    have hsurfaces := exec_surfaces keymap routes inputs
    have hstep := hbefore.step keymap route fun surfaceRoute hsurface =>
      hwithin route (by simp) surfaceRoute (by rwa [hsurfaces] at hsurface)
    rw [stroke_congr hsurfaces] at hstep
    rw [Run.exec_snoc, strokes_snoc]
    cases hstroke : routes.stroke route with
    | none =>
      rw [hstroke] at hstep
      rw [Option.toList_none, List.append_nil]
      exact hstep
    | some stroke =>
      rw [hstroke] at hstep
      rw [Option.toList_some, ButtonStroke.holder_snoc]
      exact hstep

theorem receiver_button {button : UInt32} {pressed : Bool} {mask : UInt8 × UInt16}
    (hkind : route.request.kind = .pointerButton button pressed)
    (hmask : XCorePointerMapper.buttonMask button = some mask) :
    routes.receiver keymap surfaceRoute route.request =
      some (if pressed then
        (grabTarget surfaceRoute (routes.inputAuthority.activateButton surfaceRoute.namespaceId
          mask.1 ((routes.pointer route.request.seat).buttonState &&& 0xff)
          (implicitGrab surfaceRoute)).1).1
      else (target surfaceRoute (routes.inputAuthority.pointerGrab surfaceRoute.namespaceId)
        (surfaceRoute.client, surfaceRoute.window)).1) := by
  simp only [receiver, hkind, mapEvdevButton_fst, hmask, Option.map_some]

/-- A press goes to the client under it, a release to the client that has the pointer. -/
theorem GrabbedBy.sentTo (h : routes.GrabbedBy ns client)
    (hstroke : routes.stroke route = some stroke)
    (hns : ∀ surfaceRoute, routes.surfaces[route.request.targetSurface]? = some surfaceRoute →
      surfaceRoute.namespaceId = ns) :
    routes.sentTo keymap route =
      some (if stroke.pressed then stroke.client else client.getD stroke.client) := by
  obtain ⟨surfaceRoute, button, mask, hsurface, hkind, hmask, hclient⟩ := stroke_eq_some.mp hstroke
  obtain rfl := hns _ hsurface
  simp only [InputRoutes.sentTo, hsurface, Option.bind_some, h.thawed route,
    receiver_button hkind hmask]
  cases stroke.pressed with
  | true =>
    have hpress := (h.press stroke.button ((routes.pointer route.request.seat).buttonState &&& 0xff)
      (implicitGrab surfaceRoute) ⟨rfl, rfl⟩).1
    rw [if_pos rfl, if_pos rfl, hpress, hclient]
    rfl
  | false =>
    obtain ⟨grab, rfl, hentry⟩ := h
    simp only [XInputAuthorityState.pointerGrab, hentry, hclient]
    cases grab with
    | none => rfl
    | some grab => rfl

theorem sentTo_exec {before after : List XAuthorityRoutedInput} (keymap : XkbKeymap κ)
    (hclear : routes.inputAuthority.authority ns = {})
    (hwithin : routes.Within ns (before ++ route :: after))
    (hstroke : routes.stroke route = some stroke) :
    (Run.exec (routeStep keymap) routes before).sentTo keymap route =
      some (if stroke.pressed then stroke.client
        else (ButtonStroke.holder (routes.strokes before)).getD stroke.client) := by
  have hsurfaces := exec_surfaces keymap routes before
  have hgrabbed := grabbedBy_exec keymap hclear
    fun route hroute => hwithin route (List.mem_append_left _ hroute)
  refine hgrabbed.sentTo ((stroke_congr hsurfaces).trans hstroke) fun surfaceRoute hsurface => ?_
  rw [hsurfaces] at hsurface
  exact hwithin route (by simp) surfaceRoute hsurface

theorem strokes_drag {before between after : List XAuthorityRoutedInput}
    {down up : XAuthorityRoutedInput} {press release : ButtonStroke}
    (hdrag : routes.Drag inputs before between after down up press release) :
    routes.strokes (before ++ down :: between) =
      routes.strokes before ++ press :: routes.strokes between := by
  simp only [strokes, List.filterMap_append, List.filterMap_cons, hdrag.down]

/-- Every button is released at the client it was pressed at, exactly when no drag is disturbed:
the last stroke before the release is a press over the same client, or a release, and then the
button comes up over that client. -/
theorem paired_iff (hclear : routes.inputAuthority.authority ns = {})
    (hwithin : routes.Within ns inputs) :
    routes.Paired keymap inputs ↔ routes.Undisturbed inputs := by
  unfold Paired Undisturbed
  refine forall_congr' fun before => forall_congr' fun down => forall_congr' fun between =>
    forall_congr' fun up => forall_congr' fun after => forall_congr' fun press =>
    forall_congr' fun release => forall_congr' fun hdrag => ?_
  have hfirst : inputs = before ++ down :: (between ++ up :: after) := hdrag.inputs
  have hlast : inputs = (before ++ down :: between) ++ up :: after := by simp [hfirst]
  have hdown := sentTo_exec keymap hclear (hfirst ▸ hwithin) hdrag.down
  have hup := sentTo_exec keymap hclear (hlast ▸ hwithin) hdrag.up
  rw [hdrag.pressed, if_pos rfl] at hdown
  rw [hdrag.released, strokes_drag hdrag, ButtonStroke.holder_append (by simp)] at hup
  rw [hdown, hup]
  simp

/-- A button goes down or up over a surface. -/
def buttonInput (surface : SurfaceId) (button : UInt32) (pressed : Bool) : XAuthorityRoutedInput where
  request := {
    serial := 1
    seat := ⟨1⟩
    device := ⟨1⟩
    timeMsec := 2
    targetSurface := surface
    globalPosition := ⟨0, 0⟩
    localPosition := ⟨0, 0⟩
    kind := .pointerButton button pressed }
  delivery := none

/-- Two clients with a surface each. -/
def twoSurfaces : InputRoutes Unit :=
  (RouteSession.new 4 4 true).registry |>.registerSurface ⟨3⟩ ⟨10⟩ ⟨11, 1⟩ ⟨0x200001, 1⟩
    |>.registerSurface ⟨7⟩ ⟨10⟩ ⟨12, 1⟩ ⟨0x400001, 1⟩

theorem within_twoSurfaces (inputs : List XAuthorityRoutedInput) :
    twoSurfaces.Within ⟨10⟩ inputs := by
  intro route hroute surfaceRoute hsurface
  simp only [twoSurfaces, registerSurface, ExtTreeMap.getElem?_insert] at hsurface
  split at hsurface
  · cases hsurface
    rfl
  · split at hsurface
    · cases hsurface
      rfl
    · cases hsurface

/-- A button that goes down over one client may come up over another. -/
theorem paired_single_drag :
    twoSurfaces.Paired RouteSession.plainKeymap
      [buttonInput ⟨11, 1⟩ 272 true, buttonInput ⟨12, 1⟩ 272 false] := by
  refine (paired_iff rfl (within_twoSurfaces _)).mpr ?_
  intro before down between up after press release hdrag
  have hlength := congrArg List.length hdrag.inputs
  simp only [List.length_append, List.length_cons, List.length_nil] at hlength
  obtain rfl : between = [] := List.length_eq_zero_iff.mp (by omega)
  simp [strokes, ButtonStroke.holder, hdrag.pressed]

/-- The left button goes down over one client, the right one over another: the left one comes up at
the other client. -/
theorem second_press_takes_release :
    let inputs := [buttonInput ⟨11, 1⟩ 272 true, buttonInput ⟨12, 1⟩ 273 true,
      buttonInput ⟨11, 1⟩ 272 false]
    ¬ twoSurfaces.Paired RouteSession.plainKeymap inputs := by
  intro inputs hpaired
  have hsent := hpaired [] _ [_] _ [] ⟨1, true, ⟨3⟩⟩ ⟨1, false, ⟨3⟩⟩ ⟨rfl, by decide +kernel,
    by decide +kernel, rfl, rfl, rfl, by decide +kernel⟩
  revert hsent
  decide +kernel

end InputRoutes
end Sophia.Frontend
