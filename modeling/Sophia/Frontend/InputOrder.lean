import Sophia.Frontend.InputBroker
import Sophia.Lib.Lanes

/-! The order in which the inputs of one device of a namespace reach the clients. -/
namespace Sophia.Frontend

open Std Sophia.Protocol Sophia.Authority Sophia.Lanes

inductive InputDevice where
  | keyboard
  | pointer
  deriving DecidableEq, Repr

def XAuthorityRoutedInput.inputDevice (route : XAuthorityRoutedInput) : InputDevice :=
  match route.request.kind with
  | .key _ _ => .keyboard
  | .pointerMotion | .pointerButton _ _ => .pointer

/-- The namespace and the device of an input, where `home` gives the namespace of a surface. -/
def inputLane (home : SurfaceId → NamespaceId) (route : XAuthorityRoutedInput) :
    NamespaceId × InputDevice := (home route.request.targetSurface, route.inputDevice)

namespace RouteSession

variable {κ : Type}

/-- The part of the frozen queue a running drain has not come to yet. -/
def uninspected (session : RouteSession κ) : List XDeferredRoutedInput :=
  session.registry.frozenInput.take session.remaining

/-- The rest of the frozen queue, older than what the drain has not come to. -/
def putBackInput (session : RouteSession κ) : List XDeferredRoutedInput :=
  session.registry.frozenInput.drop session.remaining

/-- The inputs that wait, oldest first. -/
def pending (session : RouteSession κ) : List XAuthorityRoutedInput :=
  (session.putBackInput ++ session.inHand.toList ++ session.uninspected).map (·.route)

/-- The forwarded inputs, as they came out of the Engine's queue. -/
def forwardedInput (session : RouteSession κ) : List XAuthorityRoutedInput :=
  session.forwarded.map Prod.fst

def laneApart (home : SurfaceId → NamespaceId) (xs ys : List XDeferredRoutedInput) : Prop :=
  Apart (inputLane home) (xs.map (·.route)) (ys.map (·.route))

instance (home : SurfaceId → NamespaceId) (xs ys : List XDeferredRoutedInput) :
    Decidable (laneApart home xs ys) :=
  inferInstanceAs (Decidable (Apart (inputLane home) (xs.map (·.route)) (ys.map (·.route))))

/-- The next step of the call lets no input overtake an older one of its lane: a fresh input does
not pass those that wait, a thawed one does not pass those the drain put back, and a drain does not
end halfway through a lane. -/
def KeepsOrder (home : SurfaceId → NamespaceId) (keymap : XkbKeymap κ)
    (session : RouteSession κ) : RouteStage → Prop
  | .engineInput => ∀ route ∈ session.broker.routedInput.items.head?,
    session.registry.forwards keymap route = true →
      Apart (inputLane home) (session.registry.frozenInput.map (·.route)) [route]
  | .inspecting _ deferred =>
    (session.registry.surfaces[deferred.route.request.targetSurface]?).isNone = true →
      session.registry.canAcknowledge deferred.route.delivery = false →
        laneApart home session.putBackInput session.uninspected
  | .thawing _ deferred =>
    (session.registry.forwards keymap deferred.route = true →
      laneApart home session.putBackInput [deferred]) ∧
    (session.registry.completes keymap deferred.route = false →
      laneApart home session.putBackInput session.uninspected)
  | _ => True

/-- The actions under which inputs keep their order. -/
def Orderly (home : SurfaceId → NamespaceId) (keymap : XkbKeymap κ) (session : RouteSession κ) :
    BrokerAction → Prop
  | .advance => ∀ pass ∈ session.pass, session.KeepsOrder home keymap pass.stage
  | .registerSurface _ ns surface _ => ns = home surface
  | .disconnect client => ∀ deferred ∈ session.uninspected, deferred.client ≠ client
  | _ => True

instance (home : SurfaceId → NamespaceId) (keymap : XkbKeymap κ) (session : RouteSession κ) :
    (stage : RouteStage) → Decidable (session.KeepsOrder home keymap stage)
  | .engineInput => inferInstanceAs (Decidable (∀ route ∈ _, _ → _))
  | .inspecting _ _ => inferInstanceAs (Decidable (_ → _ → laneApart home _ _))
  | .thawing _ _ => inferInstanceAs (Decidable ((_ → laneApart home _ _) ∧ (_ → laneApart home _ _)))
  | .clientInput | .control | .drain | .popping _ | .puttingBack _ _ => isTrue trivial

instance (home : SurfaceId → NamespaceId) (keymap : XkbKeymap κ) (session : RouteSession κ) :
    (action : BrokerAction) → Decidable (session.Orderly home keymap action)
  | .advance => inferInstanceAs (Decidable (∀ pass ∈ session.pass, _))
  | .registerSurface _ ns surface _ => inferInstanceAs (Decidable (ns = home surface))
  | .disconnect _ => inferInstanceAs (Decidable (∀ deferred ∈ session.uninspected, _))
  | .sendRoutedInput _ | .sendInput _ | .sendControl _ | .routePending | .inputRequest _
  | .registerClient _ | .receiveInput _ _ | .receiveControl _ _ | .hangUp _ | .sendDelivery _ _ _
  | .receiveDeliveries _ => isTrue trivial

structure Ordered (home : SurfaceId → NamespaceId) (session : RouteSession κ) : Prop where
  homed : ∀ surface route, session.registry.surfaces[surface]? = some route →
    route.namespaceId = home surface
  inOrder : InOrder (inputLane home) session.forwardedInput session.pending session.received
  inspectable : session.remaining ≤ session.registry.frozenInput.length

variable {home : SurfaceId → NamespaceId} {keymap : XkbKeymap κ} {session next : RouteSession κ}
  {pass : RoutePass} {remaining : ℕ} {deferred : XDeferredRoutedInput}

theorem ordered_new (capacity deliveryCapacity : ℕ) (acknowledges : Bool) :
    (new capacity deliveryCapacity acknowledges : RouteSession κ).Ordered home where
  homed surface route h := by simp [new, registry] at h
  inOrder := inOrder_nil
  inspectable := Nat.zero_le _

theorem pending_eq (hremaining : session.remaining = 0) (hhand : session.inHand = none) :
    session.pending = session.registry.frozenInput.map (·.route) := by
  simp [pending, putBackInput, uninspected, hremaining, hhand]

@[simp] theorem pending_finish {result : Except XServerFrontendRouteError UInt64} :
    (session.finish result).pending = session.registry.frozenInput.map (·.route) :=
  pending_eq rfl rfl

/-- What neither receives nor forwards may still discard inputs that wait. -/
theorem Ordered.discard (h : session.Ordered home)
    (hsurfaces : next.registry.surfaces = session.registry.surfaces)
    (hreceived : next.received = session.received) (hforwarded : next.forwarded = session.forwarded)
    (hpending : next.pending.Sublist session.pending)
    (hinspectable : next.remaining ≤ next.registry.frozenInput.length) : next.Ordered home where
  homed := by
    rw [hsurfaces]
    exact h.homed
  inOrder := by
    rw [forwardedInput, hforwarded, hreceived]
    exact h.inOrder.discard hpending
  inspectable := hinspectable

/-- A step outside the drain that leaves the frozen queue alone. -/
theorem Ordered.idle (h : session.Ordered home) (hhand : session.inHand = none)
    (hremaining : session.remaining = 0)
    (hsurfaces : next.registry.surfaces = session.registry.surfaces)
    (hfrozen : next.registry.frozenInput = session.registry.frozenInput)
    (hreceived : next.received = session.received) (hforwarded : next.forwarded = session.forwarded)
    (hnextHand : next.inHand = none) (hnextRemaining : next.remaining = 0) : next.Ordered home := by
  refine h.discard hsurfaces hreceived hforwarded ?_ (by simp [hnextRemaining])
  rw [pending_eq hremaining hhand, pending_eq hnextRemaining hnextHand, hfrozen]

/-- A step that leaves the frozen queue, the drain and what it counts alone. -/
theorem Ordered.congr (h : session.Ordered home)
    (hsurfaces : next.registry.surfaces = session.registry.surfaces)
    (hfrozen : next.registry.frozenInput = session.registry.frozenInput)
    (hpass : next.pass = session.pass)
    (hreceived : next.received = session.received)
    (hforwarded : next.forwarded = session.forwarded) : next.Ordered home := by
  have hremaining : next.remaining = session.remaining := by simp only [RouteSession.remaining, hpass]
  have hhand : next.inHand = session.inHand := by simp only [inHand, hpass]
  refine h.discard hsurfaces hreceived hforwarded ?_ ?_
  · simp only [pending, putBackInput, uninspected, hremaining, hhand, hfrozen]
    exact List.Sublist.refl _
  · rw [hremaining, hfrozen]
    exact h.inspectable

theorem Ordered.routeClient (h : session.Ordered home) (hpass : session.pass = some pass)
    (hstage : pass.stage = .clientInput) : (session.routeClient pass).Ordered home := by
  obtain ⟨hhand, hremaining⟩ := not_draining hpass (by rw [hstage]; rfl) (by rw [hstage]; rfl)
  simp only [RouteSession.routeClient]
  split
  · exact h.idle hhand hremaining rfl rfl rfl rfl rfl rfl
  · rename_i event rest hitems
    have hsurfaces := @InputRoutes.routeInput_surfaces _ session.registry event
    have hfrozen := @InputRoutes.routeInput_frozenInput _ session.registry event
    simp only [registry] at hsurfaces hfrozen ⊢
    generalize session.broker.registry.routeInput event = result at hsurfaces hfrozen ⊢
    rcases result with ⟨error | _, routed⟩
    · have hsent := @InputRoutes.sendInputDelivery_surfaces _ routed event.client event.delivery
        .routeRejected
      have hkept := @InputRoutes.sendInputDelivery_frozenInput _ routed event.client
        event.delivery .routeRejected
      simp only
      generalize routed.sendInputDelivery event.client event.delivery .routeRejected = sent
        at hsent hkept ⊢
      rcases sent with ⟨full | _, sent⟩
      · exact h.idle hhand hremaining (hsent.trans hsurfaces) (hkept.trans hfrozen) rfl rfl rfl rfl
      · exact h.idle hhand hremaining (hsent.trans hsurfaces) (hkept.trans hfrozen) rfl rfl rfl rfl
    · exact h.idle hhand hremaining hsurfaces hfrozen rfl rfl rfl rfl

theorem Ordered.routeControl (h : session.Ordered home) (hpass : session.pass = some pass)
    (hstage : pass.stage = .control) : (session.routeControl pass).Ordered home := by
  obtain ⟨hhand, hremaining⟩ := not_draining hpass (by rw [hstage]; rfl) (by rw [hstage]; rfl)
  simp only [RouteSession.routeControl]
  split
  · exact h.idle hhand hremaining rfl rfl rfl rfl rfl rfl
  · rename_i command rest hitems
    obtain ⟨clients, hroute⟩ := @InputRoutes.routeControl_eq _ session.registry command
    simp only [registry] at hroute ⊢
    generalize session.broker.registry.routeControl command = result at hroute ⊢
    rcases result with ⟨error | _, routed⟩
    · obtain rfl := hroute
      exact h.idle hhand hremaining rfl rfl rfl rfl rfl rfl
    · obtain rfl := hroute
      exact h.idle hhand hremaining rfl rfl rfl rfl rfl rfl

theorem Ordered.drain (h : session.Ordered home) (hpass : session.pass = some pass)
    (hstage : pass.stage = .drain) (thawed : UInt64) : (session.enter { pass with
      thawed
      stage := .popping session.registry.frozenInput.length }).Ordered home := by
  obtain ⟨hhand, hremaining⟩ := not_draining hpass (by rw [hstage]; rfl) (by rw [hstage]; rfl)
  refine h.discard rfl rfl rfl ?_ (Nat.le_refl _)
  rw [pending_eq hremaining hhand]
  simp [pending, putBackInput, uninspected, RouteStage.remaining, RouteStage.inHand]

/-- The drain ends when it has come to everything, or found the queue empty. -/
theorem Ordered.endDrain (h : session.Ordered home) (hhand : session.inHand = none)
    (hdone : session.uninspected = []) : (session.endDrain pass).Ordered home := by
  have hpending : session.pending = session.registry.frozenInput.map (·.route) := by
    have hall := List.take_append_drop session.remaining session.registry.frozenInput
    rw [show session.registry.frozenInput.take session.remaining = [] from hdone,
      List.nil_append] at hall
    simp [pending, putBackInput, hdone, hhand, hall]
  simp only [RouteSession.endDrain]
  split
  · refine h.discard rfl rfl rfl ?_ (Nat.zero_le _)
    rw [hpending, pending_eq rfl rfl]
    exact List.Sublist.refl _
  · refine h.discard rfl rfl rfl ?_ (Nat.zero_le _)
    rw [hpending, pending_finish]

theorem Ordered.popFrozen (h : session.Ordered home) (hpass : session.pass = some pass)
    (hstage : pass.stage = .popping remaining) :
    (session.popFrozen pass remaining).Ordered home := by
  have hhand := inHand_of hpass
  have hremaining := remaining_of hpass
  rw [hstage] at hhand hremaining
  cases remaining with
  | zero => exact h.endDrain hhand (by rw [uninspected, hremaining]; exact List.take_zero)
  | succ remaining =>
    simp only [RouteSession.popFrozen]
    split
    · rename_i hempty
      exact h.endDrain hhand (by rw [uninspected, hempty, List.take_nil])
    · rename_i deferred rest hfrozen
      have hinspectable := h.inspectable
      rw [hremaining, hfrozen] at hinspectable
      refine h.discard rfl rfl rfl ?_ (Nat.le_of_succ_le_succ hinspectable)
      have hpending : session.pending =
          (rest.drop remaining ++ [deferred] ++ rest.take remaining).map (·.route) := by
        simp [pending, putBackInput, uninspected, hremaining, hhand, hfrozen,
          RouteStage.remaining, RouteStage.inHand]
      rw [hpending]
      exact List.Sublist.refl _

/-- The frozen queue and the input in hand, in the stages that have one. -/
theorem pending_of_inHand (hhand : session.inHand = some deferred) :
    session.pending = session.putBackInput.map (·.route) ++ deferred.route ::
      session.uninspected.map (·.route) := by
  simp [pending, hhand]

/-- An input put back goes behind the older ones of the frozen queue. -/
theorem Ordered.requeue (h : session.Ordered home) (hpass : session.pass = some pass)
    (hhand : pass.stage.inHand = some deferred)
    (hsurfaces : next.registry.surfaces = session.registry.surfaces)
    (hreceived : next.received = session.received) (hforwarded : next.forwarded = session.forwarded)
    (hfrozen : ∃ client, next.registry.frozenInput =
      session.registry.frozenInput ++ [⟨client, deferred.route⟩])
    (hnextHand : next.inHand = none) (hnextRemaining : next.remaining = pass.stage.remaining) :
    next.Ordered home := by
  obtain ⟨client, hfrozen⟩ := hfrozen
  have hinspectable := h.inspectable
  rw [remaining_of hpass] at hinspectable
  refine h.discard hsurfaces hreceived hforwarded ?_ ?_
  · have htake : next.uninspected = session.uninspected := by
      rw [uninspected, uninspected, hnextRemaining, hfrozen, remaining_of hpass]
      exact List.take_append_of_le_length hinspectable
    have hdrop : next.putBackInput = session.putBackInput ++ [⟨client, deferred.route⟩] := by
      rw [putBackInput, putBackInput, hnextRemaining, hfrozen, remaining_of hpass]
      exact List.drop_append_of_le_length hinspectable
    have hpending : next.pending = session.pending := by
      rw [pending_of_inHand ((inHand_of hpass).trans hhand)]
      simp [pending, htake, hdrop, hnextHand]
    rw [hpending]
  · rw [hnextRemaining, hfrozen, List.length_append]
    omega

theorem Ordered.putBack (h : session.Ordered home) (hpass : session.pass = some pass)
    (hstage : pass.stage = .puttingBack remaining deferred) :
    (session.putBack pass remaining deferred).Ordered home := by
  refine h.requeue hpass (by rw [hstage]; rfl) rfl rfl rfl ⟨deferred.client, rfl⟩ rfl ?_
  rw [hstage]
  rfl

/-- A drain that ends early gives up what it has in hand. -/
theorem Ordered.breakOff (h : session.Ordered home) (hhand : session.inHand = some deferred)
    (hapart : laneApart home session.putBackInput session.uninspected)
    (hsurfaces : next.registry.surfaces = session.registry.surfaces)
    (hfrozen : next.registry.frozenInput = session.registry.frozenInput)
    (hreceived : next.received = session.received) (hforwarded : next.forwarded = session.forwarded)
    (hpass : next.pass = none) : next.Ordered home where
  homed := by
    rw [hsurfaces]
    exact h.homed
  inOrder := by
    have hpending : next.pending =
        session.uninspected.map (·.route) ++ session.putBackInput.map (·.route) := by
      rw [pending_eq (by simp [RouteSession.remaining, hpass]) (by simp [inHand, hpass]), hfrozen,
        ← List.map_append]
      exact congrArg _ (List.take_append_drop _ _).symm
    have hkept := h.inOrder
    rw [pending_of_inHand hhand] at hkept
    rw [forwardedInput, hforwarded, hreceived, hpending]
    exact (hkept.discard (by simp)).swap hapart
  inspectable := by simp [RouteSession.remaining, hpass]

/-- The input in hand goes away without being forwarded. -/
theorem Ordered.dropHand (h : session.Ordered home) (hpass : session.pass = some pass)
    (hhand : pass.stage.inHand = some deferred)
    (hsurfaces : next.registry.surfaces = session.registry.surfaces)
    (hfrozen : next.registry.frozenInput = session.registry.frozenInput)
    (hreceived : next.received = session.received) (hforwarded : next.forwarded = session.forwarded)
    (hnextHand : next.inHand = none) (hnextRemaining : next.remaining = pass.stage.remaining) :
    next.Ordered home := by
  have hremaining := remaining_of hpass
  refine h.discard hsurfaces hreceived hforwarded ?_ ?_
  · rw [pending_of_inHand ((inHand_of hpass).trans hhand)]
    simp [pending, putBackInput, uninspected, hnextHand, hnextRemaining, hremaining, hfrozen]
  · rw [hnextRemaining, hfrozen, ← hremaining]
    exact h.inspectable

theorem Ordered.inspect (h : session.Ordered home) (hpass : session.pass = some pass)
    (hstage : pass.stage = .inspecting remaining deferred)
    (hok : session.KeepsOrder home keymap pass.stage) :
    (session.inspect pass remaining deferred).Ordered home := by
  have hhand : pass.stage.inHand = some deferred := by rw [hstage]; rfl
  have hremaining : pass.stage.remaining = remaining := by rw [hstage]; rfl
  rw [hstage] at hok
  simp only [RouteSession.inspect]
  split
  · rename_i hsurface
    have hresult := @InputRoutes.sendInputDelivery_ok _ session.registry deferred.client
      deferred.route.delivery .routeRejected
    have hsurfaces := @InputRoutes.sendInputDelivery_surfaces _ session.registry deferred.client
      deferred.route.delivery .routeRejected
    have hfrozen := @InputRoutes.sendInputDelivery_frozenInput _ session.registry deferred.client
      deferred.route.delivery .routeRejected
    generalize session.registry.sendInputDelivery deferred.client deferred.route.delivery
      .routeRejected = sent at hresult hsurfaces hfrozen ⊢
    rcases sent with ⟨error | _, sent⟩
    · refine h.breakOff ((inHand_of hpass).trans hhand) ?_ hsurfaces hfrozen rfl rfl rfl
      refine hok (by rw [hsurface]; rfl) (Bool.eq_false_iff.mpr fun hack => ?_)
      cases hresult.mpr hack
    · exact h.dropHand hpass hhand hsurfaces hfrozen rfl rfl rfl hremaining.symm
  · have hkept {stage : RouteStage} (hhand' : stage.inHand = some deferred)
        (hremaining' : stage.remaining = remaining) :
        (session.enter (pass.goTo stage)).Ordered home := by
      have hinspectable := h.inspectable
      rw [remaining_of hpass, hremaining] at hinspectable
      refine h.discard rfl rfl rfl ?_ (by simpa [hremaining', RoutePass.goTo] using hinspectable)
      have hhand'' : (session.enter (pass.goTo stage)).inHand = some deferred := hhand'
      rw [pending_of_inHand ((inHand_of hpass).trans hhand), pending_of_inHand hhand'']
      simp [putBackInput, uninspected, remaining_of hpass, hremaining, hremaining', RoutePass.goTo]
    split
    · exact hkept rfl rfl
    · exact hkept rfl rfl

/-- The input in hand reaches a client before those that still wait. -/
theorem Ordered.forwardHand (h : session.Ordered home) (hpass : session.pass = some pass)
    (hhand : pass.stage.inHand = some deferred)
    (hapart : laneApart home session.putBackInput [deferred])
    (hsurfaces : next.registry.surfaces = session.registry.surfaces)
    (hfrozen : next.registry.frozenInput = session.registry.frozenInput)
    (hreceived : next.received = session.received)
    (hforwarded : next.forwardedInput = session.forwardedInput ++ [deferred.route])
    (hnextHand : next.inHand = none) (hnextRemaining : next.remaining = pass.stage.remaining) :
    next.Ordered home where
  homed := by
    rw [hsurfaces]
    exact h.homed
  inOrder := by
    have hkept := h.inOrder
    rw [pending_of_inHand ((inHand_of hpass).trans hhand)] at hkept
    have hnext := hkept.deliver hapart
    rw [hforwarded, hreceived]
    simpa [pending, putBackInput, uninspected, hnextHand, hnextRemaining, remaining_of hpass,
      hfrozen] using hnext
  inspectable := by
    rw [hnextRemaining, hfrozen, ← remaining_of hpass]
    exact h.inspectable

theorem Ordered.routeThawed (h : session.Ordered home) (hpass : session.pass = some pass)
    (hstage : pass.stage = .thawing remaining deferred)
    (hok : session.KeepsOrder home keymap pass.stage) :
    (session.routeThawed keymap pass remaining deferred).Ordered home := by
  have hhand : pass.stage.inHand = some deferred := by rw [hstage]; rfl
  have hremaining : pass.stage.remaining = remaining := by rw [hstage]; rfl
  rw [hstage] at hok
  obtain ⟨hforwards, hcompletes⟩ := hok
  have heffect := @InputRoutes.engineEffect _ session.registry keymap deferred.route
  rw [InputRoutes.forwards_iff] at hforwards
  rw [← Bool.not_eq_true, InputRoutes.completes_iff] at hcompletes
  simp only [RouteSession.routeThawed]
  generalize session.registry.routeEngineInput keymap deferred.route = result
    at heffect hforwards hcompletes ⊢
  rcases result with ⟨error | disposition, routed⟩
  · obtain ⟨client, hresult, -⟩ | ⟨-, hfrozen⟩ := heffect.frozenInput
    · cases hresult
    · exact h.breakOff ((inHand_of hpass).trans hhand) (hcompletes (by simp)) heffect.surfaces
        hfrozen rfl rfl rfl
  · obtain ⟨client, hresult, hfrozen⟩ | ⟨hresult, hfrozen⟩ := heffect.frozenInput
    · cases hresult
      exact h.requeue hpass hhand heffect.surfaces rfl rfl ⟨client, hfrozen⟩ rfl hremaining.symm
    · cases disposition with
      | deferred => exact absurd rfl hresult
      | rejected =>
        exact h.dropHand hpass hhand heffect.surfaces hfrozen rfl rfl rfl hremaining.symm
      | forwarded event =>
        refine h.forwardHand hpass hhand (hforwards ⟨event, rfl⟩) heffect.surfaces hfrozen rfl ?_
          rfl hremaining.symm
        simp [forwardedInput, record, enter, setRegistry]

/-- A fresh input is dropped, waits behind the others, or passes none of its lane. -/
theorem Ordered.fresh {route : XAuthorityRoutedInput} (h : session.Ordered home)
    (hhand : session.inHand = none) (hremaining : session.remaining = 0)
    (hsurfaces : next.registry.surfaces = session.registry.surfaces)
    (hreceived : next.received = session.received ++ [route])
    (hnextHand : next.inHand = none) (hnextRemaining : next.remaining = 0)
    (hroute : next.forwardedInput = session.forwardedInput ∧
        (next.registry.frozenInput = session.registry.frozenInput ∨
          ∃ client, next.registry.frozenInput = session.registry.frozenInput ++ [⟨client, route⟩]) ∨
      next.forwardedInput = session.forwardedInput ++ [route] ∧
        next.registry.frozenInput = session.registry.frozenInput ∧
        Apart (inputLane home) (session.registry.frozenInput.map (·.route)) [route]) :
    next.Ordered home where
  homed := by
    rw [hsurfaces]
    exact h.homed
  inOrder := by
    have harrived := InOrder.arrive (x := route) h.inOrder
    rw [pending_eq hremaining hhand] at harrived
    rw [hreceived, pending_eq hnextRemaining hnextHand]
    rcases hroute with ⟨hforwarded, hfrozen | ⟨client, hfrozen⟩⟩ | ⟨hforwarded, hfrozen, hapart⟩
    · rw [hforwarded, hfrozen]
      exact harrived.discard (List.sublist_append_left _ _)
    · rw [hforwarded, hfrozen, List.map_append]
      exact harrived
    · rw [hforwarded, hfrozen]
      simpa using harrived.deliver hapart
  inspectable := by simp [hnextRemaining]

theorem Ordered.routeEngine (h : session.Ordered home) (hpass : session.pass = some pass)
    (hstage : pass.stage = .engineInput) (hok : session.KeepsOrder home keymap pass.stage) :
    (session.routeEngine keymap pass).Ordered home := by
  obtain ⟨hhand, hremaining⟩ := not_draining hpass (by rw [hstage]; rfl) (by rw [hstage]; rfl)
  rw [hstage] at hok
  simp only [RouteSession.routeEngine]
  split
  · exact h.idle hhand hremaining rfl rfl rfl rfl rfl rfl
  · rename_i route rest hitems
    have heffect := @InputRoutes.engineEffect _ session.registry keymap route
    have hforwards := hok route (by simp [hitems])
    rw [InputRoutes.forwards_iff] at hforwards
    simp only [registry] at heffect hforwards ⊢
    generalize session.broker.registry.routeEngineInput keymap route = result
      at heffect hforwards ⊢
    rcases result with ⟨error | disposition, routed⟩
    · obtain ⟨client, hresult, -⟩ | ⟨-, hfrozen⟩ := heffect.frozenInput
      · cases hresult
      · simp only
        split
        · exact h.fresh hhand hremaining heffect.surfaces rfl rfl rfl
            (Or.inl ⟨rfl, Or.inl hfrozen⟩)
        · exact h.fresh hhand hremaining heffect.surfaces rfl rfl rfl
            (Or.inl ⟨rfl, Or.inl hfrozen⟩)
    · obtain ⟨client, hresult, hfrozen⟩ | ⟨hresult, hfrozen⟩ := heffect.frozenInput
      · cases hresult
        exact h.fresh hhand hremaining heffect.surfaces rfl rfl rfl
          (Or.inl ⟨rfl, Or.inr ⟨client, hfrozen⟩⟩)
      · cases disposition with
        | deferred => exact absurd rfl hresult
        | rejected =>
          exact h.fresh hhand hremaining heffect.surfaces rfl rfl rfl
            (Or.inl ⟨rfl, Or.inl hfrozen⟩)
        | forwarded event =>
          refine h.fresh hhand hremaining heffect.surfaces rfl rfl rfl
            (Or.inr ⟨?_, hfrozen, hforwards ⟨event, rfl⟩⟩)
          simp [forwardedInput, record, enter, setRegistry]

theorem Ordered.advance (h : session.Ordered home) (hpass : session.pass = some pass)
    (hok : session.KeepsOrder home keymap pass.stage) :
    (session.advance keymap pass).Ordered home := by
  cases hstage : pass.stage with
  | engineInput =>
    simp only [RouteSession.advance, hstage]
    exact h.routeEngine hpass hstage hok
  | clientInput =>
    simp only [RouteSession.advance, hstage]
    exact h.routeClient hpass hstage
  | control =>
    simp only [RouteSession.advance, hstage]
    exact h.routeControl hpass hstage
  | drain =>
    simp only [RouteSession.advance, hstage]
    exact h.drain hpass hstage 0
  | popping remaining =>
    simp only [RouteSession.advance, hstage]
    exact h.popFrozen hpass hstage
  | inspecting remaining deferred =>
    simp only [RouteSession.advance, hstage]
    exact h.inspect hpass hstage hok
  | puttingBack remaining deferred =>
    simp only [RouteSession.advance, hstage]
    exact h.putBack hpass hstage
  | thawing remaining deferred =>
    simp only [RouteSession.advance, hstage]
    exact h.routeThawed hpass hstage hok

/-- A client goes; of the frozen queue only what was put back may go with it. -/
theorem Ordered.disconnect (h : session.Ordered home) (client : XServerFrontendClientId)
    (hkept : ∀ deferred ∈ session.uninspected, deferred.client ≠ client) :
    (session.setRegistry (session.registry.dropRegistration client)).Ordered home := by
  let keep : XDeferredRoutedInput → Bool := fun deferred => deferred.client ≠ client
  have hsplit : session.registry.frozenInput.filter keep =
      session.uninspected ++ session.putBackInput.filter keep := by
    have hall : session.uninspected.filter keep = session.uninspected :=
      List.filter_eq_self.mpr fun deferred hmem => by simpa [keep] using hkept deferred hmem
    rw [← hall, ← List.filter_append]
    exact congrArg _ (List.take_append_drop _ _).symm
  have hlength : session.uninspected.length = session.remaining := by
    rw [uninspected, List.length_take]
    exact Nat.min_eq_left h.inspectable
  have htake : (session.setRegistry (session.registry.dropRegistration client)).uninspected =
      session.uninspected := by
    change (session.registry.frozenInput.filter keep).take session.remaining = _
    rw [hsplit, ← hlength, List.take_left]
  have hdrop : (session.setRegistry (session.registry.dropRegistration client)).putBackInput =
      session.putBackInput.filter keep := by
    change (session.registry.frozenInput.filter keep).drop session.remaining = _
    rw [hsplit, ← hlength, List.drop_left]
  constructor
  · intro surface route hroute
    refine h.homed surface route ?_
    simp only [setRegistry, registry, InputRoutes.dropRegistration] at hroute
    rw [ExtTreeMap.getElem?_filter'] at hroute
    exact (Option.filter_eq_some_iff.mp hroute).1
  · refine h.inOrder.discard ?_
    rw [pending, pending, htake, hdrop]
    refine List.Sublist.map _ (List.Sublist.append (List.Sublist.append ?_ ?_) ?_)
    · exact List.filter_sublist
    · exact List.Sublist.refl _
    · exact List.Sublist.refl _
  · change session.remaining ≤ (session.registry.frozenInput.filter keep).length
    rw [hsplit, List.length_append, hlength]
    omega

theorem Ordered.step {action : BrokerAction} (h : session.Ordered home)
    (hok : session.Orderly home keymap action) : (session.step keymap action).Ordered home := by
  cases action with
  | sendRoutedInput route => exact h.congr rfl rfl rfl rfl rfl
  | sendInput event => exact h.congr rfl rfl rfl rfl rfl
  | sendControl command => exact h.congr rfl rfl rfl rfl rfl
  | routePending =>
    simp only [RouteSession.step]
    split
    · rename_i hpass
      refine h.idle ?_ ?_ rfl rfl rfl rfl rfl rfl
      · simp [inHand, hpass]
      · simp [remaining, hpass]
    · exact h
  | advance =>
    simp only [RouteSession.step]
    split
    · exact h
    · rename_i pass hpass
      exact h.advance hpass (hok pass hpass)
  | inputRequest request => exact h.congr rfl rfl rfl rfl rfl
  | registerClient client =>
    simp only [RouteSession.step]
    split
    · rename_i registered hregistered
      obtain ⟨clients, rfl⟩ := InputRoutes.registerClient_eq hregistered
      exact h.congr rfl rfl rfl rfl rfl
    · exact h
  | registerSurface client ns surface window =>
    refine ⟨?_, h.inOrder, h.inspectable⟩
    intro other route hroute
    simp only [RouteSession.step, setRegistry, registry, InputRoutes.registerSurface,
      ExtTreeMap.getElem?_insert, Std.compare_eq_iff_eq] at hroute
    split at hroute
    · rename_i hsurface
      cases hroute
      rw [← hsurface]
      exact hok
    · exact h.homed other route hroute
  | disconnect client => exact h.disconnect client hok
  | receiveInput client n =>
    obtain ⟨clients, hnext⟩ := session.registry.modifyClient_eq client
      fun senders => { senders with input := senders.input.receive n }
    simp only [RouteSession.step, hnext]
    exact h.congr rfl rfl rfl rfl rfl
  | receiveControl client n =>
    obtain ⟨clients, hnext⟩ := session.registry.modifyClient_eq client
      fun senders => { senders with control := senders.control.receive n }
    simp only [RouteSession.step, hnext]
    exact h.congr rfl rfl rfl rfl rfl
  | hangUp client =>
    obtain ⟨clients, hnext⟩ := session.registry.modifyClient_eq client
      fun senders => ⟨senders.input.hangUp, senders.control.hangUp⟩
    simp only [RouteSession.step, hnext]
    exact h.congr rfl rfl rfl rfl rfl
  | sendDelivery client delivery flushed =>
    exact h.congr InputRoutes.sendInputDelivery_surfaces InputRoutes.sendInputDelivery_frozenInput
      rfl rfl rfl
  | receiveDeliveries n => exact h.congr rfl rfl rfl rfl rfl

/-- In a run whose steps let no input overtake an older one of its device and namespace, the inputs
the broker forwards come out as they came in, before those that still wait. -/
theorem input_order {capacity deliveryCapacity : ℕ} {acknowledges : Bool}
    {actions : List BrokerAction}
    (hok : Run.Guarded (step keymap) (Orderly home keymap)
      (new capacity deliveryCapacity acknowledges) actions) :
    let session := Run.exec (step keymap) (new capacity deliveryCapacity acknowledges) actions
    (∀ surface route, session.registry.surfaces[surface]? = some route →
      route.namespaceId = home surface) ∧
    InOrder (inputLane home) session.forwardedInput session.pending session.received := by
  have hordered : (Run.exec (step keymap) (new capacity deliveryCapacity acknowledges)
      actions).Ordered home :=
    Run.invariant (ordered_new capacity deliveryCapacity acknowledges)
      (fun _ _ hok h => h.step hok) hok
  exact ⟨hordered.homed, hordered.inOrder⟩

/-- A client with one surface takes a synchronous keyboard grab, and the key 30 is deferred. -/
def deferredKey : List BrokerAction :=
  [.registerClient ⟨3⟩, .registerSurface ⟨3⟩ ⟨10⟩ ⟨11, 1⟩ ⟨0x200001, 1⟩,
    .inputRequest (.grabKeyboard ⟨10⟩ ⟨3, ⟨0x200001, 1⟩, false, 1, 0, 0⟩),
    .sendRoutedInput (keyPress 30), .routePending] ++ List.replicate 16 .advance

/-- Thawed, the key is forwarded before the next one is pressed. -/
theorem input_order_thawed :
    let session := Run.exec (step plainKeymap) (new 2 2 true) (deferredKey ++
      [.inputRequest (.allowEvents ⟨10⟩ 3 3), .routePending] ++ List.replicate 16 .advance)
    session.forwarded.length = 1 ∧
    InOrder (inputLane fun _ => ⟨10⟩) session.forwardedInput session.pending session.received :=
  ⟨by decide +kernel, (input_order (by decide +kernel)).2⟩

/-- A key pressed after the thaw is forwarded before the key that waits for it. -/
theorem fresh_key_overtakes_deferred :
    let session := Run.exec (step plainKeymap) (new 2 2 true) (deferredKey ++
      [.inputRequest (.allowEvents ⟨10⟩ 3 3), .sendRoutedInput (keyPress 48), .routePending] ++
      List.replicate 16 .advance)
    session.received = [keyPress 30, keyPress 48] ∧
    session.forwardedInput = [keyPress 48, keyPress 30] ∧
    ¬ InOrder (inputLane fun _ => ⟨10⟩) session.forwardedInput session.pending session.received :=
  ⟨by decide +kernel, by decide +kernel,
    fun h => absurd (h (⟨10⟩, .keyboard)) (by decide +kernel)⟩

end RouteSession
end Sophia.Frontend
