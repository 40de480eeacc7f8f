import Sophia.Frontend.InputBroker
import Sophia.Lib.History

/-! What becomes of the inputs that carry a delivery id. -/
namespace Sophia.Frontend

open Std Sophia.Protocol Sophia.Authority

namespace InputRoutes

variable {κ : Type}

/-- The Engine listens to its acknowledgement queue and has room there. -/
def acknowledgementsOpen (routes : InputRoutes κ) : Bool :=
  routes.inputDelivery.any fun queue =>
    queue.listening && decide (queue.items.length < routes.inputDeliveryCapacity)

/-- The surface of the input is known, and where the input is neither frozen nor unmapped its
receiver takes it. -/
def keeps (routes : InputRoutes κ) (keymap : XkbKeymap κ) (route : XAuthorityRoutedInput) : Bool :=
  (routes.surfaces[route.request.targetSurface]?).any fun surfaceRoute =>
    routes.routeIsFrozen route surfaceRoute.namespaceId ||
      (routes.receiver keymap surfaceRoute route.request).all routes.clientReady

/-- One for an input with this id, nothing for any other. -/
def carries (carried : Option XAuthorityInputDeliveryId) (delivery : XAuthorityInputDeliveryId) :
    ℕ := if carried = some delivery then 1 else 0

/-- How many inputs with this id wait in the frozen queue. -/
def waiting (routes : InputRoutes κ) (delivery : XAuthorityInputDeliveryId) : ℕ :=
  routes.frozenInput.countP fun deferred => deferred.route.delivery = some delivery

/-- How many rejections were sent for this id. -/
def rejections (routes : InputRoutes κ) (delivery : XAuthorityInputDeliveryId) : ℕ :=
  routes.deliveries.countP fun sent => sent.delivery = delivery ∧ sent.outcome = .routeRejected

/-- What routing an input adds to the client queues. -/
def forwardedBy (delivery : XAuthorityInputDeliveryId) :
    Except XServerFrontendRouteError InputDisposition → ℕ
  | .ok (.forwarded event) => carries event.delivery delivery
  | _ => 0

variable {routes next : InputRoutes κ} {keymap : XkbKeymap κ} {route : XAuthorityRoutedInput}
  {client : XServerFrontendClientId} {carried : Option XAuthorityInputDeliveryId}
  {delivery : XAuthorityInputDeliveryId}

theorem waiting_append {deferred : List XDeferredRoutedInput} {waits : XDeferredRoutedInput}
    (h : next.frozenInput = deferred ++ [waits]) :
    next.waiting delivery =
      deferred.countP (fun deferred => deferred.route.delivery = some delivery) +
        carries waits.route.delivery delivery := by
  simp [waiting, h, List.countP_append, carries, List.countP_singleton]

theorem SameQueues.waiting (h : routes.SameQueues next) :
    next.waiting delivery = routes.waiting delivery := by
  simp only [InputRoutes.waiting, h.frozenInput]

theorem SameQueues.rejections (h : routes.SameQueues next) :
    next.rejections delivery = routes.rejections delivery := by
  simp only [InputRoutes.rejections, h.deliveries]

theorem SameQueues.acknowledgementsOpen (h : routes.SameQueues next) :
    next.acknowledgementsOpen = routes.acknowledgementsOpen := by
  simp only [InputRoutes.acknowledgementsOpen, h.inputDelivery, h.inputDeliveryCapacity]

@[simp] theorem waiting_sendInputDelivery {outcome : XAuthorityInputDeliveryOutcome} :
    (routes.sendInputDelivery client carried outcome).2.waiting delivery =
      routes.waiting delivery := by
  simp only [waiting, sendInputDelivery_frozenInput]

@[simp] theorem waiting_routeInput {event : XAuthorityClientInputEvent} :
    (routes.routeInput event).2.waiting delivery = routes.waiting delivery := by
  simp only [waiting, routeInput_frozenInput]

@[simp] theorem rejections_routeInput {event : XAuthorityClientInputEvent} :
    (routes.routeInput event).2.rejections delivery = routes.rejections delivery := by
  simp only [rejections, routeInput_deliveries]

/-- The acknowledgement goes through, and is what is added to those sent. -/
theorem sendInputDelivery_open (hopen : routes.acknowledgementsOpen = true)
    (outcome : XAuthorityInputDeliveryOutcome) :
    (routes.sendInputDelivery client carried outcome).1 = .ok () ∧
      (routes.sendInputDelivery client carried outcome).2.deliveries =
        routes.deliveries ++ carried.toList.map (⟨client, ·, outcome⟩) := by
  rcases carried with _ | sent
  · simp [sendInputDelivery]
  · rcases hqueue : routes.inputDelivery with _ | queue
    · simp [acknowledgementsOpen, hqueue] at hopen
    · simp only [acknowledgementsOpen, hqueue, Option.any_some, Bool.and_eq_true,
        decide_eq_true_eq] at hopen
      simp [sendInputDelivery, hqueue, RouteQueue.trySend, hopen.1, hopen.2]

/-- A rejection that is sent counts for the id it carries. -/
theorem rejections_send (hopen : routes.acknowledgementsOpen = true) :
    (routes.sendInputDelivery client carried .routeRejected).2.rejections delivery =
      routes.rejections delivery + carries carried delivery := by
  rw [rejections, (sendInputDelivery_open hopen .routeRejected).2, List.countP_append, rejections]
  rcases carried with _ | sent
  · simp [carries]
  · simp [carries, List.countP_singleton]

/-- The other outcomes do not count as rejections. -/
theorem rejections_workerDelivery {sent : XAuthorityInputDeliveryId} {flushed : Bool}
    (hopen : routes.acknowledgementsOpen = true) :
    (routes.workerDelivery client sent flushed).rejections delivery =
      routes.rejections delivery := by
  rw [rejections, workerDelivery, (sendInputDelivery_open hopen _).2, List.countP_append,
    rejections]
  cases flushed <;> simp

/-- What routing one input adds to the ledger of an id: the input itself, unless it is lost. -/
theorem EngineEffect.settles {result : Except XServerFrontendRouteError InputDisposition}
    (h : EngineEffect routes keymap route result next)
    (hopen : routes.acknowledgementsOpen = true) (delivery : XAuthorityInputDeliveryId) :
    forwardedBy delivery result + next.waiting delivery + next.rejections delivery =
      routes.waiting delivery + routes.rejections delivery +
        if routes.keeps keymap route then carries route.delivery delivery else 0 := by
  cases h with
  | unknownSurface hsurface =>
    have hlost : routes.keeps keymap route = false := by simp [keeps, hsurface]
    simp [hlost, forwardedBy]
  | deferred hsurface hfrozen hroom =>
    have hkept : routes.keeps keymap route = true := by simp [keeps, hsurface, hfrozen]
    rw [waiting_append rfl, if_pos hkept]
    simp only [forwardedBy, waiting, rejections]
    omega
  | overflow hsurface hfrozen hfull =>
    have hkept : routes.keeps keymap route = true := by simp [keeps, hsurface, hfrozen]
    rw [if_pos hkept, rejections_send hopen, waiting_sendInputDelivery]
    simp only [forwardedBy]
    omega
  | @unmapped _ prepared client hsurface hthawed hreceiver hprepared =>
    have hkept : routes.keeps keymap route = true := by simp [keeps, hsurface, hreceiver]
    have hprepared' := hopen
    rw [← hprepared.acknowledgementsOpen] at hprepared'
    rw [if_pos hkept, rejections_send hprepared', waiting_sendInputDelivery, hprepared.waiting,
      hprepared.rejections, (sendInputDelivery_open hprepared' _).1]
    simp only [Except.map, forwardedBy]
    omega
  | forwarded hsurface hthawed hreceiver hprepared hdelivery hroute =>
    have hready := routeInput_ok.mp hroute
    rw [hprepared.clientReady] at hready
    have hkept : routes.keeps keymap route = true := by simp [keeps, hsurface, hreceiver, hready]
    rw [if_pos hkept, waiting_routeInput, rejections_routeInput, hprepared.waiting,
      hprepared.rejections]
    simp only [forwardedBy, hdelivery]
    omega
  | @refused _ event error _ hsurface hthawed hreceiver hprepared hroute =>
    have hready : ¬ routes.clientReady event.client = true := by
      rw [← hprepared.clientReady, ← routeInput_ok, hroute]
      simp
    have hlost : ¬ routes.keeps keymap route = true := by
      simp [keeps, hsurface, hthawed, hreceiver, hready]
    rw [if_neg hlost, waiting_routeInput, rejections_routeInput, hprepared.waiting,
      hprepared.rejections]
    simp only [forwardedBy]
    omega

end InputRoutes

namespace RouteSession

variable {κ : Type}

/-- How many inputs with this id the broker took in, from the Engine and from the direct queue. -/
def taken (session : RouteSession κ) (delivery : XAuthorityInputDeliveryId) : ℕ :=
  session.received.countP (·.delivery = some delivery) +
    session.receivedDirect.countP (·.delivery = some delivery)

/-- How many events with this id it put into client queues. -/
def forwards (session : RouteSession κ) (delivery : XAuthorityInputDeliveryId) : ℕ :=
  session.forwarded.countP (·.2.delivery = some delivery) +
    session.forwardedDirect.countP (·.delivery = some delivery)

/-- How many inputs with this id wait, with the one a drain has in hand. -/
def waiting (session : RouteSession κ) (delivery : XAuthorityInputDeliveryId) : ℕ :=
  session.registry.waiting delivery +
    session.inHand.toList.countP fun deferred => deferred.route.delivery = some delivery

def settled (session : RouteSession κ) (delivery : XAuthorityInputDeliveryId) : ℕ :=
  session.forwards delivery + session.waiting delivery + session.registry.rejections delivery

/-- Every input with a delivery id was forwarded, waits or was rejected, and only one of these. -/
def Accounted (session : RouteSession κ) : Prop :=
  ∀ delivery, session.settled delivery = session.taken delivery

/-- No input with a delivery id is lost in the next step of a call. -/
def StageKeeps (keymap : XkbKeymap κ) (session : RouteSession κ) : RouteStage → Prop
  | .engineInput => ∀ route ∈ session.broker.routedInput.items.head?,
    route.delivery.isSome = true → session.registry.keeps keymap route = true
  | .thawing _ deferred =>
    deferred.route.delivery.isSome = true → session.registry.keeps keymap deferred.route = true
  | _ => True

/-- The actions that lose no input with a delivery id. -/
def Keeps (keymap : XkbKeymap κ) (session : RouteSession κ) : BrokerAction → Prop
  | .advance => ∀ pass ∈ session.pass, session.StageKeeps keymap pass.stage
  | .disconnect client => ∀ deferred ∈ session.registry.frozenInput, deferred.client = client →
    deferred.route.delivery = none
  | _ => True

instance (keymap : XkbKeymap κ) (session : RouteSession κ) :
    (stage : RouteStage) → Decidable (session.StageKeeps keymap stage)
  | .engineInput => inferInstanceAs (Decidable (∀ route ∈ _, _ → _))
  | .thawing _ _ => inferInstanceAs (Decidable (_ → _))
  | .clientInput | .control | .drain | .popping _ | .inspecting _ _ | .puttingBack _ _ =>
    isTrue trivial

instance (keymap : XkbKeymap κ) (session : RouteSession κ) :
    (action : BrokerAction) → Decidable (session.Keeps keymap action)
  | .advance => inferInstanceAs (Decidable (∀ pass ∈ session.pass, _))
  | .disconnect _ => inferInstanceAs (Decidable (∀ deferred ∈ session.registry.frozenInput, _ → _))
  | .sendRoutedInput _ | .sendInput _ | .sendControl _ | .routePending | .inputRequest _
  | .registerClient _ | .registerSurface _ _ _ _ | .receiveInput _ _ | .receiveControl _ _
  | .hangUp _ | .sendDelivery _ _ _ | .receiveDeliveries _ => isTrue trivial

variable {session next : RouteSession κ} {keymap : XkbKeymap κ} {pass : RoutePass}
  {carried : Option XAuthorityInputDeliveryId} {delivery : XAuthorityInputDeliveryId}
  {remaining : ℕ} {deferred : XDeferredRoutedInput}

/-- The next state settles as much more as it has taken in more. -/
def Balanced (session next : RouteSession κ) : Prop :=
  ∀ delivery, next.settled delivery + session.taken delivery =
    session.settled delivery + next.taken delivery

theorem Accounted.balanced (h : session.Accounted) (hnext : session.Balanced next) :
    next.Accounted := by
  intro delivery
  have hbefore := h delivery
  have hafter := hnext delivery
  omega

/-- A step that is balanced but for one input that may get lost. -/
theorem Accounted.iff_kept (h : session.Accounted) {kept : Bool}
    (hnext : ∀ delivery, next.settled delivery + session.taken delivery +
        InputRoutes.carries carried delivery =
      session.settled delivery + next.taken delivery +
        if kept then InputRoutes.carries carried delivery else 0) :
    next.Accounted ↔ (carried.isSome = true → kept = true) := by
  constructor
  · intro hafter hcarried
    obtain ⟨delivery, rfl⟩ := Option.isSome_iff_exists.mp hcarried
    by_contra hlost
    have hbalance := hnext delivery
    have hsettled := hafter delivery
    have hbefore := h delivery
    simp only [hlost, InputRoutes.carries, if_true, if_false] at hbalance
    omega
  · intro hkept delivery
    have hbalance := hnext delivery
    have hbefore := h delivery
    rcases carried with _ | sent
    · simp only [InputRoutes.carries] at hbalance
      simp at hbalance
      omega
    · simp only [hkept rfl, if_true] at hbalance
      omega

theorem settled_enter (hhand : pass.stage.inHand = none) :
    (session.enter pass).settled delivery =
      session.forwards delivery + session.registry.waiting delivery +
        session.registry.rejections delivery := by
  have hwaiting : (session.enter pass).waiting delivery = session.registry.waiting delivery := by
    simp [waiting, hhand]
  rw [settled, hwaiting]
  rfl

theorem settled_of_not_inHand (hhand : session.inHand = none) :
    session.settled delivery =
      session.forwards delivery + session.registry.waiting delivery +
        session.registry.rejections delivery := by
  simp [settled, waiting, hhand]

theorem settled_of_inHand (hhand : session.inHand = some deferred) :
    session.settled delivery =
      session.forwards delivery + session.registry.waiting delivery +
        session.registry.rejections delivery +
          InputRoutes.carries deferred.route.delivery delivery := by
  simp only [settled, waiting, hhand, Option.toList_some, List.countP_singleton,
    decide_eq_true_eq, InputRoutes.carries]
  omega

theorem forwards_record {route : XAuthorityRoutedInput}
    {result : Except XServerFrontendRouteError InputDisposition} :
    (session.record route result).forwards delivery =
      session.forwards delivery + InputRoutes.forwardedBy delivery result := by
  rcases result with error | event | _ | _
  · simp [record, InputRoutes.forwardedBy]
  · simp only [record, forwards, InputRoutes.forwardedBy, InputRoutes.carries, List.countP_append,
      List.countP_singleton, decide_eq_true_eq]
    omega
  · simp [record, InputRoutes.forwardedBy]
  · simp [record, InputRoutes.forwardedBy]

@[simp] theorem registry_record {route : XAuthorityRoutedInput}
    {result : Except XServerFrontendRouteError InputDisposition} :
    (session.record route result).registry = session.registry := by
  rcases result with error | event | _ | _ <;> rfl

@[simp] theorem taken_record {route : XAuthorityRoutedInput}
    {result : Except XServerFrontendRouteError InputDisposition} :
    (session.record route result).taken delivery = session.taken delivery := by
  rcases result with error | event | _ | _ <;> rfl

theorem taken_received (delivery : XAuthorityInputDeliveryId) {route : XAuthorityRoutedInput}
    (hreceived : next.received = session.received ++ [route])
    (hdirect : next.receivedDirect = session.receivedDirect) :
    next.taken delivery = session.taken delivery + InputRoutes.carries route.delivery delivery := by
  simp only [taken, hreceived, hdirect, InputRoutes.carries, List.countP_append,
    List.countP_singleton, decide_eq_true_eq]
  omega

theorem routeEngine_accounted (h : session.Accounted)
    (hopen : session.registry.acknowledgementsOpen = true) (hhand : session.inHand = none) :
    (session.routeEngine keymap pass).Accounted ↔ session.StageKeeps keymap .engineInput := by
  simp only [routeEngine]
  split
  · rename_i hempty
    refine iff_of_true (h.balanced fun delivery => ?_) (by simp [StageKeeps, hempty])
    rw [settled_enter rfl, settled_of_not_inHand hhand]
    rfl
  · rename_i route rest hitems
    have hguard : session.StageKeeps keymap .engineInput ↔
        (route.delivery.isSome = true → session.registry.keeps keymap route = true) := by
      simp [StageKeeps, hitems]
    rw [hguard]
    refine h.iff_kept fun delivery => ?_
    have hsettles := (@InputRoutes.engineEffect _ session.registry keymap route).settles hopen
      delivery
    rw [settled_of_not_inHand hhand]
    generalize (if session.registry.keeps keymap route = true then
      InputRoutes.carries route.delivery delivery else 0) = kept at hsettles ⊢
    simp only [registry] at hsettles ⊢
    generalize session.broker.registry.routeEngineInput keymap route = result at hsettles ⊢
    rcases result with ⟨result, routed⟩
    have hnext {final : RouteSession κ} (hhand : final.inHand = none)
        (hregistry : final.registry = routed)
        (hforwards : final.forwards delivery =
          session.forwards delivery + InputRoutes.forwardedBy delivery result)
        (hreceived : final.received = session.received ++ [route])
        (hdirect : final.receivedDirect = session.receivedDirect) :
        final.settled delivery + session.taken delivery +
            InputRoutes.carries route.delivery delivery =
          session.forwards delivery + session.broker.registry.waiting delivery +
            session.broker.registry.rejections delivery + final.taken delivery + kept := by
      rw [settled_of_not_inHand hhand, hregistry, hforwards,
        taken_received delivery hreceived hdirect]
      simp only at hsettles
      omega
    have hforwards := @forwards_record _ { session with
      broker := { session.broker with registry := routed, routedInput.items := rest }
      received := session.received ++ [route] } delivery route result
    rcases result with error | event | _ | _
    · simp only
      split
      · exact hnext rfl rfl hforwards rfl rfl
      · exact hnext rfl rfl hforwards rfl rfl
    · exact hnext rfl rfl hforwards rfl rfl
    · exact hnext rfl rfl hforwards rfl rfl
    · exact hnext rfl rfl hforwards rfl rfl

theorem routeThawed_accounted (h : session.Accounted)
    (hopen : session.registry.acknowledgementsOpen = true)
    (hhand : session.inHand = some deferred) :
    (session.routeThawed keymap pass remaining deferred).Accounted ↔
      session.StageKeeps keymap (.thawing remaining deferred) := by
  simp only [routeThawed]
  refine h.iff_kept fun delivery => ?_
  have hsettles := (@InputRoutes.engineEffect _ session.registry keymap deferred.route).settles
    hopen delivery
  rw [settled_of_inHand hhand]
  generalize session.registry.routeEngineInput keymap deferred.route = result at hsettles ⊢
  rcases result with ⟨result, routed⟩
  have hnext {final : RouteSession κ} (hhand : final.inHand = none)
      (hregistry : final.registry = routed)
      (hforwards : final.forwards delivery =
        session.forwards delivery + InputRoutes.forwardedBy delivery result)
      (htaken : final.taken delivery = session.taken delivery) :
      final.settled delivery + session.taken delivery +
          InputRoutes.carries deferred.route.delivery delivery =
        session.forwards delivery + session.registry.waiting delivery +
          session.registry.rejections delivery +
          InputRoutes.carries deferred.route.delivery delivery + final.taken delivery +
          if session.registry.keeps keymap deferred.route then
            InputRoutes.carries deferred.route.delivery delivery else 0 := by
    rw [settled_of_not_inHand hhand, hregistry, hforwards, htaken]
    simp only at hsettles
    omega
  have hforwards := @forwards_record _ (session.setRegistry routed) delivery deferred.route result
  rcases result with error | event | _ | _
  · exact hnext rfl rfl hforwards rfl
  · exact hnext rfl rfl hforwards rfl
  · exact hnext rfl rfl hforwards rfl
  · exact hnext rfl rfl hforwards rfl

theorem taken_direct (delivery : XAuthorityInputDeliveryId) {event : XAuthorityClientInputEvent}
    (hreceived : next.received = session.received)
    (hdirect : next.receivedDirect = session.receivedDirect ++ [event]) :
    next.taken delivery = session.taken delivery + InputRoutes.carries event.delivery delivery := by
  simp only [taken, hreceived, hdirect, InputRoutes.carries, List.countP_append,
    List.countP_singleton, decide_eq_true_eq]
  omega

theorem forwards_direct (delivery : XAuthorityInputDeliveryId) {event : XAuthorityClientInputEvent}
    (hforwarded : next.forwarded = session.forwarded)
    (hdirect : next.forwardedDirect = session.forwardedDirect ++ [event]) :
    next.forwards delivery =
      session.forwards delivery + InputRoutes.carries event.delivery delivery := by
  simp only [forwards, hforwarded, hdirect, InputRoutes.carries, List.countP_append,
    List.countP_singleton, decide_eq_true_eq]
  omega

/-- The direct path forwards what it takes in, or rejects it. -/
theorem routeClient_balanced (hopen : session.registry.acknowledgementsOpen = true)
    (hhand : session.inHand = none) : session.Balanced (session.routeClient pass) := by
  intro delivery
  rw [settled_of_not_inHand hhand]
  simp only [routeClient]
  split
  · rw [settled_enter rfl]
    rfl
  · rename_i event rest hitems
    obtain ⟨clients, hroute⟩ := @InputRoutes.routeInput_eq _ session.registry event
    simp only [registry] at hroute ⊢
    generalize session.broker.registry.routeInput event = result at hroute ⊢
    rcases result with ⟨error | _, routed⟩
    · obtain rfl := hroute
      have hsent := @InputRoutes.rejections_send _ { session.broker.registry with clients }
        event.client event.delivery delivery hopen
      have hkept := @InputRoutes.waiting_sendInputDelivery _ { session.broker.registry with clients }
        event.client event.delivery delivery .routeRejected
      have hnext {final : RouteSession κ} (hhand : final.inHand = none)
          (hregistry : final.registry = (InputRoutes.sendInputDelivery
            { session.broker.registry with clients } event.client event.delivery .routeRejected).2)
          (hforwards : final.forwards delivery = session.forwards delivery)
          (hreceived : final.received = session.received)
          (hdirect : final.receivedDirect = session.receivedDirect ++ [event]) :
          final.settled delivery + session.taken delivery = session.forwards delivery +
            session.broker.registry.waiting delivery +
            session.broker.registry.rejections delivery + final.taken delivery := by
        rw [settled_of_not_inHand hhand, hregistry, hforwards, hsent, hkept,
          taken_direct delivery hreceived hdirect]
        simp only [InputRoutes.waiting, InputRoutes.rejections]
        omega
      simp only
      split
      · rename_i hsend
        exact hnext rfl (congrArg Prod.snd hsend).symm rfl rfl rfl
      · rename_i hsend
        exact hnext rfl (congrArg Prod.snd hsend).symm rfl rfl rfl
    · obtain rfl := hroute
      have hnext {final : RouteSession κ} (hhand : final.inHand = none)
          (hregistry : final.registry = { session.broker.registry with clients })
          (hforwards : final.forwards delivery =
            session.forwards delivery + InputRoutes.carries event.delivery delivery)
          (htaken : final.taken delivery =
            session.taken delivery + InputRoutes.carries event.delivery delivery) :
          final.settled delivery + session.taken delivery = session.forwards delivery +
            session.broker.registry.waiting delivery +
            session.broker.registry.rejections delivery + final.taken delivery := by
        rw [settled_of_not_inHand hhand, hregistry, hforwards, htaken]
        simp only [InputRoutes.waiting, InputRoutes.rejections]
        omega
      exact hnext rfl rfl (forwards_direct delivery rfl rfl) (taken_direct delivery rfl rfl)

theorem routeControl_balanced (hhand : session.inHand = none) :
    session.Balanced (session.routeControl pass) := by
  intro delivery
  rw [settled_of_not_inHand hhand]
  simp only [routeControl]
  split
  · rw [settled_enter rfl]
    rfl
  · rename_i command rest hitems
    obtain ⟨clients, hroute⟩ := @InputRoutes.routeControl_eq _ session.registry command
    simp only [registry] at hroute ⊢
    generalize session.broker.registry.routeControl command = result at hroute ⊢
    rcases result with ⟨error | _, routed⟩
    · obtain rfl := hroute
      rfl
    · obtain rfl := hroute
      rfl

theorem endDrain_balanced (hhand : session.inHand = none) :
    session.Balanced (session.endDrain pass) := by
  intro delivery
  rw [settled_of_not_inHand hhand]
  simp only [endDrain]
  split
  · rfl
  · rfl

theorem popFrozen_balanced (hhand : session.inHand = none) :
    session.Balanced (session.popFrozen pass remaining) := by
  cases remaining with
  | zero => exact endDrain_balanced hhand
  | succ remaining =>
    simp only [popFrozen]
    split
    · exact endDrain_balanced hhand
    · rename_i deferred rest hfrozen
      intro delivery
      have hwaiting : session.registry.waiting delivery =
          InputRoutes.waiting { session.registry with frozenInput := rest } delivery +
            InputRoutes.carries deferred.route.delivery delivery := by
        simp [InputRoutes.waiting, hfrozen, List.countP_cons, InputRoutes.carries]
      have hnext {final : RouteSession κ} (hhand : final.inHand = some deferred)
          (hregistry : final.registry = { session.registry with frozenInput := rest })
          (hforwards : final.forwards delivery = session.forwards delivery) :
          final.settled delivery = session.settled delivery := by
        rw [settled_of_inHand hhand, settled_of_not_inHand ‹_›, hwaiting, hregistry, hforwards]
        simp only [InputRoutes.rejections]
        omega
      exact congrArg (· + session.taken delivery) (hnext rfl rfl rfl)

theorem inspect_balanced (hopen : session.registry.acknowledgementsOpen = true)
    (hhand : session.inHand = some deferred) :
    session.Balanced (session.inspect pass remaining deferred) := by
  intro delivery
  simp only [inspect]
  split
  · have hsent := @InputRoutes.rejections_send _ session.registry deferred.client
      deferred.route.delivery delivery hopen
    have hkept := @InputRoutes.waiting_sendInputDelivery _ session.registry deferred.client
      deferred.route.delivery delivery .routeRejected
    have hnext {final : RouteSession κ} (hnone : final.inHand = none)
        (hregistry : final.registry = (session.registry.sendInputDelivery deferred.client
          deferred.route.delivery .routeRejected).2)
        (hforwards : final.forwards delivery = session.forwards delivery) :
        final.settled delivery = session.settled delivery := by
      rw [settled_of_inHand hhand, settled_of_not_inHand hnone, hregistry, hforwards, hsent, hkept]
      omega
    split
    · rename_i hsend
      exact congrArg (· + session.taken delivery)
        (hnext rfl (congrArg Prod.snd hsend).symm rfl)
    · rename_i hsend
      exact congrArg (· + session.taken delivery)
        (hnext rfl (congrArg Prod.snd hsend).symm rfl)
  · have hnext {stage : RouteStage} (hstage : stage.inHand = some deferred) :
        (session.enter (pass.goTo stage)).settled delivery = session.settled delivery := by
      rw [settled_of_inHand hhand, settled_of_inHand (inHand_enter.trans hstage)]
      rfl
    split
    · exact congrArg (· + session.taken delivery) (hnext rfl)
    · exact congrArg (· + session.taken delivery) (hnext rfl)

theorem putBack_balanced (hhand : session.inHand = some deferred) :
    session.Balanced (session.putBack pass remaining deferred) := by
  intro delivery
  have hnext {final : RouteSession κ} (hnone : final.inHand = none)
      (hregistry : final.registry = { session.registry with
        frozenInput := session.registry.frozenInput ++ [deferred] })
      (hforwards : final.forwards delivery = session.forwards delivery) :
      final.settled delivery = session.settled delivery := by
    rw [settled_of_inHand hhand, settled_of_not_inHand hnone, hregistry, hforwards,
      InputRoutes.waiting_append rfl]
    simp only [InputRoutes.waiting, InputRoutes.rejections]
    omega
  exact congrArg (· + session.taken delivery) (hnext rfl rfl rfl)

theorem advance_accounted (h : session.Accounted)
    (hopen : session.registry.acknowledgementsOpen = true) (hpass : session.pass = some pass) :
    (session.advance keymap pass).Accounted ↔ session.StageKeeps keymap pass.stage := by
  have hhand := inHand_of hpass
  cases hstage : pass.stage with
  | engineInput =>
    simp only [advance, hstage]
    exact routeEngine_accounted h hopen (by rw [hhand, hstage]; rfl)
  | clientInput =>
    simp only [advance, hstage]
    exact iff_of_true (h.balanced (routeClient_balanced hopen (by rw [hhand, hstage]; rfl))) trivial
  | control =>
    simp only [advance, hstage]
    exact iff_of_true (h.balanced (routeControl_balanced (by rw [hhand, hstage]; rfl))) trivial
  | drain =>
    simp only [advance, hstage]
    refine iff_of_true (h.balanced fun delivery => ?_) trivial
    rw [settled_of_not_inHand (by rw [hhand, hstage]; rfl : session.inHand = none)]
    rfl
  | popping remaining =>
    simp only [advance, hstage]
    exact iff_of_true (h.balanced (popFrozen_balanced (by rw [hhand, hstage]; rfl))) trivial
  | inspecting remaining deferred =>
    simp only [advance, hstage]
    exact iff_of_true (h.balanced (inspect_balanced hopen (by rw [hhand, hstage]; rfl))) trivial
  | puttingBack remaining deferred =>
    simp only [advance, hstage]
    exact iff_of_true (h.balanced (putBack_balanced (by rw [hhand, hstage]; rfl))) trivial
  | thawing remaining deferred =>
    simp only [advance, hstage]
    exact routeThawed_accounted h hopen (by rw [hhand, hstage]; rfl)

/-- A disconnect loses the deferred inputs of the client. -/
theorem disconnect_accounted (h : session.Accounted) (client : XServerFrontendClientId) :
    (session.setRegistry (session.registry.dropRegistration client)).Accounted ↔
      ∀ deferred ∈ session.registry.frozenInput, deferred.client = client →
        deferred.route.delivery = none := by
  let gone : XDeferredRoutedInput → Bool := fun deferred => deferred.client = client
  let lost (delivery : XAuthorityInputDeliveryId) : ℕ :=
    (session.registry.frozenInput.filter gone).countP
      fun deferred => deferred.route.delivery = some delivery
  have hsplit (delivery : XAuthorityInputDeliveryId) : session.registry.waiting delivery =
      (session.registry.dropRegistration client).waiting delivery + lost delivery := by
    have hperm := (List.filter_append_perm gone session.registry.frozenInput).countP_eq
      fun deferred => deferred.route.delivery = some delivery
    have hkept : (session.registry.dropRegistration client).frozenInput =
        session.registry.frozenInput.filter (!gone ·) := by
      simp [InputRoutes.dropRegistration, gone]
    rw [List.countP_append] at hperm
    rw [InputRoutes.waiting, InputRoutes.waiting, hkept, ← hperm]
    exact Nat.add_comm _ _
  have hsettled (delivery : XAuthorityInputDeliveryId) : session.settled delivery =
      (session.setRegistry (session.registry.dropRegistration client)).settled delivery +
        lost delivery := by
    have hwaiting : session.waiting delivery =
        (session.setRegistry (session.registry.dropRegistration client)).waiting delivery +
          lost delivery := by
      rw [waiting, hsplit]
      exact Nat.add_right_comm _ _ _
    rw [settled, settled, hwaiting, ← Nat.add_assoc]
    exact Nat.add_right_comm _ _ _
  constructor
  · intro hnext deferred hmem hclient
    by_contra hcarried
    obtain ⟨delivery, hdelivery⟩ := Option.ne_none_iff_exists'.mp hcarried
    have hpos : 0 < lost delivery := by
      refine List.countP_pos_iff.mpr ⟨deferred, List.mem_filter.mpr ⟨hmem, ?_⟩, ?_⟩
      · simpa [gone] using hclient
      · simpa using hdelivery
    have hbefore := h delivery
    have hafter := hnext delivery
    have hloss := hsettled delivery
    have htaken : (session.setRegistry (session.registry.dropRegistration client)).taken delivery =
        session.taken delivery := rfl
    omega
  · intro hnone delivery
    have hzero : lost delivery = 0 := by
      refine List.countP_eq_zero.mpr fun deferred hmem => ?_
      obtain ⟨hmem, hclient⟩ := List.mem_filter.mp hmem
      simp [hnone deferred hmem (by simpa [gone] using hclient)]
    have hbefore := h delivery
    have hloss := hsettled delivery
    have htaken : (session.setRegistry (session.registry.dropRegistration client)).taken delivery =
        session.taken delivery := rfl
    omega

theorem step_accounted {action : BrokerAction} (h : session.Accounted)
    (hopen : session.registry.acknowledgementsOpen = true) :
    (session.step keymap action).Accounted ↔ session.Keeps keymap action := by
  cases action with
  | sendRoutedInput route => exact iff_of_true h trivial
  | sendInput event => exact iff_of_true h trivial
  | sendControl command => exact iff_of_true h trivial
  | routePending =>
    simp only [step]
    split
    · rename_i hpass
      refine iff_of_true (h.balanced fun delivery => ?_) trivial
      rw [settled_of_not_inHand (by simp [inHand, hpass] : session.inHand = none)]
      rfl
    · exact iff_of_true h trivial
  | advance =>
    simp only [step]
    split
    · rename_i hpass
      exact iff_of_true h (by simp [Keeps, hpass])
    · rename_i pass hpass
      rw [advance_accounted h hopen hpass]
      simp [Keeps, hpass]
  | inputRequest request => exact iff_of_true h trivial
  | registerClient client =>
    simp only [step]
    split
    · rename_i registered hregistered
      obtain ⟨clients, rfl⟩ := InputRoutes.registerClient_eq hregistered
      exact iff_of_true h trivial
    · exact iff_of_true h trivial
  | registerSurface client ns surface window => exact iff_of_true h trivial
  | disconnect client => exact disconnect_accounted h client
  | receiveInput client n =>
    obtain ⟨clients, hnext⟩ := session.registry.modifyClient_eq client
      fun senders => { senders with input := senders.input.receive n }
    simp only [step, hnext]
    exact iff_of_true h trivial
  | receiveControl client n =>
    obtain ⟨clients, hnext⟩ := session.registry.modifyClient_eq client
      fun senders => { senders with control := senders.control.receive n }
    simp only [step, hnext]
    exact iff_of_true h trivial
  | hangUp client =>
    obtain ⟨clients, hnext⟩ := session.registry.modifyClient_eq client
      fun senders => ⟨senders.input.hangUp, senders.control.hangUp⟩
    simp only [step, hnext]
    exact iff_of_true h trivial
  | sendDelivery client delivery flushed =>
    refine iff_of_true (h.balanced fun other => ?_) trivial
    have hrejections := @InputRoutes.rejections_workerDelivery _ session.registry client other
      delivery flushed hopen
    have hwaiting : (session.registry.workerDelivery client delivery flushed).waiting other =
        session.registry.waiting other := InputRoutes.waiting_sendInputDelivery
    have hsettled : (session.step keymap (.sendDelivery client delivery flushed)).settled other =
        session.settled other := by
      change session.forwards other + ((session.registry.workerDelivery client delivery
        flushed).waiting other + _) + (session.registry.workerDelivery client delivery
        flushed).rejections other = _
      rw [hrejections, hwaiting]
      rfl
    rw [hsettled]
    rfl
  | receiveDeliveries n => exact iff_of_true h trivial

/-- While the acknowledgement queue is open, every input with a delivery id stays accounted for
exactly in those runs in which no step loses one. -/
theorem accounted_throughout_iff {capacity deliveryCapacity : ℕ} {actions : List BrokerAction}
    (hopen : Run.Guarded (step keymap)
      (fun session _ => session.registry.acknowledgementsOpen = true)
      (new capacity deliveryCapacity true) actions) :
    Run.Throughout (step keymap) (fun _ session => session.Accounted)
        (new capacity deliveryCapacity true) actions ↔
      Run.Guarded (step keymap) (Keeps keymap) (new capacity deliveryCapacity true) actions := by
  refine Run.throughout_iff (fun delivery => rfl) ?_
  intro before action after he haccounted
  exact step_accounted haccounted (hopen before action after he)

/-- The key 30 with a delivery id. -/
def trackedKey (delivery : UInt64) : XAuthorityRoutedInput :=
  { keyPress 30 with delivery := some ⟨delivery⟩ }

/-- A client with one surface, then one call of `route_pending` for what the Engine sent. -/
def trackedRun (grabs : List BrokerAction) (routes : List XAuthorityRoutedInput) :
    List BrokerAction :=
  [.registerClient ⟨3⟩, .registerSurface ⟨3⟩ ⟨10⟩ ⟨11, 1⟩ ⟨0x200001, 1⟩] ++ grabs ++
    routes.map .sendRoutedInput ++ [.routePending] ++ List.replicate 24 .advance

def freezeKeyboard : BrokerAction :=
  .inputRequest (.grabKeyboard ⟨10⟩ ⟨3, ⟨0x200001, 1⟩, false, 1, 0, 0⟩)

/-- A tracked key that is deferred and thawed stays accounted for. -/
theorem accounted_thawed_key :
    Run.Throughout (step plainKeymap) (fun _ session => session.Accounted) (new 2 2 true)
      (trackedRun [freezeKeyboard] [trackedKey 7] ++
        [.inputRequest (.allowEvents ⟨10⟩ 3 3), .routePending] ++ List.replicate 16 .advance) :=
  (accounted_throughout_iff (by decide +kernel)).mpr (by decide +kernel)

/-- A deferred key vanishes with its client, and a key that meets a full client queue vanishes at
once; neither is rejected. -/
theorem tracked_keys_lost :
    let disconnected := Run.exec (step plainKeymap) (new 2 2 true)
      (trackedRun [freezeKeyboard] [trackedKey 7] ++ [.disconnect ⟨3⟩])
    let full := Run.exec (step plainKeymap) (new 2 2 true)
      (trackedRun [] [trackedKey 7, trackedKey 8] ++ trackedRun [] [trackedKey 9])
    (¬ disconnected.Accounted ∧ disconnected.taken ⟨7⟩ = 1 ∧ disconnected.settled ⟨7⟩ = 0) ∧
    (¬ full.Accounted ∧ full.taken ⟨9⟩ = 1 ∧ full.settled ⟨9⟩ = 0) :=
  ⟨⟨fun h => absurd (h ⟨7⟩) (by decide +kernel), by decide +kernel, by decide +kernel⟩,
    ⟨fun h => absurd (h ⟨9⟩) (by decide +kernel), by decide +kernel, by decide +kernel⟩⟩

end RouteSession
end Sophia.Frontend
