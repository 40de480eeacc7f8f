import Sophia.Frontend.InputCalls
import Sophia.Lib.History

/-! Who can take an explicit grab away while inputs and requests of other clients go on. -/
namespace Sophia.Frontend

open Std Sophia.Protocol Sophia.Authority

namespace RouteSession

variable {κ : Type}

/-- The grab state that the clients and the inputs share. -/
def inputAuthority (session : RouteSession κ) : XInputAuthorityState :=
  session.registry.inputAuthority

/-- What the next step of a running call asks of the grab state. -/
def stageCall (session : RouteSession κ) (keymap : XkbKeymap κ) : RouteStage → Option XInputRequest
  | .engineInput => session.broker.routedInput.items.head?.bind
    (session.registry.authorityCall keymap)
  | .thawing _ deferred => session.registry.authorityCall keymap deferred.route
  | _ => none

/-- What an action asks of the grab state. -/
def authorityCall (session : RouteSession κ) (keymap : XkbKeymap κ) :
    BrokerAction → Option XInputRequest
  | .inputRequest request => some request
  | .advance => session.pass.bind fun pass => session.stageCall keymap pass.stage
  | _ => none

/-- A client asks for a grab and gets it. -/
def Obtained (session : RouteSession κ) (action : BrokerAction)
    (hold : GrabDevice × NamespaceId × XActiveInputGrab) : Prop :=
  ∃ request, action = .inputRequest request ∧ request.Obtains hold.1 hold.2.1 hold.2.2 ∧
    session.inputAuthority.Grants request

/-- The client that has a grab gives it up or replaces it, or is cleaned up after. -/
def GivenUp (action : BrokerAction) (hold : GrabDevice × NamespaceId × XActiveInputGrab) : Prop :=
  ∃ request, action = .inputRequest request ∧ request.Ends hold.1 hold.2.1 hold.2.2.owner

/-- A client obtained the grab at some point of the run and has not given it up since. -/
def Holds (keymap : XkbKeymap κ) (session : RouteSession κ) (actions : List BrokerAction)
    (device : GrabDevice) (ns : NamespaceId) (grab : XActiveInputGrab) : Prop :=
  Run.Held (step keymap) Obtained GivenUp session actions (device, ns, grab)

/-- No press is matched against an explicit grab. -/
def SparesGrabs (keymap : XkbKeymap κ) (session : RouteSession κ) (action : BrokerAction) : Prop :=
  ∀ request ∈ session.authorityCall keymap action, session.inputAuthority.Spares request

instance (keymap : XkbKeymap κ) (session : RouteSession κ) (action : BrokerAction) :
    Decidable (session.SparesGrabs keymap action) :=
  inferInstanceAs (Decidable (∀ request ∈ _, _))

variable {session : RouteSession κ} {keymap : XkbKeymap κ} {pass : RoutePass}
  {action : BrokerAction} {device : GrabDevice} {ns : NamespaceId} {grab : XActiveInputGrab}

@[simp] theorem inputAuthority_enter :
    (session.enter pass).inputAuthority = session.inputAuthority := rfl

@[simp] theorem inputAuthority_finish {result : Except XServerFrontendRouteError UInt64} :
    (session.finish result).inputAuthority = session.inputAuthority := rfl

@[simp] theorem inputAuthority_setRegistry {registry : InputRoutes κ} :
    (session.setRegistry registry).inputAuthority = registry.inputAuthority := rfl

@[simp] theorem inputAuthority_record {route : XAuthorityRoutedInput}
    {result : Except XServerFrontendRouteError InputDisposition} :
    (session.record route result).inputAuthority = session.inputAuthority := by
  unfold record
  split <;> rfl

theorem inputAuthority_routeEngine :
    (session.routeEngine keymap pass).inputAuthority =
      ((session.stageCall keymap .engineInput).map session.inputAuthority.step).getD
        session.inputAuthority := by
  unfold routeEngine stageCall
  cases hitems : session.broker.routedInput.items with
  | nil => rfl
  | cons route rest =>
    have hroute := @InputRoutes.routeEngineInput_inputAuthority _ session.registry keymap route
    simp only [List.head?_cons, Option.bind_some]
    split
    · exact inputAuthority_record.trans hroute
    · split
      · exact inputAuthority_record.trans hroute
      · exact inputAuthority_record.trans hroute

theorem inputAuthority_routeThawed {remaining : ℕ} {deferred : XDeferredRoutedInput} :
    (session.routeThawed keymap pass remaining deferred).inputAuthority =
      ((session.stageCall keymap (.thawing remaining deferred)).map
        session.inputAuthority.step).getD session.inputAuthority := by
  have hroute := @InputRoutes.routeEngineInput_inputAuthority _ session.registry keymap
    deferred.route
  unfold routeThawed stageCall
  simp only
  split
  · exact inputAuthority_record.trans hroute
  · exact inputAuthority_record.trans hroute

theorem inputAuthority_routeClient :
    (session.routeClient pass).inputAuthority = session.inputAuthority := by
  unfold routeClient
  cases hitems : session.broker.input.items with
  | nil => rfl
  | cons event rest =>
    have hroute := @InputRoutes.routeInput_inputAuthority _ session.registry event
    simp only
    split
    · rename_i hresult
      exact (congrArg (·.2.inputAuthority) hresult).symm.trans hroute
    · rename_i error registry hresult
      have hregistry : registry.inputAuthority = session.inputAuthority :=
        (congrArg (·.2.inputAuthority) hresult).symm.trans hroute
      have hsent := @InputRoutes.sendInputDelivery_inputAuthority _ registry event.client
        event.delivery .routeRejected
      generalize registry.sendInputDelivery event.client event.delivery .routeRejected = sent
        at hsent ⊢
      rcases sent with ⟨_ | _, sent⟩
      · exact hsent.trans hregistry
      · exact hsent.trans hregistry

theorem inputAuthority_routeControl :
    (session.routeControl pass).inputAuthority = session.inputAuthority := by
  unfold routeControl
  cases hitems : session.broker.control.items with
  | nil => rfl
  | cons command rest =>
    have hroute := @InputRoutes.routeControl_inputAuthority _ session.registry command
    simp only
    split
    · rename_i hresult
      exact (congrArg (·.2.inputAuthority) hresult).symm.trans hroute
    · rename_i hresult
      exact (congrArg (·.2.inputAuthority) hresult).symm.trans hroute

theorem inputAuthority_endDrain :
    (session.endDrain pass).inputAuthority = session.inputAuthority := by
  unfold endDrain
  simp only
  split <;> rfl

theorem inputAuthority_popFrozen (remaining : ℕ) :
    (session.popFrozen pass remaining).inputAuthority = session.inputAuthority := by
  cases remaining with
  | zero => exact inputAuthority_endDrain
  | succ remaining =>
    simp only [popFrozen]
    split
    · exact inputAuthority_endDrain
    · rfl

theorem inputAuthority_inspect {remaining : ℕ} {deferred : XDeferredRoutedInput} :
    (session.inspect pass remaining deferred).inputAuthority = session.inputAuthority := by
  have hsent := @InputRoutes.sendInputDelivery_inputAuthority _ session.registry deferred.client
    deferred.route.delivery .routeRejected
  unfold inspect
  split
  · generalize session.registry.sendInputDelivery deferred.client deferred.route.delivery
      .routeRejected = sent at hsent ⊢
    rcases sent with ⟨_ | _, sent⟩
    · exact hsent
    · exact hsent
  · split <;> rfl

/-- A step changes the grab state by the call it makes, or not at all. -/
theorem inputAuthority_step :
    (session.step keymap action).inputAuthority =
      ((session.authorityCall keymap action).map session.inputAuthority.step).getD
        session.inputAuthority := by
  cases action with
  | inputRequest request => rfl
  | advance =>
    unfold step authorityCall
    cases hpass : session.pass with
    | none => rfl
    | some pass =>
      simp only [Option.bind_some, advance]
      cases pass.stage with
      | engineInput => exact inputAuthority_routeEngine
      | clientInput => exact inputAuthority_routeClient
      | control => exact inputAuthority_routeControl
      | drain => rfl
      | popping remaining => exact inputAuthority_popFrozen remaining
      | inspecting remaining deferred => exact inputAuthority_inspect
      | puttingBack remaining deferred => rfl
      | thawing remaining deferred => exact inputAuthority_routeThawed
  | routePending =>
    simp only [step]
    split <;> rfl
  | registerClient client =>
    simp only [step]
    split
    · rename_i registry hregister
      obtain ⟨clients, rfl⟩ := InputRoutes.registerClient_eq hregister
      rfl
    · rfl
  | receiveInput client n => exact InputRoutes.modifyClient_inputAuthority
  | receiveControl client n => exact InputRoutes.modifyClient_inputAuthority
  | hangUp client => exact InputRoutes.modifyClient_inputAuthority
  | sendDelivery client delivery flushed => exact InputRoutes.sendInputDelivery_inputAuthority
  | _ => rfl

theorem stageCall_routed {stage : RouteStage} {request : XInputRequest}
    (h : session.stageCall keymap stage = some request) : request.Routed := by
  cases stage with
  | engineInput =>
    obtain ⟨route, -, hroute⟩ := Option.bind_eq_some_iff.mp h
    exact InputRoutes.authorityCall_routed hroute
  | thawing remaining deferred => exact InputRoutes.authorityCall_routed h
  | _ => cases h

/-- An action asks for what a client requests, or for what a press or a release does. -/
theorem authorityCall_cases {request : XInputRequest}
    (h : session.authorityCall keymap action = some request) :
    action = .inputRequest request ∨ action = .advance ∧ request.Routed := by
  cases action with
  | inputRequest asked =>
    cases h
    exact .inl rfl
  | advance =>
    obtain ⟨pass, -, hstage⟩ := Option.bind_eq_some_iff.mp h
    exact .inr ⟨rfl, stageCall_routed hstage⟩
  | _ => cases h

theorem inputAuthority_of_call {request : XInputRequest}
    (h : session.authorityCall keymap action = some request) :
    (session.step keymap action).inputAuthority = session.inputAuthority.step request := by
  rw [inputAuthority_step, h]
  rfl

theorem inputAuthority_of_no_call (h : session.authorityCall keymap action = none) :
    (session.step keymap action).inputAuthority = session.inputAuthority := by
  rw [inputAuthority_step, h]
  rfl

/-- A spared grab stays with the client that has it until that client gives it up. -/
theorem explicit_step (hspares : session.SparesGrabs keymap action)
    (h : session.inputAuthority.explicit device ns = some grab)
    (hkept : ¬ GivenUp action (device, ns, grab)) :
    (session.step keymap action).inputAuthority.explicit device ns = some grab := by
  cases hcall : session.authorityCall keymap action with
  | none => rwa [inputAuthority_of_no_call hcall]
  | some request =>
    have hends : ¬ request.Ends device ns grab.owner := by
      intro hends
      rcases authorityCall_cases hcall with rfl | ⟨-, hrouted⟩
      · exact hkept ⟨request, rfl, hends⟩
      · exact hrouted.not_ends hends
    rw [inputAuthority_of_call hcall]
    exact XInputAuthorityState.explicit_step (hspares request hcall) h hends

theorem explicit_of_obtained (h : Obtained session action (device, ns, grab)) :
    (session.step keymap action).inputAuthority.explicit device ns = some grab := by
  obtain ⟨request, rfl, hobtains, hgrants⟩ := h
  exact XInputAuthorityState.explicit_of_granted hobtains hgrants

/-- An explicit grab was there before or has just been obtained. -/
theorem explicit_of_step
    (h : (session.step keymap action).inputAuthority.explicit device ns = some grab) :
    Obtained session action (device, ns, grab) ∨
      session.inputAuthority.explicit device ns = some grab ∧
        ¬ GivenUp action (device, ns, grab) := by
  cases hcall : session.authorityCall keymap action with
  | none =>
    rw [inputAuthority_of_no_call hcall] at h
    refine .inr ⟨h, ?_⟩
    rintro ⟨request, rfl, -⟩
    cases hcall
  | some request =>
    rw [inputAuthority_of_call hcall] at h
    rcases XInputAuthorityState.explicit_of_step h with ⟨hbefore, hends⟩ | ⟨hobtains, hgrants⟩
    · refine .inr ⟨hbefore, ?_⟩
      rintro ⟨asked, rfl, hended⟩
      cases hcall
      exact hends hended
    · rcases authorityCall_cases hcall with rfl | ⟨-, hrouted⟩
      · exact .inl ⟨request, rfl, hobtains, hgrants⟩
      · exact absurd hobtains hrouted.not_obtains

/-- Every explicit grab of a run was obtained by the client that has it. -/
theorem holds_of_explicit {start : RouteSession κ}
    (hstart : ∀ device ns, start.inputAuthority.explicit device ns = none)
    (actions : List BrokerAction)
    (h : (Run.exec (step keymap) start actions).inputAuthority.explicit device ns = some grab) :
    Holds keymap start actions device ns grab := by
  induction actions using List.reverseRecOn generalizing grab with
  | nil =>
    rw [Run.exec_nil, hstart] at h
    cases h
  | append_singleton before action ih =>
    rw [Run.exec_snoc] at h
    refine Run.held_snoc.mpr ?_
    rcases explicit_of_step h with hobtained | ⟨hbefore, hkept⟩
    · exact .inl hobtained
    · exact .inr ⟨ih hbefore, hkept⟩

theorem explicit_new (capacity deliveryCapacity : ℕ) (acknowledges : Bool) (device : GrabDevice)
    (ns : NamespaceId) : (new capacity deliveryCapacity acknowledges : RouteSession κ).inputAuthority.explicit
      device ns = none := by
  cases device <;> rfl

/-- In a run of inputs and requests, every grab stays with the client that obtained it until that
client gives it up, exactly as long as no press is matched against an explicit grab. -/
theorem grab_exclusive_iff (capacity deliveryCapacity : ℕ) (acknowledges : Bool)
    (actions : List BrokerAction) :
    Run.Throughout (step keymap)
        (fun history session => ∀ device ns grab,
          Holds keymap (new capacity deliveryCapacity acknowledges) history device ns grab →
            session.inputAuthority.explicit device ns = some grab)
        (new capacity deliveryCapacity acknowledges) actions ↔
      Run.Guarded (step keymap) (SparesGrabs keymap)
        (new capacity deliveryCapacity acknowledges) actions := by
  refine Run.throughout_iff (fun device ns grab hholds => absurd hholds Run.not_held_nil) ?_
  intro before action after he hbefore
  constructor
  · intro hafter request hcall
    by_contra hspares
    obtain ⟨device, ns, grab, hgrab, hends, hlost⟩ :=
      XInputAuthorityState.lost_of_not_spares hspares
    -- The grab that the press takes away had been obtained and was not given up.
    have hholds : Holds keymap (new capacity deliveryCapacity acknowledges) (before ++ [action])
        device ns grab := by
      refine Run.held_snoc.mpr (.inr ⟨holds_of_explicit (explicit_new _ _ _) before hgrab, ?_⟩)
      rintro ⟨asked, rfl, hended⟩
      cases hcall
      exact hends hended
    have hkept := hafter device ns grab hholds
    rw [inputAuthority_of_call hcall, hlost] at hkept
    cases hkept
  · intro hspares device ns grab hholds
    rcases Run.held_snoc.mp hholds with hobtained | ⟨hheld, hkept⟩
    · exact explicit_of_obtained hobtained
    · exact explicit_step hspares (hbefore device ns grab hheld) hkept

/-- The client 7 grabs the pointer, then a button is pressed over a surface of the client 3. -/
def pressUnderGrab : List BrokerAction :=
  [.registerClient ⟨3⟩, .registerSurface ⟨3⟩ ⟨10⟩ ⟨11, 1⟩ ⟨0x200001, 1⟩, .registerClient ⟨7⟩,
    .inputRequest (.grabPointer ⟨10⟩ ⟨7, ⟨0x400001, 1⟩, false, 1, 1, 0⟩),
    .sendRoutedInput { keyPress 0 with request.kind := .pointerButton 272 true },
    .routePending, .advance]

/-- The press makes the grab the other client's. -/
theorem press_replaces_grab :
    let session := Run.exec (step plainKeymap) (new 2 2 true) pressUnderGrab
    Holds plainKeymap (new 2 2 true) pressUnderGrab .pointer ⟨10⟩
        ⟨7, ⟨0x400001, 1⟩, false, 1, 1, 0⟩ ∧
      session.inputAuthority.explicit .pointer ⟨10⟩ = none ∧
      (session.inputAuthority.pointerGrab ⟨10⟩).map (·.owner) = some 3 := by
  refine ⟨⟨pressUnderGrab.take 3, _, pressUnderGrab.drop 4, rfl, ⟨_, rfl, rfl, ?_⟩, ?_⟩, ?_, ?_⟩
  · decide +kernel
  · simp [pressUnderGrab, GivenUp]
  · decide +kernel
  · decide +kernel

end RouteSession
end Sophia.Frontend
