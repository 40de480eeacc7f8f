import Sophia.Lib.History
import Sophia.Session.KeyRouting

/-! When the release of a key is sent to the X authority. -/
namespace Sophia.Session

open Std Sophia.Protocol Sophia.Engine Sophia.Frontend

/-- A key of a seat, by its evdev code. -/
abbrev SeatKey := SeatId × UInt32

def KeyEventPacket.stroke (event : KeyEventPacket) : Stroke SeatKey :=
  ⟨(event.seat, event.keycode), event.pressed⟩

/-- The stroke a routed input is. -/
def keyStroke (input : XAuthorityRoutedInput) : Option (Stroke SeatKey) :=
  match input.request.kind with
  | .key keycode pressed => some ⟨(input.request.seat, keycode), pressed⟩
  | _ => none

namespace LiveKeyInput

def sentStrokes (input : LiveKeyInput) : List (Stroke SeatKey) := input.sent.filterMap keyStroke

/-- Nothing stands between the release of a key and the authority. -/
structure Reaches (call : RouteInputCall) (input : LiveKeyInput) (event : KeyEventPacket) :
    Prop where
  calm : (input.emergencyChord.observe event.keycode event.pressed).1 ≠ .triggered
  free : ∀ shortcuts ∈ input.shortcuts, shortcuts.holds event.seat event.keycode = false
  full : call.routingMode = .full
  spared : pointerProofSuppressesReturn call.pointerProofRequired event.keycode input.textComplete =
    false
  focused : ∃ surface ∈ input.focus.focusedSurface event.seat,
    ∃ committed ∈ input.committedSurfaces, committed.surface = surface
  expected : ∀ proof ∈ input.physicalTextProof, proof.isComplete = false →
    proof.expected[proof.matchedEvents]? = some
      ⟨UInt8.ofNat (event.keycode.toNat + 8), event.pressed, input.modifiers.modifierMask⟩
  numbered : input.nextInputDelivery.toNat + 1 ≠ UInt64.size
  listening : input.inputSender.listening = true
  room : input.inputSender.items.length < input.inputCapacity

variable {call : RouteInputCall} {input next : LiveKeyInput}
  {report report' : PhysicalInputRouteReport} {event routed : KeyEventPacket} {surface : SurfaceId}
  {observed : PhysicalTextProofEvent} {request : RoutedInputRequest}

theorem routeShortcut_frame (input : LiveKeyInput) (event : KeyEventPacket) :
    ∃ shortcuts, (input.routeShortcut event).2 = { input with shortcuts } := by
  unfold routeShortcut
  split
  · exact ⟨input.shortcuts, rfl⟩
  · exact ⟨_, rfl⟩

/-- The shortcuts take the release of the keys they hold. -/
theorem routeShortcut_release (h : event.pressed = false) :
    (input.routeShortcut event).1.consumed = false ↔
      ∀ shortcuts ∈ input.shortcuts, shortcuts.holds event.seat event.keycode = false := by
  unfold routeShortcut
  cases input.shortcuts with
  | none => simp [WmShortcutDecision.pass]
  | some shortcuts =>
    have hrelease := @WmShortcutRouter.routeKey_release shortcuts event.seat event.keycode
    simp only [h, hrelease.1, Option.mem_some_iff, forall_eq']

/-- Screening a key moves the chord and the shortcuts only. -/
theorem screenKey_frame (call : RouteInputCall) (input : LiveKeyInput)
    (report : PhysicalInputRouteReport) (event : KeyEventPacket) :
    ∃ emergencyChord shortcuts, (screenKey call input report event).2.1 =
      { input with emergencyChord, shortcuts } := by
  obtain ⟨shortcuts, hshortcut⟩ := routeShortcut_frame { input with
    emergencyChord := (input.emergencyChord.observe event.keycode event.pressed).2 } event
  unfold screenKey
  simp only
  split_ifs
  · exact ⟨_, input.shortcuts, rfl⟩
  · exact ⟨_, shortcuts, hshortcut⟩
  · exact ⟨_, shortcuts, hshortcut⟩
  · exact ⟨_, shortcuts, hshortcut⟩
  · split
    · exact ⟨_, shortcuts, hshortcut⟩
    · exact ⟨_, shortcuts, hshortcut⟩

/-- A key that is let through is aimed at the focused surface. -/
theorem screenKey_some (h : (screenKey call input report event).1 = some (routed, surface)) :
    routed = { event with targetSurface := some surface } := by
  unfold screenKey at h
  simp only at h
  split_ifs at h
  split at h
  · rename_i hfocus
    unfold InputFocusState.routeKeyboardEvent at hfocus
    split at hfocus
    · cases hfocus
    · split_ifs at hfocus
      cases hfocus
      cases h
      rfl
  · cases h

theorem routeKeyboardEvent_eq_routed {focus : InputFocusState}
    {surfaces : List CommittedSurfaceState} :
    (∃ routed surface, focus.routeKeyboardEvent event surfaces = .routed routed ∧
        routed.targetSurface = some surface) ↔
      ∃ surface ∈ focus.focusedSurface event.seat,
        ∃ committed ∈ surfaces, committed.surface = surface := by
  unfold InputFocusState.routeKeyboardEvent
  cases focus.focusedSurface event.seat with
  | none => simp
  | some surface =>
    by_cases hcommitted : ∃ committed ∈ surfaces, committed.surface = surface
    · exact iff_of_true ⟨_, surface, if_neg (by simpa using hcommitted), rfl⟩
        ⟨surface, rfl, hcommitted⟩
    · simp only [Option.mem_some_iff, exists_eq_left']
      rw [if_pos (by simpa using hcommitted)]
      simp [hcommitted]

/-- A release is let through when nothing takes it and it has a window to go to. -/
theorem screenKey_isSome_iff (h : event.pressed = false) :
    (screenKey call input report event).1.isSome = true ↔
      (input.emergencyChord.observe event.keycode event.pressed).1 ≠ .triggered ∧
      (∀ shortcuts ∈ input.shortcuts, shortcuts.holds event.seat event.keycode = false) ∧
      call.routingMode = .full ∧
      pointerProofSuppressesReturn call.pointerProofRequired event.keycode input.textComplete =
        false ∧
      ∃ surface ∈ input.focus.focusedSurface event.seat,
        ∃ committed ∈ input.committedSurfaces, committed.surface = surface := by
  have hshortcut := routeShortcut_frame { input with
    emergencyChord := (input.emergencyChord.observe event.keycode event.pressed).2 } event
  have hconsumed := @routeShortcut_release { input with
    emergencyChord := (input.emergencyChord.observe event.keycode event.pressed).2 } event h
  unfold screenKey
  simp only
  generalize (LiveKeyInput.routeShortcut _ event) = screened at hshortcut hconsumed ⊢
  obtain ⟨decision, next⟩ := screened
  obtain ⟨shortcuts, rfl⟩ := hshortcut
  simp only at hconsumed ⊢
  rw [← hconsumed, ← routeKeyboardEvent_eq_routed]
  split_ifs with hcalm htaken hmode hsuppressed
  · exact iff_of_false Bool.false_ne_true fun hall => hall.1 hcalm
  · exact iff_of_false Bool.false_ne_true fun hall => by simp [htaken] at hall
  · exact iff_of_false Bool.false_ne_true fun hall => hmode hall.2.2.1
  · refine iff_of_false Bool.false_ne_true fun hall => ?_
    exact Bool.false_ne_true (hall.2.2.2.1.symm.trans hsuppressed)
  · have hspared : pointerProofSuppressesReturn call.pointerProofRequired event.keycode
        input.textComplete = false := Bool.not_eq_true _ ▸ hsuppressed
    simp only [hcalm, htaken, hspared, not_not.mp hmode, ne_eq, not_false_eq_true, true_and]
    cases hroute : input.focus.routeKeyboardEvent event input.committedSurfaces with
    | routed routed => simp [Option.isSome_iff_exists]
    | noFocus _ => simp
    | staleFocus _ => simp

theorem observeText_frame (h : input.observeText observed = .ok next) :
    ∃ physicalTextProof, next = { input with physicalTextProof } := by
  unfold observeText at h
  split at h
  · cases h
    exact ⟨input.physicalTextProof, rfl⟩
  · split_ifs at h
    · cases h
      exact ⟨input.physicalTextProof, rfl⟩
    · split at h
      · cases h
      · cases h
        exact ⟨_, rfl⟩

/-- The text proof is content when it is complete or sees what it expects next. -/
theorem observeText_ok_iff :
    (∃ next, input.observeText observed = .ok next) ↔
      ∀ proof ∈ input.physicalTextProof, proof.isComplete = false →
        proof.expected[proof.matchedEvents]? = some observed := by
  unfold observeText
  cases input.physicalTextProof with
  | none => simp
  | some proof =>
    simp only [Option.mem_some_iff, forall_eq']
    by_cases hcomplete : proof.isComplete = true
    · simp [hcomplete]
    · have hlt := PhysicalTextProof.lt_of_not_isComplete hcomplete
      have hget : proof.expected.get ⟨proof.matchedEvents, hlt⟩ =
          proof.expected[proof.matchedEvents] := rfl
      simp only [hcomplete, PhysicalTextProof.observe, hget, ne_eq]
      rw [List.getElem?_eq_getElem hlt, Option.some_inj]
      by_cases hexpected : observed = proof.expected[proof.matchedEvents]
      · simp [hexpected]
      · simp [hexpected, Ne.symm hexpected]

theorem sendRequest_sent (h : input.sendRequest report request = .ok (next, report')) :
    ∃ delivery, next.sent = input.sent ++ [⟨request, delivery⟩] := by
  unfold sendRequest at h
  simp only at h
  split_ifs at h
  split at h
  · cases h
  · cases h
  · cases h
    exact ⟨_, rfl⟩

theorem sendRequest_ok_iff :
    (∃ result, input.sendRequest report request = .ok result) ↔
      input.nextInputDelivery.toNat + 1 ≠ UInt64.size ∧ input.inputSender.listening = true ∧
        input.inputSender.items.length < input.inputCapacity := by
  unfold sendRequest RouteQueue.trySend
  simp only
  split_ifs with hlast hclosed hroom
  · simp [hlast]
  · simp only [Bool.not_eq_true'] at hclosed
    simp [hclosed]
  · simp only [Bool.not_eq_true', Bool.not_eq_false] at hclosed
    simp [hlast, hclosed, hroom]
  · simp [hroom]

theorem mapEvdevKey_fst {mapper : XCoreKeyboardMapper} {keycode : UInt32} {pressed : Bool} :
    (mapper.mapEvdevKey keycode pressed).1 = if XCoreKeyboardMapper.maps keycode then
      some (UInt8.ofNat (keycode.toNat + 8), mapper.modifierMask) else none := by
  unfold XCoreKeyboardMapper.mapEvdevKey
  by_cases hzero : keycode = 0
  · simp [hzero, XCoreKeyboardMapper.maps]
  · rw [if_neg hzero]

/-- A key that has no X keycode is not sent. -/
theorem sendKey_unmapped (h : XCoreKeyboardMapper.maps event.keycode = false) :
    ∃ modifiers, input.sendKey report event surface = .ok ({ input with modifiers }, report) := by
  have hmapped := @mapEvdevKey_fst input.modifiers event.keycode event.pressed
  rw [h] at hmapped
  unfold sendKey
  generalize input.modifiers.mapEvdevKey event.keycode event.pressed = mapping at hmapped ⊢
  obtain ⟨mapped, modifiers⟩ := mapping
  obtain rfl : mapped = none := hmapped
  exact ⟨modifiers, rfl⟩

/-- A key that has one is sent, or its failure ends the session. -/
theorem sendKey_mapped (h : XCoreKeyboardMapper.maps event.keycode = true) :
    ∃ modifiers request, keyStroke ⟨request, none⟩ = some event.stroke ∧
      input.sendKey report event surface =
        (({ input with modifiers }).observeText ⟨UInt8.ofNat (event.keycode.toNat + 8),
          event.pressed, input.modifiers.modifierMask⟩ >>= fun input =>
            input.sendRequest report request) := by
  have hmapped := @mapEvdevKey_fst input.modifiers event.keycode event.pressed
  rw [h] at hmapped
  unfold sendKey
  generalize input.modifiers.mapEvdevKey event.keycode event.pressed = mapping at hmapped ⊢
  obtain ⟨mapped, modifiers⟩ := mapping
  obtain rfl : mapped = some _ := hmapped
  exact ⟨modifiers, _, rfl, rfl⟩

theorem sendKey_sent (h : input.sendKey report event surface = .ok (next, report'))
    (hmaps : XCoreKeyboardMapper.maps event.keycode = true) :
    ∃ routed, keyStroke routed = some event.stroke ∧ next.sent = input.sent ++ [routed] := by
  obtain ⟨modifiers, request, hstroke, hsend⟩ := @sendKey_mapped input report event surface hmaps
  rw [hsend, Fallible.bind_eq_ok] at h
  obtain ⟨shown, hshown, hsent⟩ := h
  obtain ⟨physicalTextProof, rfl⟩ := observeText_frame hshown
  obtain ⟨delivery, hnext⟩ := sendRequest_sent hsent
  exact ⟨⟨request, delivery⟩, hstroke, hnext⟩

theorem sendKey_ok_iff (hmaps : XCoreKeyboardMapper.maps event.keycode = true) :
    (∃ result, input.sendKey report event surface = .ok result) ↔
      (∀ proof ∈ input.physicalTextProof, proof.isComplete = false →
        proof.expected[proof.matchedEvents]? = some ⟨UInt8.ofNat (event.keycode.toNat + 8),
          event.pressed, input.modifiers.modifierMask⟩) ∧
      input.nextInputDelivery.toNat + 1 ≠ UInt64.size ∧ input.inputSender.listening = true ∧
        input.inputSender.items.length < input.inputCapacity := by
  obtain ⟨modifiers, request, -, hsend⟩ := @sendKey_mapped input report event surface hmaps
  have htext := @observeText_ok_iff { input with modifiers } ⟨UInt8.ofNat (event.keycode.toNat + 8),
    event.pressed, input.modifiers.modifierMask⟩
  simp only [hsend, Fallible.bind_eq_ok]
  simp only at htext
  rw [← htext]
  constructor
  · rintro ⟨result, shown, hshown, hsent⟩
    refine ⟨⟨shown, hshown⟩, ?_⟩
    obtain ⟨physicalTextProof, rfl⟩ := observeText_frame hshown
    have hready := sendRequest_ok_iff.mp ⟨result, hsent⟩
    exact hready
  · rintro ⟨⟨shown, hshown⟩, hready⟩
    obtain ⟨physicalTextProof, rfl⟩ := observeText_frame hshown
    obtain ⟨result, hsent⟩ := (@sendRequest_ok_iff { input with modifiers, physicalTextProof }
      report request).mpr hready
    exact ⟨result, _, hshown, hsent⟩

/-- A key event that ends no session is sent as the stroke it is, or not at all. -/
theorem routeKeyEvent_sent (h : routeKeyEvent call (input, report) event = .ok (next, report')) :
    next.sent = input.sent ∨ XCoreKeyboardMapper.maps event.keycode = true ∧
      ∃ routed, keyStroke routed = some event.stroke ∧ next.sent = input.sent ++ [routed] := by
  have hframe := screenKey_frame call input report event
  have hsome := @screenKey_some call input report event
  unfold routeKeyEvent at h
  generalize screenKey call input report event = screened at hframe hsome h
  obtain ⟨_ | ⟨routed, surface⟩, screened, counted⟩ := screened
  · obtain ⟨emergencyChord, shortcuts, rfl⟩ := hframe
    cases h
    exact Or.inl rfl
  · obtain ⟨emergencyChord, shortcuts, rfl⟩ := hframe
    obtain rfl := hsome rfl
    have hsend : LiveKeyInput.sendKey { input with emergencyChord, shortcuts } counted
      { event with targetSurface := some surface } surface = .ok (next, report') := h
    cases hmaps : XCoreKeyboardMapper.maps event.keycode with
    | true =>
      have hsent := sendKey_sent hsend hmaps
      exact Or.inr ⟨rfl, hsent⟩
    | false =>
      obtain ⟨modifiers, hunmapped⟩ := @sendKey_unmapped { input with emergencyChord, shortcuts }
        counted { event with targetSurface := some surface } surface hmaps
      have hsame := hsend.symm.trans hunmapped
      cases hsame
      exact Or.inl rfl

/-- A release is sent exactly when nothing stands in its way. -/
theorem routeKeyEvent_reaches_iff (hpressed : event.pressed = false)
    (hmaps : XCoreKeyboardMapper.maps event.keycode = true) :
    (∃ next report' routed, routeKeyEvent call (input, report) event = .ok (next, report') ∧
        next.sent = input.sent ++ [routed]) ↔ input.Reaches call event := by
  have hframe := screenKey_frame call input report event
  have hsome := @screenKey_some call input report event
  have hscreen := @screenKey_isSome_iff call input report event hpressed
  unfold routeKeyEvent
  generalize screenKey call input report event = screened at hframe hsome hscreen ⊢
  obtain ⟨_ | ⟨routed, surface⟩, screened, counted⟩ := screened
  · refine iff_of_false ?_ fun h => ?_
    · rintro ⟨next, report', routed, h, hsent⟩
      obtain ⟨emergencyChord, shortcuts, rfl⟩ := hframe
      cases h
      simp at hsent
    · have hadmitted := hscreen.mpr ⟨h.calm, h.free, h.full, h.spared, h.focused⟩
      cases hadmitted
  · obtain ⟨calm, free, full, spared, focused⟩ := hscreen.mp rfl
    obtain ⟨emergencyChord, shortcuts, rfl⟩ := hframe
    obtain rfl := hsome rfl
    have hready := @sendKey_ok_iff { input with emergencyChord, shortcuts } counted
      { event with targetSurface := some surface } surface hmaps
    constructor
    · rintro ⟨next, report', routed, h, -⟩
      obtain ⟨expected, numbered, listening, room⟩ := hready.mp ⟨_, h⟩
      exact ⟨calm, free, full, spared, focused, expected, numbered, listening, room⟩
    · intro h
      obtain ⟨⟨next, report'⟩, hsend⟩ := hready.mpr ⟨h.expected, h.numbered, h.listening, h.room⟩
      obtain ⟨routed, -, hsent⟩ := sendKey_sent hsend hmaps
      exact ⟨next, report', routed, hsend, hsent⟩

/-- What is counted does not decide where a key goes. -/
theorem screenKey_report (report report' : PhysicalInputRouteReport) :
    (screenKey call input report event).1 = (screenKey call input report' event).1 ∧
      (screenKey call input report event).2.1 = (screenKey call input report' event).2.1 := by
  unfold screenKey
  simp only
  split_ifs
  · exact ⟨rfl, rfl⟩
  · exact ⟨rfl, rfl⟩
  · exact ⟨rfl, rfl⟩
  · exact ⟨rfl, rfl⟩
  · split
    · exact ⟨rfl, rfl⟩
    · exact ⟨rfl, rfl⟩

theorem sendRequest_report (report report' : PhysicalInputRouteReport) :
    (input.sendRequest report request).map Prod.fst =
      (input.sendRequest report' request).map Prod.fst := by
  unfold sendRequest
  simp only
  split_ifs
  · rfl
  · split
    · rfl
    · rfl
    · rfl

theorem sendKey_report (report report' : PhysicalInputRouteReport) :
    (input.sendKey report event surface).map Prod.fst =
      (input.sendKey report' event surface).map Prod.fst := by
  unfold sendKey
  generalize input.modifiers.mapEvdevKey event.keycode event.pressed = mapping
  obtain ⟨_ | ⟨keycode, state⟩, modifiers⟩ := mapping
  · rfl
  · simp only
    cases LiveKeyInput.observeText _ _ with
    | error error => rfl
    | ok shown => exact sendRequest_report report report'

theorem routeKeyEvent_report (report report' : PhysicalInputRouteReport) :
    (routeKeyEvent call (input, report) event).map Prod.fst =
      (routeKeyEvent call (input, report') event).map Prod.fst := by
  obtain ⟨hsome, hinput⟩ := @screenKey_report call input event report report'
  unfold routeKeyEvent
  simp only
  generalize screenKey call input report event = screened at hsome hinput ⊢
  generalize screenKey call input report' event = screened' at hsome hinput ⊢
  obtain ⟨_ | ⟨routed, surface⟩, screened, counted⟩ := screened
  · obtain ⟨_, screened', counted'⟩ := screened'
    cases hsome
    cases hinput
    rfl
  · obtain ⟨_, screened', counted'⟩ := screened'
    cases hsome
    cases hinput
    exact sendKey_report counted counted'

end LiveKeyInput

end Sophia.Session
