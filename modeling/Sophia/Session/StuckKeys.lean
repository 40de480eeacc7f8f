import Sophia.Frontend.InputCalls
import Sophia.Session.KeyReaches

/-! No key stays down at the authority once it is up, while every release finds its way there. -/
namespace Sophia.Session

open Std Sophia.Protocol Sophia.Engine Sophia.Frontend

/-- Which keys a keyboard of the library has down. -/
structure KeyView {κ : Type} (keymap : XkbKeymap κ) where
  down : κ → UInt8 → Bool
  down_initial : ∀ code, down keymap.initial code = false
  down_updateKey : ∀ state key pressed code,
    down (keymap.updateKey state key pressed) code = if key = code then pressed else down state code

section Keyboards

variable {κ : Type} (keymap : XkbKeymap κ)

/-- What the keyboard worker does with an input. -/
def workKey (keyboards : ExtTreeMap SeatId κ) (input : XAuthorityRoutedInput) :
    ExtTreeMap SeatId κ :=
  match input.request.kind with
  | .key keycode pressed => keyboards.insert input.request.seat
      (keymap.mapEvdevKey ((keyboards[input.request.seat]?).getD keymap.initial) keycode pressed).2
  | _ => keyboards

/-- The keyboard of a seat after the inputs. -/
def keyboardAfter (inputs : List XAuthorityRoutedInput) (seat : SeatId) : κ :=
  ((Run.exec (workKey keymap) ∅ inputs)[seat]?).getD keymap.initial

end Keyboards

inductive KeyMove where
  | key (call : RouteInputCall) (event : KeyEventPacket)
  | focusSurface (seat : SeatId) (surface : SurfaceId)
  | clearSurface (surface : SurfaceId)
  | commit (surfaces : List CommittedSurfaceState)
  | replaceShortcuts (registry : WmShortcutRegistry)
  /-- The authority takes the next input off the queue. -/
  | take

/-- The routing state and every key event passed to it, until an error ends the session. -/
structure KeySession where
  input : LiveKeyInput
  ended : Bool
  strokes : List (Stroke SeatKey)

namespace KeySession

def start (input : LiveKeyInput) : KeySession := ⟨{ input with sent := [] }, false, []⟩

def step (session : KeySession) (move : KeyMove) : KeySession :=
  if session.ended then session
  else match move with
    | .key call event =>
      let strokes := session.strokes ++ [event.stroke]
      match LiveKeyInput.routeKeyEvent call (session.input, { events := 1 }) event with
      | .error _ => { session with ended := true, strokes }
      | .ok (input, _) => { session with input, strokes }
    | .focusSurface seat surface => { session with input := { session.input with
        focus := (session.input.focus.focusSurface seat surface
          session.input.committedSurfaces).2 } }
    | .clearSurface surface => { session with input := { session.input with
        focus := (session.input.focus.clearSurface surface).2 } }
    | .commit surfaces => { session with input := { session.input with
        committedSurfaces := surfaces } }
    | .replaceShortcuts registry => { session with input := { session.input with
        shortcuts := some (.new registry) } }
    | .take => { session with input := { session.input with
        inputSender := session.input.inputSender.receive 1 } }

/-- Every key whose press was sent and whose release was not is held down, and so is every key
that the keyboard of the authority has down. -/
structure NoStuckKeys {κ : Type} {keymap : XkbKeymap κ} (view : KeyView keymap)
    (session : KeySession) : Prop where
  sent : Stroke.Within session.input.sentStrokes session.strokes
  keyboard : ∀ seat code, view.down (keyboardAfter keymap session.input.sent seat) code = true →
    ∃ keycode : UInt32, keycode.toNat + 8 = code.toNat ∧
      Stroke.down session.strokes (seat, keycode) = true

/-- The release of a key whose press was sent reaches the authority. -/
def ReleaseReaches (session : KeySession) : KeyMove → Prop
  | .key call event => session.ended = false → event.pressed = false →
      Stroke.down session.input.sentStrokes (event.seat, event.keycode) = true →
        session.input.Reaches call event
  | _ => True

end KeySession

section Keyboards

variable {κ : Type} {keymap : XkbKeymap κ} {inputs : List XAuthorityRoutedInput}
  {input : XAuthorityRoutedInput} {seat : SeatId} {code : UInt8}

theorem keyboardAfter_snoc_of_ne (h : input.request.seat ≠ seat) :
    keyboardAfter keymap (inputs ++ [input]) seat = keyboardAfter keymap inputs seat := by
  rw [keyboardAfter, keyboardAfter, Run.exec_snoc, workKey]
  split
  · rw [ExtTreeMap.getElem?_insert, if_neg (by simpa using h)]
  · rfl

theorem keyboardAfter_snoc_key {keycode : UInt32} {pressed : Bool}
    (h : input.request.kind = .key keycode pressed) :
    keyboardAfter keymap (inputs ++ [input]) input.request.seat =
      (keymap.mapEvdevKey (keyboardAfter keymap inputs input.request.seat) keycode pressed).2 := by
  rw [keyboardAfter, Run.exec_snoc, workKey, h]
  simp only [ExtTreeMap.getElem?_insert_self, Option.getD_some]
  rfl

theorem keyboardAfter_snoc_of_not_key (h : keyStroke input = none) :
    keyboardAfter keymap (inputs ++ [input]) seat = keyboardAfter keymap inputs seat := by
  rw [keyboardAfter, keyboardAfter, Run.exec_snoc, workKey]
  unfold keyStroke at h
  split
  · rename_i hkind
    rw [hkind] at h
    cases h
  · rfl

theorem KeyView.down_mapEvdevKey (view : KeyView keymap) (state : κ) (keycode : UInt32)
    (pressed : Bool) (code : UInt8) :
    view.down (keymap.mapEvdevKey state keycode pressed).2 code =
      if keycode.toNat + 8 = code.toNat then pressed else view.down state code := by
  have hcode := code.toNat_lt
  unfold XkbKeymap.mapEvdevKey
  split
  · rename_i hmapped
    rw [view.down_updateKey]
    have hkey : UInt8.ofNat (keycode.toNat + 8) = code ↔ keycode.toNat + 8 = code.toNat := by
      rw [← UInt8.toNat_inj, UInt8.toNat_ofNat_of_lt' hmapped]
    simp only [hkey]
  · rename_i hunmapped
    rw [if_neg]
    change ¬ keycode.toNat + 8 < 256 at hunmapped
    omega

/-- The keyboard of the authority has down what is down in the strokes it was sent. -/
theorem KeyView.down_iff (view : KeyView keymap) (inputs : List XAuthorityRoutedInput)
    (seat : SeatId) (code : UInt8) :
    view.down (keyboardAfter keymap inputs seat) code = true ↔
      ∃ keycode : UInt32, keycode.toNat + 8 = code.toNat ∧
        Stroke.down (inputs.filterMap keyStroke) (seat, keycode) = true := by
  induction inputs using List.reverseRecOn with
  | nil =>
    have hinitial : view.down (keyboardAfter keymap [] seat) code = false := view.down_initial code
    simp [hinitial]
  | append_singleton inputs input ih =>
    rw [List.filterMap_append]
    cases hkind : input.request.kind with
    | key keycode pressed =>
      have hstroke : keyStroke input = some ⟨(input.request.seat, keycode), pressed⟩ := by
        simp only [keyStroke, hkind]
      simp only [List.filterMap_cons, hstroke, List.filterMap_nil, Stroke.down_snoc, Prod.mk.injEq]
      by_cases hseat : input.request.seat = seat
      · subst hseat
        rw [keyboardAfter_snoc_key hkind, view.down_mapEvdevKey]
        by_cases hcode : keycode.toNat + 8 = code.toNat
        · rw [if_pos hcode]
          constructor
          · exact fun hpressed => ⟨keycode, hcode, by simpa using hpressed⟩
          · rintro ⟨other, hother, hdown⟩
            have he : keycode = other := UInt32.toNat_inj.mp (by omega)
            simpa [he] using hdown
        · rw [if_neg hcode, ih]
          refine exists_congr fun other => and_congr_right fun hother => ?_
          have hne : keycode ≠ other := by
            rintro rfl
            exact hcode hother
          simp [hne]
      · rw [keyboardAfter_snoc_of_ne hseat, ih]
        simp [hseat]
    | pointerMotion =>
      have hnone : keyStroke input = none := by simp only [keyStroke, hkind]
      rw [keyboardAfter_snoc_of_not_key hnone, ih]
      simp [hnone]
    | pointerButton button pressed =>
      have hnone : keyStroke input = none := by simp only [keyStroke, hkind]
      rw [keyboardAfter_snoc_of_not_key hnone, ih]
      simp [hnone]

end Keyboards

namespace KeySession

variable {κ : Type} {keymap : XkbKeymap κ} {view : KeyView keymap} {session : KeySession}
  {call : RouteInputCall} {event : KeyEventPacket} {move : KeyMove} {moves : List KeyMove}

/-- Every key that was sent has an X keycode. -/
def Mapped (session : KeySession) : Prop :=
  ∀ stroke ∈ session.input.sentStrokes, XCoreKeyboardMapper.maps stroke.key.2 = true

/-- What the authority has down follows from what it was sent. -/
theorem noStuckKeys_iff :
    session.NoStuckKeys view ↔ Stroke.Within session.input.sentStrokes session.strokes := by
  refine ⟨fun h => h.sent, fun h => ⟨h, ?_⟩⟩
  intro seat code hdown
  obtain ⟨keycode, hcode, hsent⟩ := (view.down_iff _ _ _).mp hdown
  exact ⟨keycode, hcode, h _ hsent⟩

/-- Only key events are sent on, and only they are strokes. -/
theorem step_same (h : ∀ call event, move ≠ .key call event) :
    (session.step move).input.sent = session.input.sent ∧
      (session.step move).strokes = session.strokes := by
  unfold step
  split_ifs
  · exact ⟨rfl, rfl⟩
  · cases move with
    | key call event => exact absurd rfl (h call event)
    | focusSurface seat surface => exact ⟨rfl, rfl⟩
    | clearSurface surface => exact ⟨rfl, rfl⟩
    | commit surfaces => exact ⟨rfl, rfl⟩
    | replaceShortcuts registry => exact ⟨rfl, rfl⟩
    | take => exact ⟨rfl, rfl⟩

theorem step_ended (h : session.ended = true) : session.step move = session := by
  unfold step
  rw [if_pos h]

theorem exec_ended (h : session.ended = true) : (Run.exec step session moves).ended = true := by
  refine Run.invariant (P := fun s : KeySession => s.ended = true) h (fun s move _ hs => ?_)
    Run.guarded_true
  rw [step_ended hs]
  exact hs

/-- A key event is a stroke, which is sent on, or kept back. -/
theorem step_key (h : session.ended = false) :
    (session.step (.key call event)).strokes = session.strokes ++ [event.stroke] ∧
      ((XCoreKeyboardMapper.maps event.keycode = true ∧
          (session.step (.key call event)).input.sentStrokes =
            session.input.sentStrokes ++ [event.stroke]) ∨
        (session.step (.key call event)).input.sentStrokes = session.input.sentStrokes) := by
  unfold step
  simp only [h, Bool.false_eq_true, if_false]
  cases hroute : LiveKeyInput.routeKeyEvent call (session.input, { events := 1 }) event with
  | error error => exact ⟨rfl, Or.inr rfl⟩
  | ok routed =>
    obtain ⟨next, report⟩ := routed
    refine ⟨rfl, ?_⟩
    rcases LiveKeyInput.routeKeyEvent_sent hroute with hsame | ⟨hmaps, routed, hstroke, hsent⟩
    · exact Or.inr (congrArg (List.filterMap keyStroke) hsame)
    · refine Or.inl ⟨hmaps, ?_⟩
      simp only [LiveKeyInput.sentStrokes, hsent, List.filterMap_append, List.filterMap_cons,
        hstroke, List.filterMap_nil]

theorem step_release (h : session.ended = false) (hpressed : event.pressed = false)
    (hmaps : XCoreKeyboardMapper.maps event.keycode = true) :
    (session.step (.key call event)).input.sentStrokes =
        session.input.sentStrokes ++ [event.stroke] ↔ session.input.Reaches call event := by
  rw [← LiveKeyInput.routeKeyEvent_reaches_iff hpressed hmaps]
  unfold step
  simp only [h, Bool.false_eq_true, if_false]
  cases hroute : LiveKeyInput.routeKeyEvent call (session.input, { events := 1 }) event with
  | error error => simp
  | ok routed =>
    obtain ⟨next, report⟩ := routed
    rcases LiveKeyInput.routeKeyEvent_sent hroute with hsame | ⟨-, routed, hstroke, hsent⟩
    · refine iff_of_false ?_ ?_
      · simp [LiveKeyInput.sentStrokes, hsame]
      · rintro ⟨other, _, routed, he, hsent⟩
        cases he
        simp [hsame] at hsent
    · refine iff_of_true ?_ ⟨next, report, routed, rfl, hsent⟩
      simp only [LiveKeyInput.sentStrokes, hsent, List.filterMap_append, List.filterMap_cons,
        hstroke, List.filterMap_nil]

theorem Mapped.step (h : session.Mapped) (move : KeyMove) : (session.step move).Mapped := by
  intro stroke hmem
  cases hended : session.ended with
  | true =>
    rw [step_ended hended] at hmem
    exact h stroke hmem
  | false =>
    by_cases hkey : ∃ call event, move = .key call event
    · obtain ⟨call, event, rfl⟩ := hkey
      rcases (step_key hended).2 with ⟨hmaps, hsent⟩ | hsame
      · rw [hsent] at hmem
        rcases List.mem_append.mp hmem with hmem | hmem
        · exact h stroke hmem
        · rw [List.mem_singleton.mp hmem]
          exact hmaps
      · rw [hsame] at hmem
        exact h stroke hmem
    · have hsent := (@step_same session move fun call event he => hkey ⟨call, event, he⟩).1
      rw [LiveKeyInput.sentStrokes, hsent] at hmem
      exact h stroke hmem

/-- The release of a key that was sent is of a key that has an X keycode. -/
theorem Mapped.of_down (h : session.Mapped)
    (hdown : Stroke.down session.input.sentStrokes (event.seat, event.keycode) = true) :
    XCoreKeyboardMapper.maps event.keycode = true := by
  obtain ⟨stroke, hmem, hkey, -⟩ := Stroke.exists_of_down hdown
  have hmaps := h stroke hmem
  rw [hkey] at hmaps
  exact hmaps

theorem noStuckKeys_step_iff (hmapped : session.Mapped) (h : session.NoStuckKeys view) :
    (session.step move).NoStuckKeys view ↔ session.ReleaseReaches move := by
  by_cases hkey : ∃ call event, move = .key call event
  · obtain ⟨call, event, rfl⟩ := hkey
    cases hended : session.ended with
    | true =>
      rw [step_ended hended]
      exact iff_of_true h fun hopen => by simp [hended] at hopen
    | false =>
      obtain ⟨hstrokes, hsent⟩ := @step_key session call event hended
      rw [noStuckKeys_iff, hstrokes]
      rcases hsent with ⟨hmaps, hsent⟩ | hsame
      · rw [hsent]
        exact iff_of_true h.sent.relay fun _ hpressed _ =>
          (step_release hended hpressed hmaps).mp hsent
      · -- A stroke that is kept back must not be the release of a key the authority has down.
        rw [hsame, h.sent.drop_iff]
        refine ⟨fun hup _ hpressed hdown => ?_, fun hreaches hpressed => ?_⟩
        · have hup := hup hpressed
          rw [KeyEventPacket.stroke, hdown] at hup
          cases hup
        · by_contra hnot
          have hdown : Stroke.down session.input.sentStrokes (event.seat, event.keycode) = true :=
            Bool.not_eq_false _ ▸ hnot
          have hsent := (step_release hended hpressed (hmapped.of_down hdown)).mpr
            (hreaches hended hpressed hdown)
          simp [hsame] at hsent
  · obtain ⟨hsent, hstrokes⟩ := @step_same session move fun call event he => hkey ⟨call, event, he⟩
    rw [noStuckKeys_iff, LiveKeyInput.sentStrokes, hsent, hstrokes]
    refine iff_of_true h.sent ?_
    cases move with
    | key call event => exact absurd ⟨call, event, rfl⟩ hkey
    | _ => trivial

theorem exec_routeKeyEvents (events : List KeyEventPacket) (report : PhysicalInputRouteReport)
    (h : session.ended = false) :
    match events.foldlM (LiveKeyInput.routeKeyEvent call) (session.input, report) with
    | .error _ => (Run.exec step session (events.map (.key call))).ended = true
    | .ok (input, _) => Run.exec step session (events.map (.key call)) =
        ⟨input, false, session.strokes ++ events.map KeyEventPacket.stroke⟩ := by
  induction events generalizing session report with
  | nil =>
    obtain ⟨input, ended, strokes⟩ := session
    obtain rfl : ended = false := h
    simp [pure, Except.pure]
  | cons event events ih =>
    have hcount := @LiveKeyInput.routeKeyEvent_report call session.input event report
      { events := 1 }
    rw [List.foldlM_cons, List.map_cons, Run.exec_cons]
    cases hroute : LiveKeyInput.routeKeyEvent call (session.input, { events := 1 }) event with
    | error error =>
      have hstep : (session.step (.key call event)).ended = true := by
        unfold step
        simp only [h, Bool.false_eq_true, if_false, hroute]
      rw [hroute] at hcount
      cases hbatch : LiveKeyInput.routeKeyEvent call (session.input, report) event with
      | error error =>
        exact exec_ended hstep
      | ok routed =>
        rw [hbatch] at hcount
        cases hcount
    | ok routed =>
      obtain ⟨next, counted⟩ := routed
      have hstep : session.step (.key call event) =
          ⟨next, false, session.strokes ++ [event.stroke]⟩ := by
        unfold step
        simp only [h, Bool.false_eq_true, if_false, hroute]
      rw [hroute] at hcount
      cases hbatch : LiveKeyInput.routeKeyEvent call (session.input, report) event with
      | error error =>
        rw [hbatch] at hcount
        cases hcount
      | ok batch =>
        obtain ⟨same, counted⟩ := batch
        rw [hbatch] at hcount
        obtain rfl : same = next := Except.ok.inj hcount
        have hrest := @ih ⟨same, false, session.strokes ++ [event.stroke]⟩ counted rfl
        rw [hstep]
        simp only [List.append_assoc, List.singleton_append] at hrest
        exact hrest

/-- A call with several events is the events one after the other, up to an error. -/
theorem exec_routeInputEvents (call : RouteInputCall) (events : List KeyEventPacket)
    (h : session.ended = false) :
    match session.input.routeInputEvents call events with
    | .error _ => (Run.exec step session (events.map (.key call))).ended = true
    | .ok (input, _) => Run.exec step session (events.map (.key call)) =
        ⟨input, false, session.strokes ++ events.map KeyEventPacket.stroke⟩ :=
  exec_routeKeyEvents events _ h

end KeySession

/-- A keyboard that only knows which keys are down. -/
def heldKeymap : XkbKeymap (UInt8 → Bool) where
  initial := fun _ => false
  modifierMask := fun _ => 0
  updateKey := Function.update

def heldView : KeyView heldKeymap where
  down := id
  down_initial := fun _ => rfl
  down_updateKey := fun state key pressed code => by
    simp only [heldKeymap, id, Function.update_apply, eq_comm]

def ownSurface : SurfaceId := ⟨0, 1⟩

/-- A session with one window, which has the focus. -/
def focusedInput : LiveKeyInput where
  focus := ⟨(∅ : ExtTreeMap SeatId SurfaceId).insert ⟨1⟩ ownSurface⟩
  committedSurfaces := [⟨ownSurface, 1, ⟨0, 0, 10, 10⟩, .cpuBuffer 1, .empty⟩]
  shortcuts := none
  emergencyChord := .armedState
  modifiers := .new
  physicalTextProof := none
  nextInputDelivery := 1
  inputSender := .empty
  inputCapacity := 4
  sent := []

def leftShift (pressed : Bool) : KeyMove :=
  .key ⟨false, .full⟩ ⟨1, ⟨1⟩, ⟨1⟩, 0, 42, pressed, none⟩

/-- The window is destroyed while the shift key is held over it. -/
def destroyedUnderShift : List KeyMove :=
  [leftShift true, .clearSurface ownSurface, .commit [], leftShift false]

end Sophia.Session
