import Sophia.Engine.WmShortcuts
import Sophia.Lib.Fallible
import Sophia.Lib.History

/-! A held key is taken by its shortcut, or left to the client, from press to release. -/
namespace Sophia.Engine

open Std Sophia.Protocol

structure KeyEvent where
  seat : SeatId
  keycode : UInt32
  pressed : Bool
  deriving DecidableEq, Repr

namespace KeyEvent

def SameKey (event other : KeyEvent) : Prop :=
  event.seat = other.seat ∧ event.keycode = other.keycode

instance : DecidableRel SameKey := fun _ _ => inferInstanceAs (Decidable (_ ∧ _))

end KeyEvent

structure RoutedKey where
  event : KeyEvent
  decision : WmShortcutDecision
  deriving DecidableEq, Repr

namespace RoutedKey

def presses (key press : RoutedKey) : Prop := key = press ∧ press.event.pressed = true

def releases (key press : RoutedKey) : Prop :=
  key.event.SameKey press.event ∧ key.event.pressed = false

end RoutedKey

/-- The router and everything it has decided. -/
structure ShortcutLog where
  router : WmShortcutRouter
  trace : List RoutedKey

namespace WmShortcutRouter

variable {router : WmShortcutRouter} {seat seat' : SeatId} {keycode keycode' : UInt32}

/-- The key was taken by a shortcut and has not been released. -/
def holds (router : WmShortcutRouter) (seat : SeatId) (keycode : UInt32) : Bool :=
  router.admits seat && (router.seatState seat).shortcuts.held.contains keycode

/-- The key is bound under the modifiers that are down on the seat. -/
def bound (router : WmShortcutRouter) (seat : SeatId) (keycode : UInt32) : Bool :=
  let state := router.seatState seat
  router.admits seat &&
    state.shortcuts.bindings.contains ⟨keycode, state.modifiers.mask.bits⟩

end WmShortcutRouter

namespace ShortcutLog

def start (registry : WmShortcutRegistry) : ShortcutLog := ⟨.new registry, []⟩

def step (log : ShortcutLog) (event : KeyEvent) : ShortcutLog :=
  let (decision, router) := log.router.routeKey event.seat event.keycode event.pressed
  ⟨router, log.trace ++ [⟨event, decision⟩]⟩

/-- The key of this press has not been released since. -/
def Down (press : RoutedKey) (trace : List RoutedKey) : Prop :=
  Run.Marked RoutedKey.presses RoutedKey.releases trace press

/-- Until a pressed key is released, and with its release, every event of it is consumed exactly
when the press was, and no action fires after the first. -/
def HoldConsistent (trace : List RoutedKey) : Prop :=
  ∀ before key after, trace = before ++ key :: after → ∀ press, Down press before →
    key.event.SameKey press.event → key.decision.consumed = press.decision.consumed ∧
      (press.decision.action.isSome → key.decision.action = none)

/-- A repeat of a key finds a chord bound exactly when a shortcut holds the key. -/
def KeepsChord (log : ShortcutLog) (event : KeyEvent) : Prop :=
  event.pressed = true → (∃ press, Down press log.trace ∧ event.SameKey press.event) →
    log.router.bound event.seat event.keycode = log.router.holds event.seat event.keycode

end ShortcutLog

section Routing

namespace WmShortcutRouter

variable {router : WmShortcutRouter} {seat seat' : SeatId} {keycode keycode' : UInt32}
  {pressed : Bool}

theorem registry_routeKey : (router.routeKey seat keycode pressed).2.registry = router.registry := by
  unfold routeKey
  split <;> rfl

theorem routeKey_of_not_admits (h : router.admits seat = false) :
    router.routeKey seat keycode pressed = (.pass, router) := by
  simp [routeKey, h]

theorem seats_routeKey (h : router.admits seat = true) :
    (router.routeKey seat keycode pressed).2.seats = router.seats.insert seat
      { shortcuts := ((router.seatState seat).shortcuts.handleKey keycode
          (router.seatState seat).modifiers.mask pressed).2
        modifiers := (router.seatState seat).modifiers.update keycode pressed } := by
  simp only [routeKey, h, Bool.not_true, Bool.false_eq_true, if_false]

theorem seatState_routeKey (h : router.admits seat = true) :
    (router.routeKey seat keycode pressed).2.seatState seat =
      { shortcuts := ((router.seatState seat).shortcuts.handleKey keycode
          (router.seatState seat).modifiers.mask pressed).2
        modifiers := (router.seatState seat).modifiers.update keycode pressed } := by
  rw [seatState, seats_routeKey h, ExtTreeMap.getElem?_insert_self, Option.getD_some]

theorem admits_routeKey (h : router.admits seat = true) :
    (router.routeKey seat keycode pressed).2.admits seat = true := by
  have hvalid : seat.isValid = true := by
    simp only [admits, Bool.and_eq_true] at h
    exact h.1
  rw [admits, hvalid, seats_routeKey h]
  simp

theorem seatState_routeKey_of_ne (hne : seat ≠ seat') :
    (router.routeKey seat keycode pressed).2.seatState seat' = router.seatState seat' := by
  unfold routeKey
  split
  · rfl
  · simp [seatState, ExtTreeMap.getElem?_insert, hne]

theorem contains_routeKey_of_ne (hne : seat ≠ seat') :
    (router.routeKey seat keycode pressed).2.seats.contains seat' =
      router.seats.contains seat' := by
  unfold routeKey
  split
  · rfl
  · simp [ExtTreeMap.contains_insert, hne]

/-- A seat that has no state holds nothing. -/
theorem holds_of_not_contains (hregistry : router.registry.held = ∅)
    (h : router.seats.contains seat = false) : router.holds seat keycode = false := by
  have hnone : router.seats[seat]? = none := by
    rw [ExtTreeMap.contains_eq_isSome_getElem?] at h
    exact Option.not_isSome_iff_eq_none.mp (by simp only [h, Bool.false_eq_true, not_false_eq_true])
  simp [holds, seatState, hnone, hregistry]

theorem holds_of_contains (h : router.seats.contains seat = true) :
    router.holds seat keycode =
      (seat.isValid && (router.seatState seat).shortcuts.held.contains keycode) := by
  simp [holds, admits, h]

/-- The events of one key leave what the other keys hold. -/
theorem holds_routeKey_of_ne (hregistry : router.registry.held = ∅)
    (hne : ¬ (seat = seat' ∧ keycode = keycode')) :
    (router.routeKey seat keycode pressed).2.holds seat' keycode' = router.holds seat' keycode' := by
  by_cases hseat : seat = seat'
  · subst hseat
    have hkey : keycode ≠ keycode' := fun he => hne ⟨rfl, he⟩
    cases hadmits : router.admits seat with
    | false => rw [routeKey_of_not_admits hadmits]
    | true =>
      rw [holds, holds, admits_routeKey hadmits, seatState_routeKey hadmits, hadmits]
      unfold WmShortcutRegistry.handleKey
      split
      · simp [ExtTreeMap.contains_erase, hkey]
      · split
        · rfl
        · simp [ExtTreeMap.contains_insert, hkey]
  · cases hcontains : router.seats.contains seat' with
    | false =>
      rw [holds_of_not_contains hregistry hcontains, holds_of_not_contains]
      · rw [registry_routeKey, hregistry]
      · rw [contains_routeKey_of_ne hseat, hcontains]
    | true =>
      rw [holds_of_contains hcontains, holds_of_contains, seatState_routeKey_of_ne hseat]
      rw [contains_routeKey_of_ne hseat, hcontains]

/-- A release is consumed exactly when a shortcut holds the key, which it ends. -/
theorem routeKey_release :
    (router.routeKey seat keycode false).1 = ⟨none, router.holds seat keycode⟩ ∧
      (router.routeKey seat keycode false).2.holds seat keycode = false := by
  cases hadmits : router.admits seat with
  | false =>
    rw [routeKey_of_not_admits hadmits]
    simp [holds, hadmits, WmShortcutDecision.pass]
  | true =>
    rw [holds, holds, admits_routeKey hadmits, seatState_routeKey hadmits, hadmits]
    simp [routeKey, hadmits, WmShortcutRegistry.handleKey]

/-- A press is consumed exactly when its chord is bound, and fires unless the key is held. -/
theorem routeKey_press :
    (router.routeKey seat keycode true).1.consumed = router.bound seat keycode ∧
      ((router.routeKey seat keycode true).1.action.isSome =
        (router.bound seat keycode && !router.holds seat keycode)) ∧
      (router.routeKey seat keycode true).2.holds seat keycode =
        (router.bound seat keycode || router.holds seat keycode) := by
  cases hadmits : router.admits seat with
  | false =>
    rw [routeKey_of_not_admits hadmits]
    simp [holds, bound, hadmits, WmShortcutDecision.pass]
  | true =>
    rw [holds, holds, bound, admits_routeKey hadmits, seatState_routeKey hadmits, hadmits]
    simp only [routeKey, hadmits, Bool.not_true, Bool.false_eq_true, if_false, Bool.true_and,
      WmShortcutRegistry.handleKey]
    cases hget : (router.seatState seat).shortcuts.bindings[
        (⟨keycode, (router.seatState seat).modifiers.mask.bits⟩ : WmChord)]? with
    | none =>
      have hbound : (router.seatState seat).shortcuts.bindings.contains
          ⟨keycode, (router.seatState seat).modifiers.mask.bits⟩ = false := by
        rw [ExtTreeMap.contains_eq_isSome_getElem?, hget]
        rfl
      rw [hbound]
      simp [WmShortcutDecision.pass]
    | some action =>
      have hbound : (router.seatState seat).shortcuts.bindings.contains
          ⟨keycode, (router.seatState seat).modifiers.mask.bits⟩ = true := by
        rw [ExtTreeMap.contains_eq_isSome_getElem?, hget]
        rfl
      rw [hbound]
      cases hheld : (router.seatState seat).shortcuts.held.contains keycode <;> simp

end WmShortcutRouter

end Routing

namespace ShortcutLog

variable {log : ShortcutLog} {event : KeyEvent} {press key : RoutedKey} {trace : List RoutedKey}

/-- What is kept whatever the modifiers do. -/
structure Sound (log : ShortcutLog) : Prop where
  registry : log.router.registry.held = ∅
  up : ∀ seat keycode, log.router.holds seat keycode = true →
    ∃ press, Down press log.trace ∧ press.event.seat = seat ∧ press.event.keycode = keycode
  fired : ∀ press, Down press log.trace → press.decision.action.isSome = true →
    log.router.holds press.event.seat press.event.keycode = true

/-- The router holds the keys that are down and whose press it consumed. -/
def Matches (log : ShortcutLog) : Prop :=
  ∀ press, Down press log.trace →
    log.router.holds press.event.seat press.event.keycode = press.decision.consumed

/-- The event is decided as the press of its hold was. -/
def Agrees (trace : List RoutedKey) (key : RoutedKey) : Prop :=
  ∀ press, Down press trace → key.event.SameKey press.event →
    key.decision.consumed = press.decision.consumed ∧
      (press.decision.action.isSome → key.decision.action = none)

/-- The event and what the router decides about it. -/
def routed (log : ShortcutLog) (event : KeyEvent) : RoutedKey :=
  ⟨event, (log.router.routeKey event.seat event.keycode event.pressed).1⟩

theorem trace_step : (log.step event).trace = log.trace ++ [log.routed event] := rfl

theorem down_snoc : Down press (trace ++ [key]) ↔
    (key = press ∧ press.event.pressed = true) ∨
      Down press trace ∧ ¬ (key.event.SameKey press.event ∧ key.event.pressed = false) :=
  Run.marked_snoc

theorem holdConsistent_snoc :
    HoldConsistent (trace ++ [key]) ↔ HoldConsistent trace ∧ Agrees trace key := by
  constructor
  · intro h
    refine ⟨fun before found after he => ?_, h trace key [] rfl⟩
    exact h before found (after ++ [key]) (by simp [he])
  · rintro ⟨h, hlast⟩ before found after he
    rcases List.eq_nil_or_concat after with rfl | ⟨after, last, rfl⟩
    · obtain ⟨rfl, hkey⟩ := List.append_inj' he rfl
      cases hkey
      exact hlast
    · have he : trace ++ [key] = (before ++ found :: after) ++ [last] := by simpa using he
      obtain ⟨htrace, -⟩ := List.append_inj' he rfl
      exact h before found after htrace

theorem holds_step_of_ne (h : log.Sound) (hne : ¬ event.SameKey press.event) :
    (log.step event).router.holds press.event.seat press.event.keycode =
      log.router.holds press.event.seat press.event.keycode :=
  WmShortcutRouter.holds_routeKey_of_ne h.registry hne

theorem release_step (hpressed : event.pressed = false) :
    (log.routed event).decision = ⟨none, log.router.holds event.seat event.keycode⟩ ∧
      (log.step event).router.holds event.seat event.keycode = false := by
  simp only [routed, step, hpressed]
  exact WmShortcutRouter.routeKey_release

theorem press_step (log : ShortcutLog) (hpressed : event.pressed = true) :
    (log.routed event).decision.consumed = log.router.bound event.seat event.keycode ∧
      (log.routed event).decision.action.isSome =
        (log.router.bound event.seat event.keycode &&
          !log.router.holds event.seat event.keycode) ∧
      (log.step event).router.holds event.seat event.keycode =
        (log.router.bound event.seat event.keycode ||
          log.router.holds event.seat event.keycode) := by
  simp only [routed, step, hpressed]
  exact WmShortcutRouter.routeKey_press

/-- A key that is down after an event was pressed by it or was down before. -/
theorem down_step (h : Down press (log.step event).trace) :
    (press = log.routed event ∧ event.pressed = true) ∨
      Down press log.trace ∧ (event.SameKey press.event → event.pressed = true) := by
  rw [trace_step, down_snoc] at h
  rcases h with ⟨rfl, hpressed⟩ | ⟨hdown, hkept⟩
  · exact Or.inl ⟨rfl, hpressed⟩
  · refine Or.inr ⟨hdown, fun hsame => ?_⟩
    by_contra hnot
    exact hkept ⟨hsame, Bool.not_eq_true _ ▸ hnot⟩

theorem Sound.step (h : log.Sound) (event : KeyEvent) : (log.step event).Sound where
  registry := (congrArg _ WmShortcutRouter.registry_routeKey).trans h.registry
  up := by
    intro seat keycode hholds
    by_cases hsame : event.seat = seat ∧ event.keycode = keycode
    · obtain ⟨rfl, rfl⟩ := hsame
      cases hpressed : event.pressed with
      | false =>
        rw [(release_step hpressed).2] at hholds
        cases hholds
      | true =>
        refine ⟨log.routed event, ?_, rfl, rfl⟩
        rw [trace_step, down_snoc]
        exact Or.inl ⟨rfl, hpressed⟩
    · have hbefore : log.router.holds seat keycode = true := by
        rw [← hholds]
        exact (WmShortcutRouter.holds_routeKey_of_ne h.registry hsame).symm
      obtain ⟨press, hdown, rfl, rfl⟩ := h.up seat keycode hbefore
      refine ⟨press, ?_, rfl, rfl⟩
      rw [trace_step, down_snoc]
      exact Or.inr ⟨hdown, fun hreleases => hsame hreleases.1⟩
  fired := by
    intro press hdown haction
    rcases down_step hdown with ⟨rfl, hpressed⟩ | ⟨hdown, hkept⟩
    · obtain ⟨-, hfires, hholds⟩ := press_step log hpressed
      rw [hfires, Bool.and_eq_true] at haction
      exact hholds.trans (by rw [haction.1, Bool.true_or])
    · have hheld := h.fired press hdown haction
      by_cases hsame : event.SameKey press.event
      · obtain ⟨-, -, hholds⟩ := press_step log (hkept hsame)
        rw [← hsame.1, ← hsame.2] at hheld ⊢
        rw [hholds, hheld, Bool.or_true]
      · rw [holds_step_of_ne h hsame, hheld]

/-- While the router holds what it consumed, the next event agrees with its hold exactly when a
repeat keeps its chord. -/
theorem agrees_iff (h : log.Sound) (hmatches : log.Matches) (event : KeyEvent) :
    Agrees log.trace (log.routed event) ↔ log.KeepsChord event := by
  cases hpressed : event.pressed with
  | false =>
    refine iff_of_true ?_ (by simp [KeepsChord, hpressed])
    rintro press hdown ⟨hseat, hkey⟩
    rw [(release_step hpressed).1, ← hmatches press hdown, ← hseat, ← hkey]
    exact ⟨rfl, fun _ => rfl⟩
  | true =>
    obtain ⟨hconsumed, hfires, -⟩ := press_step log hpressed
    constructor
    · rintro hagrees - ⟨press, hdown, hseat, hkey⟩
      have hsame := (hagrees press hdown ⟨hseat, hkey⟩).1
      rw [hconsumed, ← hmatches press hdown, ← hseat, ← hkey] at hsame
      exact hsame
    · rintro hkeeps press hdown ⟨hseat, hkey⟩
      have hsame := hkeeps hpressed ⟨press, hdown, hseat, hkey⟩
      refine ⟨?_, fun haction => ?_⟩
      · rw [hconsumed, hsame, ← hmatches press hdown, ← hseat, ← hkey]
        rfl
      · -- The press that fired still holds the key.
        have hheld := h.fired press hdown haction
        rw [← hseat, ← hkey] at hheld
        have hheld : log.router.holds event.seat event.keycode = true := hheld
        rw [hheld, Bool.not_true, Bool.and_false] at hfires
        exact Option.not_isSome_iff_eq_none.mp (by rw [hfires]; exact Bool.false_ne_true)

theorem Matches.step (h : log.Sound) (hmatches : log.Matches)
    (hkeeps : log.KeepsChord event) : (log.step event).Matches := by
  intro press hdown
  rcases down_step hdown with ⟨rfl, hpressed⟩ | ⟨hdown, hkept⟩
  · obtain ⟨hconsumed, -, hholds⟩ := press_step log hpressed
    refine hholds.trans ?_
    rw [hconsumed]
    -- A press of a key that was up finds it held by nothing.
    cases hheld : log.router.holds event.seat event.keycode with
    | false => rw [Bool.or_false]
    | true =>
      obtain ⟨first, hfirst, hseat, hkey⟩ := h.up _ _ hheld
      rw [hkeeps hpressed ⟨first, hfirst, hseat.symm, hkey.symm⟩, hheld, Bool.or_true]
  · by_cases hsame : event.SameKey press.event
    · have hbound := hkeeps (hkept hsame) ⟨press, hdown, hsame⟩
      obtain ⟨-, -, hholds⟩ := press_step log (hkept hsame)
      rw [← hmatches press hdown, ← hsame.1, ← hsame.2, hholds, hbound, Bool.or_self]
    · rw [holds_step_of_ne h hsame, hmatches press hdown]

theorem held_fromHello {hello : WmHello} {registry : WmShortcutRegistry}
    (h : WmShortcutRegistry.fromHello hello = .ok registry) : registry.held = ∅ := by
  unfold WmShortcutRegistry.fromHello at h
  split_ifs at h
  simp only [Fallible.bind_eq_ok, Fallible.pure_eq_ok] at h
  obtain ⟨registered, -, rfl⟩ := h
  rfl

theorem not_down_nil : ¬ Down press [] := Run.not_marked_nil

theorem sound_start {registry : WmShortcutRegistry} (h : registry.held = ∅) :
    (start registry).Sound where
  registry := h
  up := by
    intro seat keycode hholds
    rw [WmShortcutRouter.holds_of_not_contains h rfl] at hholds
    cases hholds
  fired := fun press hdown => absurd hdown not_down_nil

/-- A held key is treated alike from press to release, along a whole run, exactly when every
repeat finds a chord bound if and only if a shortcut holds the key. -/
theorem hold_consistent_iff {hello : WmHello} {registry : WmShortcutRegistry}
    (h : WmShortcutRegistry.fromHello hello = .ok registry) (events : List KeyEvent) :
    HoldConsistent (Run.exec step (start registry) events).trace ↔
      Run.Guarded step KeepsChord (start registry) events := by
  have hsound : ∀ events, (Run.exec step (start registry) events).Sound := fun events =>
    Run.invariant (sound_start (held_fromHello h)) (fun _ event _ hs => hs.step event)
      Run.guarded_true
  suffices hboth : (HoldConsistent (Run.exec step (start registry) events).trace ↔
      Run.Guarded step KeepsChord (start registry) events) ∧
      (Run.Guarded step KeepsChord (start registry) events →
        (Run.exec step (start registry) events).Matches) from hboth.1
  induction events using List.reverseRecOn with
  | nil =>
    refine ⟨iff_of_true ?_ Run.guarded_nil, fun _ press hdown => absurd hdown not_down_nil⟩
    intro before key after he
    simp [start] at he
  | append_singleton before event ih =>
    obtain ⟨hiff, hmatches⟩ := ih
    rw [Run.exec_snoc, Run.guarded_snoc, trace_step, holdConsistent_snoc, hiff]
    refine ⟨and_congr_right fun hg => agrees_iff (hsound before) (hmatches hg) event, ?_⟩
    rintro ⟨hg, hkeeps⟩
    exact (hmatches hg).step (hsound before) hkeeps

/-- One shortcut: the key with code 36 while the left super key, code 125, is down. -/
def superHello : WmHello := ⟨wmApiVersion, ⟨WmCapabilities.supported⟩, [⟨⟨7⟩, 36, ⟨8⟩⟩]⟩

def superRegistry : WmShortcutRegistry :=
  ⟨(∅ : ExtTreeMap WmChord WmActionId).insert ⟨36, 8⟩ ⟨7⟩, ∅⟩

theorem fromHello_superHello : WmShortcutRegistry.fromHello superHello = .ok superRegistry := rfl

/-- The super key goes up in the middle of the hold, and the release is still consumed. -/
theorem hold_consistent_tap :
    HoldConsistent (Run.exec step (start superRegistry)
      [⟨⟨1⟩, 125, true⟩, ⟨⟨1⟩, 36, true⟩, ⟨⟨1⟩, 125, false⟩, ⟨⟨1⟩, 36, false⟩]).trace := by
  refine (hold_consistent_iff fromHello_superHello _).mpr ?_
  refine .cons ?_ (.cons ?_ (.cons ?_ (.cons ?_ Run.guarded_nil)))
  · rintro - ⟨press, hdown, -⟩
    exact absurd hdown not_down_nil
  · rintro - ⟨press, hdown, hsame⟩
    rcases down_step hdown with ⟨rfl, -⟩ | ⟨hdown, -⟩
    · exact absurd hsame (by decide)
    · exact absurd hdown not_down_nil
  · intro hpressed
    cases hpressed
  · intro hpressed
    cases hpressed

/-- The client sees the first press; the repeat after super goes down fires the shortcut, and the
client never sees the release. -/
theorem release_of_seen_press_consumed :
    WmShortcutRegistry.fromHello superHello = .ok superRegistry ∧
      ¬ HoldConsistent (Run.exec step (start superRegistry)
        [⟨⟨1⟩, 36, true⟩, ⟨⟨1⟩, 125, true⟩, ⟨⟨1⟩, 36, true⟩, ⟨⟨1⟩, 36, false⟩]).trace := by
  refine ⟨fromHello_superHello, fun h => ?_⟩
  have htrace : (Run.exec step (start superRegistry)
      [⟨⟨1⟩, 36, true⟩, ⟨⟨1⟩, 125, true⟩, ⟨⟨1⟩, 36, true⟩, ⟨⟨1⟩, 36, false⟩]).trace =
      [⟨⟨⟨1⟩, 36, true⟩, ⟨none, false⟩⟩, ⟨⟨⟨1⟩, 125, true⟩, ⟨none, false⟩⟩,
        ⟨⟨⟨1⟩, 36, true⟩, ⟨some ⟨7⟩, true⟩⟩, ⟨⟨⟨1⟩, 36, false⟩, ⟨none, true⟩⟩] := by
    decide +kernel
  rw [htrace] at h
  have hsame := h [⟨⟨⟨1⟩, 36, true⟩, ⟨none, false⟩⟩, ⟨⟨⟨1⟩, 125, true⟩, ⟨none, false⟩⟩,
    ⟨⟨⟨1⟩, 36, true⟩, ⟨some ⟨7⟩, true⟩⟩] ⟨⟨⟨1⟩, 36, false⟩, ⟨none, true⟩⟩ [] rfl
    ⟨⟨⟨1⟩, 36, true⟩, ⟨none, false⟩⟩
    ⟨[], _, _, rfl, ⟨rfl, rfl⟩, by simp [RoutedKey.releases]⟩ ⟨rfl, rfl⟩
  exact absurd hsame.1 (by decide)

end ShortcutLog
end Sophia.Engine
