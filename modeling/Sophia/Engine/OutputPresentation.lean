import Sophia.Lib.History
import Sophia.Lib.Ordered
import Sophia.Protocol

/-! Damage, frames and page flips of each output: one frame in flight, no damage lost. -/
namespace Sophia.Engine

open Std Sophia.Protocol

def u64Max : UInt64 := UInt64.ofNat (UInt64.size - 1)

def saturatingMul (a b : UInt64) : UInt64 :=
  if a.toNat * b.toNat < UInt64.size then a * b else u64Max

structure DrmKmsMode where
  size : Size
  refreshMillihz : UInt32
  deriving DecidableEq, Repr

structure DrmKmsOutputDescriptor where
  output : OutputId
  connectorId : UInt32
  crtcId : UInt32
  mode : DrmKmsMode
  scale : UInt32
  deriving DecidableEq, Repr

structure DrmKmsOutputRegistry where
  outputs : ExtTreeMap OutputId DrmKmsOutputDescriptor

structure FrameClockTick where
  output : OutputId
  frameSerial : UInt64
  targetMsec : UInt64
  deriving DecidableEq, Repr

structure DeterministicFrameClock where
  nextSerial : UInt64
  frameIntervalMsec : UInt64
  deriving DecidableEq, Repr

namespace DeterministicFrameClock

def default : DeterministicFrameClock := ⟨1, 16⟩

def nextFrame (clock : DeterministicFrameClock) (output : OutputId) :
    FrameClockTick × DeterministicFrameClock :=
  (⟨output, clock.nextSerial, saturatingMul clock.nextSerial clock.frameIntervalMsec⟩,
    { clock with nextSerial := saturatingAdd clock.nextSerial 1 })

end DeterministicFrameClock

/-- The interval of a refresh rate, or the given one where the rate is unknown. -/
def refreshIntervalMsec (refreshMillihz : UInt32) (unknown : UInt64) : UInt64 :=
  if refreshMillihz = 0 then unknown else max (1000000 / refreshMillihz.toUInt64) 1

structure PerOutputFrameClock where
  clocks : ExtTreeMap OutputId DeterministicFrameClock
  fallback : DeterministicFrameClock

namespace PerOutputFrameClock

def fromOutputs (outputs : DrmKmsOutputRegistry) (fallback : DeterministicFrameClock) :
    PerOutputFrameClock where
  clocks := .ofList ((Ordered.values outputs.outputs).map fun output =>
    (output.output, DeterministicFrameClock.mk fallback.nextSerial
      (refreshIntervalMsec output.mode.refreshMillihz fallback.frameIntervalMsec)))
  fallback := fallback

def nextFrame (clocks : PerOutputFrameClock) (output : OutputId) :
    FrameClockTick × PerOutputFrameClock :=
  match clocks.clocks[output]? with
  | some clock =>
    let (tick, clock) := clock.nextFrame output
    (tick, { clocks with clocks := clocks.clocks.insert output clock })
  | none =>
    let (tick, fallback) := clocks.fallback.nextFrame output
    (tick, { clocks with fallback })

end PerOutputFrameClock

structure OutputPresentationState where
  output : OutputId
  refreshMillihz : UInt32
  damagePending : Bool
  inFlightFrame : Option UInt64
  lastRetiredFrame : Option UInt64
  lastPresentedSequence : Option UInt64
  lastPresentedMsec : Option UInt64
  nextTargetMsec : Option UInt64
  submitDeferrals : UInt64
  deriving DecidableEq, Repr

def OutputPresentationState.idle (output : OutputId) (refreshMillihz : UInt32) :
    OutputPresentationState :=
  ⟨output, refreshMillihz, false, none, none, none, none, none, 0⟩

inductive OutputPresentationSchedule where
  | scheduled (tick : FrameClockTick)
  | waitingForDamage
  | waitingForRetirement (frameSerial : UInt64)
  | unknownOutput
  deriving DecidableEq, Repr

inductive OutputPresentationRetire where
  | retired (frameSerial : UInt64)
  | noSubmission
  | unexpectedFrame (expected actual : UInt64)
  | unknownOutput
  deriving DecidableEq, Repr

inductive OutputPresentationFeedback where
  | accepted (sequence presentationMsec : UInt64)
  | nonMonotonicSequence (previous actual : UInt64)
  | nonMonotonicTimestamp (previousMsec actualMsec : UInt64)
  | unknownOutput
  deriving DecidableEq, Repr

structure OutputPresentationRegistry where
  states : ExtTreeMap OutputId OutputPresentationState
  clocks : PerOutputFrameClock

namespace OutputPresentationRegistry

def fromOutputs (outputs : DrmKmsOutputRegistry) : OutputPresentationRegistry where
  states := .ofList ((Ordered.values outputs.outputs).map fun output =>
    (output.output, OutputPresentationState.idle output.output output.mode.refreshMillihz))
  clocks := .fromOutputs outputs .default

def markDamage (registry : OutputPresentationRegistry) (output : OutputId) :
    Bool × OutputPresentationRegistry :=
  match registry.states[output]? with
  | none => (false, registry)
  | some state =>
    (true, { registry with states := registry.states.insert output { state with damagePending := true } })

def schedule (registry : OutputPresentationRegistry) (output : OutputId) :
    OutputPresentationSchedule × OutputPresentationRegistry :=
  match registry.states[output]? with
  | none => (.unknownOutput, registry)
  | some state => match state.inFlightFrame with
    | some frameSerial =>
      (.waitingForRetirement frameSerial, { registry with
        states := registry.states.insert output
          { state with submitDeferrals := saturatingAdd state.submitDeferrals 1 } })
    | none =>
      if !state.damagePending then (.waitingForDamage, registry)
      else
        let (tick, clocks) := registry.clocks.nextFrame output
        let tick := { tick with targetMsec := state.nextTargetMsec.getD tick.targetMsec }
        (.scheduled tick, {
          states := registry.states.insert output
            { state with damagePending := false, inFlightFrame := some tick.frameSerial }
          clocks })

def retire (registry : OutputPresentationRegistry) (output : OutputId) (frameSerial : UInt64) :
    OutputPresentationRetire × OutputPresentationRegistry :=
  match registry.states[output]? with
  | none => (.unknownOutput, registry)
  | some state => match state.inFlightFrame with
    | none => (.noSubmission, registry)
    | some expected =>
      if expected ≠ frameSerial then (.unexpectedFrame expected frameSerial, registry)
      else (.retired frameSerial, { registry with
        states := registry.states.insert output
          { state with inFlightFrame := none, lastRetiredFrame := some frameSerial } })

/-- The feedback a page flip gets, by what was presented before it. -/
def flipFeedback (state : OutputPresentationState) (sequence presentationMsec : UInt64) :
    OutputPresentationFeedback :=
  match state.lastPresentedSequence.filter fun previous => sequence ≤ previous with
  | some previous => .nonMonotonicSequence previous sequence
  | none => match state.lastPresentedMsec.filter fun previous => presentationMsec < previous with
    | some previousMsec => .nonMonotonicTimestamp previousMsec presentationMsec
    | none => .accepted sequence presentationMsec

def observePageFlip (registry : OutputPresentationRegistry) (output : OutputId)
    (sequence presentationMsec : UInt64) :
    OutputPresentationFeedback × OutputPresentationRegistry :=
  match registry.states[output]? with
  | none => (.unknownOutput, registry)
  | some state => match flipFeedback state sequence presentationMsec with
    | .accepted _ _ => (.accepted sequence presentationMsec, { registry with
        states := registry.states.insert output { state with
          lastPresentedSequence := some sequence
          lastPresentedMsec := some presentationMsec
          nextTargetMsec := some (saturatingAdd presentationMsec
            (refreshIntervalMsec state.refreshMillihz 16)) } })
    | refused => (refused, registry)

end OutputPresentationRegistry

inductive OutputRequest where
  | markDamage (output : OutputId)
  | schedule (output : OutputId)
  | retire (output : OutputId) (frameSerial : UInt64)
  | observePageFlip (output : OutputId) (sequence presentationMsec : UInt64)
  deriving DecidableEq, Repr

def OutputRequest.output : OutputRequest → OutputId
  | .markDamage output => output
  | .schedule output => output
  | .retire output _ => output
  | .observePageFlip output _ _ => output

/-- A call that changed something other than a deferral count. -/
inductive OutputEvent where
  | damaged
  | scheduled (frameSerial : UInt64)
  | retired (frameSerial : UInt64)
  | flipped (sequence presentationMsec : UInt64)
  deriving DecidableEq, Repr

namespace OutputPresentationRegistry

/-- Runs a call and reports what it achieved for its output, if anything; a retired frame is
reported under the serial it was retired by. -/
def apply (registry : OutputPresentationRegistry) :
    OutputRequest → Option OutputEvent × OutputPresentationRegistry
  | .markDamage output => match registry.markDamage output with
    | (true, next) => (some .damaged, next)
    | (false, next) => (none, next)
  | .schedule output => match registry.schedule output with
    | (.scheduled tick, next) => (some (.scheduled tick.frameSerial), next)
    | (_, next) => (none, next)
  | .retire output frameSerial => match registry.retire output frameSerial with
    | (.retired _, next) => (some (.retired frameSerial), next)
    | (_, next) => (none, next)
  | .observePageFlip output sequence presentationMsec =>
    match registry.observePageFlip output sequence presentationMsec with
    | (.accepted sequence presentationMsec, next) =>
      (some (.flipped sequence presentationMsec), next)
    | (_, next) => (none, next)

end OutputPresentationRegistry

/-- A registry and, for every output, what the calls on it achieved so far. -/
structure OutputLog where
  registry : OutputPresentationRegistry
  events : OutputId → List OutputEvent

namespace OutputLog

def start (outputs : DrmKmsOutputRegistry) : OutputLog := ⟨.fromOutputs outputs, fun _ => []⟩

def step (log : OutputLog) (request : OutputRequest) : OutputLog where
  registry := (log.registry.apply request).2
  events output :=
    if request.output = output then log.events output ++ (log.registry.apply request).1.toList
    else log.events output

def scheduledSerials (events : List OutputEvent) : List UInt64 :=
  events.filterMap fun | .scheduled frameSerial => some frameSerial | _ => none

def retiredSerials (events : List OutputEvent) : List UInt64 :=
  events.filterMap fun | .retired frameSerial => some frameSerial | _ => none

/-- The sequence and timestamp of every accepted page flip. -/
def acceptedFlips (events : List OutputEvent) : List (UInt64 × UInt64) :=
  events.filterMap fun
    | .flipped sequence presentationMsec => some (sequence, presentationMsec)
    | _ => none

/-- Damage was marked and no frame has been scheduled since. -/
def Damaged (events : List OutputEvent) : Prop :=
  Run.Marked (fun event (_ : Unit) => event = .damaged)
    (fun event _ => ∃ frameSerial, event = .scheduled frameSerial) events ()

def inFlight (log : OutputLog) (output : OutputId) : Option UInt64 :=
  log.registry.states[output]?.bind (·.inFlightFrame)

def damagePending (log : OutputLog) (output : OutputId) : Bool :=
  log.registry.states[output]?.any (·.damagePending)

end OutputLog

section Lanes

variable {state state' : OutputPresentationState} {clock : DeterministicFrameClock}
  {events : List OutputEvent} {output : OutputId}

/-- What the presentation state and the clock of an output say about its past. -/
structure Lane (state : OutputPresentationState) (clock : DeterministicFrameClock)
    (events : List OutputEvent) : Prop where
  frames : OutputLog.scheduledSerials events =
    OutputLog.retiredSerials events ++ state.inFlightFrame.toList
  increasing : (OutputLog.scheduledSerials events).Pairwise
    fun a b => a.toNat < b.toNat ∨ a = u64Max
  below : ∀ serial ∈ OutputLog.scheduledSerials events,
    serial.toNat < clock.nextSerial.toNat ∨ serial = u64Max
  damage : state.damagePending = true ↔ OutputLog.Damaged events
  flips : (OutputLog.acceptedFlips events).Pairwise
    fun a b => a.1.toNat < b.1.toNat ∧ a.2.toNat ≤ b.2.toNat
  last : ∀ flip ∈ OutputLog.acceptedFlips events, ∃ sequence msec,
    state.lastPresentedSequence = some sequence ∧ state.lastPresentedMsec = some msec ∧
      flip.1.toNat ≤ sequence.toNat ∧ flip.2.toNat ≤ msec.toNat

theorem lane_idle (refreshMillihz : UInt32) : Lane (.idle output refreshMillihz) clock [] where
  frames := rfl
  increasing := .nil
  below := by simp [OutputLog.scheduledSerials]
  damage := iff_of_false (by simp [OutputPresentationState.idle]) Run.not_marked_nil
  flips := .nil
  last := by simp [OutputLog.acceptedFlips]

theorem Lane.congr (h : Lane state clock events) (hdamage : state'.damagePending = state.damagePending)
    (hframe : state'.inFlightFrame = state.inFlightFrame)
    (hsequence : state'.lastPresentedSequence = state.lastPresentedSequence)
    (hmsec : state'.lastPresentedMsec = state.lastPresentedMsec) : Lane state' clock events where
  frames := by
    rw [hframe]
    exact h.frames
  increasing := h.increasing
  below := h.below
  damage := by
    rw [hdamage]
    exact h.damage
  flips := h.flips
  last := by
    rw [hsequence, hmsec]
    exact h.last

theorem damaged_snoc {event : OutputEvent} :
    OutputLog.Damaged (events ++ [event]) ↔
      event = .damaged ∨ OutputLog.Damaged events ∧ ¬ ∃ frameSerial, event = .scheduled frameSerial :=
  Run.marked_snoc

theorem Lane.damaged (h : Lane state clock events) :
    Lane { state with damagePending := true } clock (events ++ [.damaged]) where
  frames := by simpa [OutputLog.scheduledSerials, OutputLog.retiredSerials] using h.frames
  increasing := by simpa [OutputLog.scheduledSerials] using h.increasing
  below := by simpa [OutputLog.scheduledSerials] using h.below
  damage := by simp [damaged_snoc]
  flips := by simpa [OutputLog.acceptedFlips] using h.flips
  last := by simpa [OutputLog.acceptedFlips] using h.last

/-- The clock's next serial is above all earlier ones, or all of them have saturated. -/
theorem Lane.scheduled (h : Lane state clock events) (hidle : state.inFlightFrame = none) :
    Lane { state with damagePending := false, inFlightFrame := some clock.nextSerial }
      (clock.nextFrame output).2 (events ++ [.scheduled clock.nextSerial]) where
  frames := by
    have hframes := h.frames
    rw [hidle, Option.toList_none, List.append_nil] at hframes
    simp only [OutputLog.scheduledSerials, OutputLog.retiredSerials] at hframes ⊢
    simp [hframes]
  increasing := by
    have hsplit : OutputLog.scheduledSerials (events ++ [.scheduled clock.nextSerial]) =
        OutputLog.scheduledSerials events ++ [clock.nextSerial] := by
      simp [OutputLog.scheduledSerials]
    rw [hsplit]
    refine List.pairwise_append.mpr ⟨h.increasing, by simp, ?_⟩
    intro a ha b hb
    rw [List.mem_singleton.mp hb]
    exact h.below a ha
  below := by
    have hsplit : OutputLog.scheduledSerials (events ++ [.scheduled clock.nextSerial]) =
        OutputLog.scheduledSerials events ++ [clock.nextSerial] := by
      simp [OutputLog.scheduledSerials]
    have hmax : (u64Max).toNat = UInt64.size - 1 := rfl
    have hbound := clock.nextSerial.toNat_lt_size
    intro serial hserial
    rw [hsplit] at hserial
    have hnext : (clock.nextFrame output).2.nextSerial.toNat =
        min (clock.nextSerial.toNat + 1) (UInt64.size - 1) := toNat_saturatingAdd _ 1
    have hle : serial.toNat ≤ clock.nextSerial.toNat ∨ serial = u64Max := by
      rcases List.mem_append.mp hserial with hserial | hserial
      · exact (h.below serial hserial).imp_left Nat.le_of_lt
      · exact Or.inl (by rw [List.mem_singleton.mp hserial])
    rcases hle with hle | hsaturated
    · by_cases htop : serial = u64Max
      · exact Or.inr htop
      · have hne : serial.toNat ≠ UInt64.size - 1 := fun he => htop (UInt64.toNat_inj.mp he)
        left
        omega
    · exact Or.inr hsaturated
  damage := by simp [damaged_snoc]
  flips := by simpa [OutputLog.acceptedFlips] using h.flips
  last := by simpa [OutputLog.acceptedFlips] using h.last

theorem Lane.retired (h : Lane state clock events) {frameSerial : UInt64}
    (hflight : state.inFlightFrame = some frameSerial) :
    Lane { state with inFlightFrame := none, lastRetiredFrame := some frameSerial } clock
      (events ++ [.retired frameSerial]) where
  frames := by
    have hframes := h.frames
    rw [hflight, Option.toList_some] at hframes
    simp only [OutputLog.scheduledSerials, OutputLog.retiredSerials] at hframes ⊢
    simp [hframes]
  increasing := by simpa [OutputLog.scheduledSerials] using h.increasing
  below := by simpa [OutputLog.scheduledSerials] using h.below
  damage := by
    have hdamage := h.damage
    simpa [damaged_snoc] using hdamage
  flips := by simpa [OutputLog.acceptedFlips] using h.flips
  last := by simpa [OutputLog.acceptedFlips] using h.last

theorem Lane.flipped (h : Lane state clock events) {sequence msec : UInt64}
    {nextTargetMsec : Option UInt64}
    (hsequence : ∀ previous, state.lastPresentedSequence = some previous →
      previous.toNat < sequence.toNat)
    (hmsec : ∀ previous, state.lastPresentedMsec = some previous → previous.toNat ≤ msec.toNat) :
    Lane { state with
        lastPresentedSequence := some sequence
        lastPresentedMsec := some msec
        nextTargetMsec } clock (events ++ [.flipped sequence msec]) where
  frames := by simpa [OutputLog.scheduledSerials, OutputLog.retiredSerials] using h.frames
  increasing := by simpa [OutputLog.scheduledSerials] using h.increasing
  below := by simpa [OutputLog.scheduledSerials] using h.below
  damage := by
    have hdamage := h.damage
    simpa [damaged_snoc] using hdamage
  flips := by
    have hsplit : OutputLog.acceptedFlips (events ++ [.flipped sequence msec]) =
        OutputLog.acceptedFlips events ++ [(sequence, msec)] := by simp [OutputLog.acceptedFlips]
    rw [hsplit]
    refine List.pairwise_append.mpr ⟨h.flips, by simp, ?_⟩
    intro a ha b hb
    rw [List.mem_singleton.mp hb]
    obtain ⟨lastSequence, lastMsec, hs, hm, hle, hle'⟩ := h.last a ha
    exact ⟨Nat.lt_of_le_of_lt hle (hsequence lastSequence hs), Nat.le_trans hle' (hmsec lastMsec hm)⟩
  last := by
    intro flip hflip
    refine ⟨sequence, msec, rfl, rfl, ?_⟩
    have hsplit : OutputLog.acceptedFlips (events ++ [.flipped sequence msec]) =
        OutputLog.acceptedFlips events ++ [(sequence, msec)] := by simp [OutputLog.acceptedFlips]
    rw [hsplit] at hflip
    rcases List.mem_append.mp hflip with hflip | hflip
    · obtain ⟨lastSequence, lastMsec, hs, hm, hle, hle'⟩ := h.last flip hflip
      have hlt := hsequence lastSequence hs
      have hge := hmsec lastMsec hm
      exact ⟨by omega, by omega⟩
    · rw [List.mem_singleton.mp hflip]
      exact ⟨Nat.le_refl _, Nat.le_refl _⟩

end Lanes
section Runs

namespace OutputLog

variable {log : OutputLog} {output : OutputId}

/-- An output of the registry has a clock and a past; no other output has one. -/
def Consistent (log : OutputLog) (output : OutputId) : Prop :=
  match log.registry.states[output]?, log.registry.clocks.clocks[output]? with
  | some state, some clock => Lane state clock (log.events output)
  | none, _ => log.events output = []
  | some _, none => False

theorem consistent_of_lane {state : OutputPresentationState} {clock : DeterministicFrameClock}
    (hstate : log.registry.states[output]? = some state)
    (hclock : log.registry.clocks.clocks[output]? = some clock)
    (h : Lane state clock (log.events output)) : log.Consistent output := by
  rw [Consistent, hstate, hclock]
  exact h

theorem Consistent.lane (h : log.Consistent output) {state : OutputPresentationState}
    (hstate : log.registry.states[output]? = some state) :
    ∃ clock, log.registry.clocks.clocks[output]? = some clock ∧
      Lane state clock (log.events output) := by
  rw [Consistent, hstate] at h
  cases hclock : log.registry.clocks.clocks[output]? with
  | none =>
    rw [hclock] at h
    cases h
  | some clock =>
    rw [hclock] at h
    exact ⟨clock, rfl, h⟩

end OutputLog

namespace OutputPresentationRegistry

variable {registry next : OutputPresentationRegistry} {output other : OutputId}
  {event : Option OutputEvent}

/-- What a call on an output can do, by what it achieves. -/
inductive Effect (registry : OutputPresentationRegistry) (output : OutputId) :
    Option OutputEvent → OutputPresentationRegistry → Prop where
  | nothing : Effect registry output none registry
  | damaged {state : OutputPresentationState} (known : registry.states[output]? = some state) :
      Effect registry output (some .damaged) { registry with
        states := registry.states.insert output { state with damagePending := true } }
  | deferred {state : OutputPresentationState} {submitDeferrals : UInt64}
      (known : registry.states[output]? = some state) :
      Effect registry output none { registry with
        states := registry.states.insert output { state with submitDeferrals } }
  | scheduled {state : OutputPresentationState} (known : registry.states[output]? = some state)
      (idle : state.inFlightFrame = none) :
      Effect registry output (some (.scheduled (registry.clocks.nextFrame output).1.frameSerial)) {
        states := registry.states.insert output { state with
          damagePending := false
          inFlightFrame := some (registry.clocks.nextFrame output).1.frameSerial }
        clocks := (registry.clocks.nextFrame output).2 }
  | retired {state : OutputPresentationState} {frameSerial : UInt64}
      (known : registry.states[output]? = some state)
      (flight : state.inFlightFrame = some frameSerial) :
      Effect registry output (some (.retired frameSerial)) { registry with
        states := registry.states.insert output
          { state with inFlightFrame := none, lastRetiredFrame := some frameSerial } }
  | flipped {state : OutputPresentationState} {sequence msec : UInt64}
      {nextTargetMsec : Option UInt64} (known : registry.states[output]? = some state)
      (later : ∀ previous, state.lastPresentedSequence = some previous →
        previous.toNat < sequence.toNat)
      (ordered : ∀ previous, state.lastPresentedMsec = some previous →
        previous.toNat ≤ msec.toNat) :
      Effect registry output (some (.flipped sequence msec)) { registry with
        states := registry.states.insert output { state with
          lastPresentedSequence := some sequence
          lastPresentedMsec := some msec
          nextTargetMsec } }

theorem markDamage_effect : Effect registry output (registry.apply (.markDamage output)).1
    (registry.apply (.markDamage output)).2 := by
  rw [apply, markDamage]
  cases hstate : registry.states[output]? with
  | none => exact .nothing
  | some state => exact .damaged hstate

theorem schedule_effect : Effect registry output (registry.apply (.schedule output)).1
    (registry.apply (.schedule output)).2 := by
  rw [apply, schedule]
  cases hstate : registry.states[output]? with
  | none => exact .nothing
  | some state =>
    cases hflight : state.inFlightFrame with
    | some frameSerial =>
      have hdeferred := @Effect.deferred registry output state (saturatingAdd state.submitDeferrals 1) hstate
      simp only [hflight] at hdeferred ⊢
      exact hdeferred
    | none =>
      cases hdamage : state.damagePending with
      | false =>
        simp only [hflight, hdamage, Bool.not_false, if_true]
        exact .nothing
      | true =>
        simp only [hflight, hdamage, Bool.not_true, Bool.false_eq_true, if_false]
        exact .scheduled hstate hflight

theorem retire_effect (frameSerial : UInt64) :
    Effect registry output (registry.apply (.retire output frameSerial)).1
      (registry.apply (.retire output frameSerial)).2 := by
  rw [apply, retire]
  cases hstate : registry.states[output]? with
  | none => exact .nothing
  | some state =>
    cases hflight : state.inFlightFrame with
    | none =>
      simp only [hflight]
      exact .nothing
    | some expected =>
      by_cases hserial : expected = frameSerial
      · subst hserial
        simp only [hflight, ne_eq, not_true_eq_false, if_false]
        exact .retired hstate hflight
      · simp only [hflight, ne_eq, hserial, not_false_eq_true, if_true]
        exact .nothing

/-- A page flip is accepted only after the last one, and at no earlier time. -/
theorem flipFeedback_accepted {state : OutputPresentationState} {sequence msec : UInt64}
    {sequence' msec' : UInt64}
    (h : flipFeedback state sequence msec = .accepted sequence' msec') :
    (∀ previous, state.lastPresentedSequence = some previous →
      previous.toNat < sequence.toNat) ∧
    ∀ previous, state.lastPresentedMsec = some previous → previous.toNat ≤ msec.toNat := by
  rw [flipFeedback] at h
  split at h
  · cases h
  rename_i hsequence
  split at h
  · cases h
  rename_i hmsec
  constructor
  · intro previous hprevious
    rw [hprevious] at hsequence
    have hnot := Option.filter_eq_none_iff.mp hsequence previous rfl
    simpa [UInt64.le_iff_toNat_le] using hnot
  · intro previous hprevious
    rw [hprevious] at hmsec
    have hnot := Option.filter_eq_none_iff.mp hmsec previous rfl
    simpa [UInt64.lt_iff_toNat_lt] using hnot

theorem observePageFlip_effect (sequence msec : UInt64) :
    Effect registry output (registry.apply (.observePageFlip output sequence msec)).1
      (registry.apply (.observePageFlip output sequence msec)).2 := by
  rw [apply, observePageFlip]
  cases hstate : registry.states[output]? with
  | none => exact .nothing
  | some state =>
    cases hfeedback : flipFeedback state sequence msec with
    | accepted sequence' msec' =>
      obtain ⟨hlater, hordered⟩ := flipFeedback_accepted hfeedback
      simp only [hfeedback]
      exact .flipped hstate hlater hordered
    | nonMonotonicSequence previous actual =>
      simp only [hfeedback]
      exact .nothing
    | nonMonotonicTimestamp previous actual =>
      simp only [hfeedback]
      exact .nothing
    | unknownOutput =>
      simp only [hfeedback]
      exact .nothing

theorem apply_effect (registry : OutputPresentationRegistry) (request : OutputRequest) :
    Effect registry request.output (registry.apply request).1 (registry.apply request).2 := by
  cases request with
  | markDamage output => exact markDamage_effect
  | schedule output => exact schedule_effect
  | retire output frameSerial => exact retire_effect frameSerial
  | observePageFlip output sequence msec => exact observePageFlip_effect sequence msec

theorem states_insert_of_ne {state : OutputPresentationState} (hne : output ≠ other) :
    (registry.states.insert output state)[other]? = registry.states[other]? := by
  simp [ExtTreeMap.getElem?_insert, hne]

theorem clocks_nextFrame_of_ne (hne : output ≠ other) :
    (registry.clocks.nextFrame output).2.clocks[other]? = registry.clocks.clocks[other]? := by
  simp only [PerOutputFrameClock.nextFrame]
  split
  · simp [ExtTreeMap.getElem?_insert, hne]
  · rfl

/-- A call on one output is invisible at every other one. -/
theorem Effect.frame (h : Effect registry output event next) (hne : output ≠ other) :
    next.states[other]? = registry.states[other]? ∧
      next.clocks.clocks[other]? = registry.clocks.clocks[other]? := by
  cases h with
  | nothing => exact ⟨rfl, rfl⟩
  | damaged known => exact ⟨states_insert_of_ne hne, rfl⟩
  | deferred known => exact ⟨states_insert_of_ne hne, rfl⟩
  | scheduled known idle => exact ⟨states_insert_of_ne hne, clocks_nextFrame_of_ne hne⟩
  | retired known flight => exact ⟨states_insert_of_ne hne, rfl⟩
  | flipped known later ordered => exact ⟨states_insert_of_ne hne, rfl⟩

end OutputPresentationRegistry

namespace OutputLog

variable {log : OutputLog} {output : OutputId}

theorem step_other {request : OutputRequest} (hne : request.output ≠ output) :
    (log.step request).events output = log.events output := if_neg hne

theorem step_own (request : OutputRequest) :
    (log.step request).events request.output =
      log.events request.output ++ (log.registry.apply request).1.toList := if_pos rfl

theorem Consistent.step (h : log.Consistent output) (request : OutputRequest) :
    (log.step request).Consistent output := by
  have heffect := log.registry.apply_effect request
  by_cases hne : request.output = output
  · subst hne
    have hevents := log.step_own request
    have hregistry : (log.step request).registry = (log.registry.apply request).2 := rfl
    generalize (log.registry.apply request).1 = event at heffect hevents
    generalize (log.registry.apply request).2 = next at heffect hregistry
    generalize log.step request = log' at hevents hregistry ⊢
    generalize request.output = output at *
    cases heffect with
    | nothing =>
      rw [Consistent, hregistry, hevents, Option.toList_none, List.append_nil]
      exact h
    | damaged known =>
      obtain ⟨clock, hclock, hlane⟩ := h.lane known
      apply consistent_of_lane
      · rw [hregistry, ExtTreeMap.getElem?_insert_self]
      · rw [hregistry]
        exact hclock
      · rw [hevents]
        exact hlane.damaged
    | deferred known =>
      obtain ⟨clock, hclock, hlane⟩ := h.lane known
      apply consistent_of_lane
      · rw [hregistry, ExtTreeMap.getElem?_insert_self]
      · rw [hregistry]
        exact hclock
      · rw [hevents, Option.toList_none, List.append_nil]
        exact hlane.congr rfl rfl rfl rfl
    | scheduled known idle =>
      obtain ⟨clock, hclock, hlane⟩ := h.lane known
      have htick : log.registry.clocks.nextFrame output = ((clock.nextFrame output).1,
          { log.registry.clocks with
            clocks := log.registry.clocks.clocks.insert output (clock.nextFrame output).2 }) := by
        rw [PerOutputFrameClock.nextFrame, hclock]
      apply consistent_of_lane
      · rw [hregistry, ExtTreeMap.getElem?_insert_self]
      · rw [hregistry, htick, ExtTreeMap.getElem?_insert_self]
      · rw [hevents, htick]
        exact hlane.scheduled idle
    | retired known flight =>
      obtain ⟨clock, hclock, hlane⟩ := h.lane known
      apply consistent_of_lane
      · rw [hregistry, ExtTreeMap.getElem?_insert_self]
      · rw [hregistry]
        exact hclock
      · rw [hevents]
        exact hlane.retired flight
    | flipped known later ordered =>
      obtain ⟨clock, hclock, hlane⟩ := h.lane known
      apply consistent_of_lane
      · rw [hregistry, ExtTreeMap.getElem?_insert_self]
      · rw [hregistry]
        exact hclock
      · rw [hevents]
        exact hlane.flipped later ordered
  · obtain ⟨hstates, hclocks⟩ := heffect.frame hne
    have hevents := log.step_other hne
    simp only [Consistent, hevents]
    simp only [OutputLog.step, hstates, hclocks]
    exact h

theorem consistent_start (outputs : DrmKmsOutputRegistry) (output : OutputId) :
    (start outputs).Consistent output := by
  cases hstate : (start outputs).registry.states[output]? with
  | none =>
    rw [Consistent, hstate]
    rfl
  | some state =>
    have hidle : ∃ refreshMillihz id, state = .idle id refreshMillihz := by
      refine Ordered.getElem?_ofList_mem
        (P := fun state => ∃ refreshMillihz id, state = .idle id refreshMillihz) ?_ hstate
      intro entry hentry
      obtain ⟨descriptor, -, rfl⟩ := List.mem_map.mp hentry
      exact ⟨_, _, rfl⟩
    have hmem : output ∈ (start outputs).registry.clocks.clocks := by
      have hknown : output ∈ (start outputs).registry.states :=
        ExtTreeMap.isSome_getElem?_iff_mem.mp (by rw [hstate]; rfl)
      simp only [start, OutputPresentationRegistry.fromOutputs, PerOutputFrameClock.fromOutputs,
        ExtTreeMap.mem_ofList, List.map_map] at hknown ⊢
      exact hknown
    obtain ⟨refreshMillihz, id, rfl⟩ := hidle
    exact consistent_of_lane hstate (ExtTreeMap.getElem?_eq_some_getElem hmem)
      (lane_idle refreshMillihz)

theorem consistent_run (outputs : DrmKmsOutputRegistry) (requests : List OutputRequest)
    (output : OutputId) : (Run.exec step (start outputs) requests).Consistent output :=
  Run.invariant (P := fun log => Consistent log output) (consistent_start outputs output)
    (fun _ request _ h => h.step request) Run.guarded_true

/-- What an output was asked for: its frames are scheduled under increasing serials and retired in
that order, all but the one in flight; damage is pending exactly when it came after the last
schedule; page flips advance; and calls on other outputs leave it alone. -/
theorem presentation_law (outputs : DrmKmsOutputRegistry) (requests : List OutputRequest)
    (output : OutputId) :
    let log := Run.exec step (start outputs) requests
    scheduledSerials (log.events output) =
        retiredSerials (log.events output) ++ (log.inFlight output).toList ∧
      (scheduledSerials (log.events output)).Pairwise
        (fun a b => a.toNat < b.toNat ∨ a = u64Max) ∧
      (log.damagePending output = true ↔ Damaged (log.events output)) ∧
      (acceptedFlips (log.events output)).Pairwise
        (fun a b => a.1.toNat < b.1.toNat ∧ a.2.toNat ≤ b.2.toNat) ∧
      ∀ request : OutputRequest, request.output ≠ output →
        (log.step request).registry.states[output]? = log.registry.states[output]? ∧
        (log.step request).registry.clocks.clocks[output]? =
          log.registry.clocks.clocks[output]? := by
  intro log
  have hlog : log.Consistent output := consistent_run outputs requests output
  have hother : ∀ request : OutputRequest, request.output ≠ output → _ := fun request hne =>
    (log.registry.apply_effect request).frame hne
  cases hstate : log.registry.states[output]? with
  | none =>
    rw [Consistent, hstate] at hlog
    have hevents : log.events output = [] := hlog
    refine ⟨?_, ?_, ?_, ?_, hstate ▸ hother⟩
    · simp [hevents, inFlight, hstate, scheduledSerials, retiredSerials]
    · simp [hevents, scheduledSerials]
    · rw [hevents]
      exact iff_of_false (by simp [damagePending, hstate]) Run.not_marked_nil
    · simp [hevents, acceptedFlips]
  | some state =>
    obtain ⟨clock, -, hlane⟩ := hlog.lane hstate
    refine ⟨?_, hlane.increasing, ?_, hlane.flips, hstate ▸ hother⟩
    · rw [inFlight, hstate]
      exact hlane.frames
    · rw [damagePending, hstate]
      exact hlane.damage

end OutputLog
end Runs
end Sophia.Engine
