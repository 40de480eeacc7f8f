import Sophia.Engine.OutputPresentation
import Sophia.Lib.Lanes

/-! The cycles that wait for their page flips, in step with the frames the engine has in flight. -/
namespace Sophia.Engine.OutputPresentationRegistry

open Std Sophia.Protocol

variable {registry : OutputPresentationRegistry} {output other : OutputId}

/-- The frame submitted for an output and not yet retired. -/
def inFlight (registry : OutputPresentationRegistry) (output : OutputId) : Option UInt64 :=
  registry.states[output]?.bind (·.inFlightFrame)

theorem inFlight_insert {states : ExtTreeMap OutputId OutputPresentationState}
    {clocks : PerOutputFrameClock} {state : OutputPresentationState} :
    inFlight ⟨states.insert output state, clocks⟩ other =
      if output = other then state.inFlightFrame
      else states[other]?.bind OutputPresentationState.inFlightFrame := by
  unfold inFlight
  rw [ExtTreeMap.getElem?_insert]
  by_cases he : output = other
  · simp [he]
  · simp [he]

/-- Writing back a state with the frame it had moves no frame. -/
theorem inFlight_insert_same {state state' : OutputPresentationState} {clocks : PerOutputFrameClock}
    (hget : registry.states[output]? = some state)
    (hsame : state'.inFlightFrame = state.inFlightFrame) :
    inFlight ⟨registry.states.insert output state', clocks⟩ = registry.inFlight := by
  funext other
  rw [inFlight_insert]
  split
  · rename_i he
    subst he
    simp [inFlight, hget, hsame]
  · rfl

theorem inFlight_markDamage (registry : OutputPresentationRegistry) (output : OutputId) :
    (registry.markDamage output).2.inFlight = registry.inFlight := by
  unfold markDamage
  split
  · rfl
  · rename_i state hget
    exact inFlight_insert_same hget rfl

theorem inFlight_observePageFlip (registry : OutputPresentationRegistry) (output : OutputId)
    (sequence presentationMsec : UInt64) :
    (registry.observePageFlip output sequence presentationMsec).2.inFlight = registry.inFlight := by
  unfold observePageFlip
  split
  · rfl
  · rename_i state hget
    split
    · exact inFlight_insert_same hget rfl
    · rfl

/-- What scheduling a frame does to the frames in flight. -/
inductive Schedules (registry : OutputPresentationRegistry) (output : OutputId) :
    OutputPresentationSchedule × OutputPresentationRegistry → Prop
  | scheduled (tick : FrameClockTick) (next : OutputPresentationRegistry)
      (hidle : registry.inFlight output = none)
      (hnext : ∀ other, next.inFlight other =
        if output = other then some tick.frameSerial else registry.inFlight other) :
      Schedules registry output (.scheduled tick, next)
  | refused (outcome : OutputPresentationSchedule) (next : OutputPresentationRegistry)
      (hrefused : ∀ tick, outcome ≠ .scheduled tick) (hnext : next.inFlight = registry.inFlight) :
      Schedules registry output (outcome, next)

theorem schedules (registry : OutputPresentationRegistry) (output : OutputId) :
    Schedules registry output (registry.schedule output) := by
  unfold schedule
  cases hget : registry.states[output]? with
  | none => exact .refused _ _ (by simp) rfl
  | some state =>
    dsimp only
    cases hframe : state.inFlightFrame with
    | some frameSerial =>
      exact .refused _ _ (by simp) (inFlight_insert_same hget hframe.symm)
    | none =>
      dsimp only
      split
      · exact .refused _ _ (by simp) rfl
      · refine .scheduled _ _ (by simp [inFlight, hget, hframe]) fun other => ?_
        rw [inFlight_insert]
        rfl

/-- The frame in flight retires under its own serial. -/
theorem retire_inFlight {frameSerial : UInt64} (h : registry.inFlight output = some frameSerial) :
    ∃ next, registry.retire output frameSerial = (.retired frameSerial, next) ∧
      ∀ other, next.inFlight other = if output = other then none else registry.inFlight other := by
  obtain ⟨state, hget, hframe⟩ := Option.bind_eq_some_iff.mp h
  let state' := { state with inFlightFrame := none, lastRetiredFrame := some frameSerial }
  refine ⟨{ registry with states := registry.states.insert output state' }, ?_, ?_⟩
  · unfold retire
    simp only [hget, hframe, ne_eq, not_true_eq_false, if_false]
    rfl
  · intro other
    rw [inFlight_insert]
    rfl

theorem inFlight_fromOutputs (outputs : DrmKmsOutputRegistry) (output : OutputId) :
    (fromOutputs outputs).inFlight output = none := by
  refine Option.bind_eq_none_iff.mpr fun state hget => ?_
  refine Ordered.getElem?_ofList_mem (P := fun state => state.inFlightFrame = none) ?_ hget
  intro entry hentry
  obtain ⟨descriptor, -, rfl⟩ := List.mem_map.mp hentry
  rfl

end Sophia.Engine.OutputPresentationRegistry

namespace Sophia.Backend

open Std Sophia.Protocol Sophia.Engine Lanes

structure LiveProductionPageFlipRetirement where
  output : OutputId
  ust : UInt64
  msc : UInt64
  deriving DecidableEq, Repr

structure ProductionRetirement where
  cycle : UInt64
  retirement : LiveProductionPageFlipRetirement
  deriving DecidableEq, Repr

def ProductionRetirement.output (retirement : ProductionRetirement) : OutputId :=
  retirement.retirement.output

inductive LiveProductionPageFlipTrackerError where
  | schedule (outcome : OutputPresentationSchedule)
  | feedback (outcome : OutputPresentationFeedback)
  | retirement (outcome : OutputPresentationRetire)
  | missingCycle (output : OutputId)
  deriving DecidableEq, Repr

structure LiveProductionPageFlipTracker where
  presentation : OutputPresentationRegistry
  pending : ExtTreeMap OutputId (UInt64 × UInt64)
  retirements : List ProductionRetirement

namespace LiveProductionPageFlipTracker

def fromOutputs (outputs : DrmKmsOutputRegistry) : LiveProductionPageFlipTracker :=
  ⟨.fromOutputs outputs, ∅, []⟩

variable (tracker : LiveProductionPageFlipTracker)

def submit (output : OutputId) (cycle : UInt64) :
    Except LiveProductionPageFlipTrackerError UInt64 × LiveProductionPageFlipTracker :=
  let presentation := (tracker.presentation.markDamage output).2
  match presentation.schedule output with
  | (.scheduled frame, presentation) =>
    (.ok frame.frameSerial, { tracker with
      presentation
      pending := tracker.pending.insert output (cycle, frame.frameSerial) })
  | (outcome, presentation) => (.error (.schedule outcome), { tracker with presentation })

-- The registry keeps an accepted flip even where retiring the frame then fails.
def observePageFlip (output : OutputId) (sequence presentationMsec ust : UInt64) :
    Except LiveProductionPageFlipTrackerError Unit × LiveProductionPageFlipTracker :=
  match tracker.pending[output]? with
  | none => (.error (.missingCycle output), tracker)
  | some (cycle, frameSerial) =>
    match tracker.presentation.observePageFlip output sequence presentationMsec with
    | (.accepted _ _, presentation) =>
      match presentation.retire output frameSerial with
      | (.retired _, presentation) =>
        (.ok (), {
          presentation
          pending := tracker.pending.erase output
          retirements := tracker.retirements ++ [⟨cycle, ⟨output, ust, sequence⟩⟩] })
      | (outcome, presentation) => (.error (.retirement outcome), { tracker with presentation })
    | (outcome, presentation) => (.error (.feedback outcome), { tracker with presentation })

def drainRetirements : List ProductionRetirement × LiveProductionPageFlipTracker :=
  (tracker.retirements, { tracker with retirements := [] })

/-- The oldest retirement of the output, taken out of the queue. -/
def takeRetirement (output : OutputId) :
    Option ProductionRetirement × LiveProductionPageFlipTracker :=
  match tracker.retirements.findIdx? (·.output = output) with
  | none => (none, tracker)
  | some index =>
    (tracker.retirements[index]?,
      { tracker with retirements := tracker.retirements.eraseIdx index })

def discardRetirements : Option OutputId → LiveProductionPageFlipTracker
  | some output =>
    { tracker with retirements := tracker.retirements.filter fun retirement =>
      retirement.output ≠ output }
  | none => { tracker with retirements := [] }

/-- What a submit does. -/
inductive Submits (output : OutputId) (cycle : UInt64) :
    Except LiveProductionPageFlipTrackerError UInt64 × LiveProductionPageFlipTracker → Prop
  | accepted (frameSerial : UInt64) (presentation : OutputPresentationRegistry)
      (hidle : tracker.presentation.inFlight output = none)
      (hnext : ∀ other, presentation.inFlight other =
        if output = other then some frameSerial else tracker.presentation.inFlight other) :
      Submits output cycle (.ok frameSerial, { tracker with
        presentation
        pending := tracker.pending.insert output (cycle, frameSerial) })
  | refused (error : LiveProductionPageFlipTrackerError) (presentation : OutputPresentationRegistry)
      (hnext : presentation.inFlight = tracker.presentation.inFlight) :
      Submits output cycle (.error error, { tracker with presentation })

theorem submits (output : OutputId) (cycle : UInt64) :
    tracker.Submits output cycle (tracker.submit output cycle) := by
  have hdamage := OutputPresentationRegistry.inFlight_markDamage tracker.presentation output
  have hschedule := OutputPresentationRegistry.schedules
    (tracker.presentation.markDamage output).2 output
  unfold submit
  dsimp only
  generalize (tracker.presentation.markDamage output).2.schedule output = scheduled at hschedule
  cases hschedule with
  | scheduled tick next hidle hnext =>
    rw [hdamage] at hidle
    refine .accepted tick.frameSerial next hidle fun other => ?_
    rw [hnext, hdamage]
  | refused outcome next hrefused hnext =>
    cases outcome with
    | scheduled tick => exact absurd rfl (hrefused tick)
    | waitingForDamage | waitingForRetirement | unknownOutput =>
      exact .refused _ next (hnext.trans hdamage)

/-- What a page flip does where each pending cycle waits for the frame in flight. -/
inductive Observes (output : OutputId) (sequence ust : UInt64) :
    Except LiveProductionPageFlipTrackerError Unit × LiveProductionPageFlipTracker → Prop
  | missing : Observes output sequence ust (.error (.missingCycle output), tracker)
  | refused (outcome : OutputPresentationFeedback) (presentation : OutputPresentationRegistry)
      (hnext : presentation.inFlight = tracker.presentation.inFlight) :
      Observes output sequence ust (.error (.feedback outcome), { tracker with presentation })
  | retired (cycle frameSerial : UInt64) (presentation : OutputPresentationRegistry)
      (hpending : tracker.pending[output]? = some (cycle, frameSerial))
      (hnext : ∀ other, presentation.inFlight other =
        if output = other then none else tracker.presentation.inFlight other) :
      Observes output sequence ust (.ok (), {
        presentation
        pending := tracker.pending.erase output
        retirements := tracker.retirements ++ [⟨cycle, ⟨output, ust, sequence⟩⟩] })

theorem observes {output : OutputId}
    (hframe : tracker.pending[output]?.map Prod.snd = tracker.presentation.inFlight output)
    (sequence presentationMsec ust : UInt64) :
    tracker.Observes output sequence ust
      (tracker.observePageFlip output sequence presentationMsec ust) := by
  have hflip := OutputPresentationRegistry.inFlight_observePageFlip tracker.presentation output
    sequence presentationMsec
  unfold observePageFlip
  cases hpending : tracker.pending[output]? with
  | none => exact .missing
  | some entry =>
    obtain ⟨cycle, frameSerial⟩ := entry
    dsimp only
    generalize tracker.presentation.observePageFlip output sequence presentationMsec = flip at hflip
    obtain ⟨outcome, presentation⟩ := flip
    cases outcome with
    | accepted =>
      rw [hpending] at hframe
      obtain ⟨next, hretire, hnext⟩ := OutputPresentationRegistry.retire_inFlight
        ((congrFun hflip output).trans hframe.symm)
      dsimp only
      rw [hretire]
      refine .retired cycle frameSerial next hpending fun other => ?_
      rw [hnext, ← hflip]
    | nonMonotonicSequence | nonMonotonicTimestamp | unknownOutput =>
      exact .refused _ presentation hflip

inductive TrackerAction where
  | submit (output : OutputId) (cycle : UInt64)
  | observePageFlip (output : OutputId) (sequence presentationMsec ust : UInt64)
  | takeRetirement (output : OutputId)
  | drainRetirements
  | discardRetirements (output : Option OutputId)
  deriving DecidableEq, Repr

end LiveProductionPageFlipTracker

/-- A tracker and its past: the cycles each output had accepted, the page flips (`msc` and `ust`)
that retired them, and the retirements that have left the queue, oldest first. -/
structure TrackerLog where
  tracker : LiveProductionPageFlipTracker
  submits : OutputId → List UInt64
  flips : OutputId → List (UInt64 × UInt64)
  left : List ProductionRetirement

namespace TrackerLog

open LiveProductionPageFlipTracker

/-- One more element for one output. -/
def snoc {α : Type} (f : OutputId → List α) (output : OutputId) (x : α) (other : OutputId) :
    List α :=
  if output = other then f other ++ [x] else f other

def start (outputs : DrmKmsOutputRegistry) : TrackerLog :=
  ⟨.fromOutputs outputs, fun _ => [], fun _ => [], []⟩

def step (log : TrackerLog) : TrackerAction → TrackerLog
  | .submit output cycle => match log.tracker.submit output cycle with
    | (.ok _, tracker) => { log with tracker, submits := snoc log.submits output cycle }
    | (.error _, tracker) => { log with tracker }
  | .observePageFlip output sequence presentationMsec ust =>
    match log.tracker.observePageFlip output sequence presentationMsec ust with
    | (.ok (), tracker) => { log with tracker, flips := snoc log.flips output (sequence, ust) }
    | (.error _, tracker) => { log with tracker }
  | .takeRetirement output =>
    let (taken, tracker) := log.tracker.takeRetirement output
    { log with tracker, left := log.left ++ taken.toList }
  | .drainRetirements =>
    let (drained, tracker) := log.tracker.drainRetirements
    { log with tracker, left := log.left ++ drained }
  | .discardRetirements output =>
    { log with
      tracker := log.tracker.discardRetirements output
      left := log.left ++ log.tracker.retirements.filter fun retirement =>
        output.all (retirement.output = ·) }

/-- The retirements of an output, those that left the queue first. -/
def produced (log : TrackerLog) (output : OutputId) : List ProductionRetirement :=
  lane ProductionRetirement.output output (log.left ++ log.tracker.retirements)

/-- The cycle of an output that waits for its page flip. -/
def waiting (log : TrackerLog) (output : OutputId) : Option UInt64 :=
  log.tracker.pending[output]?.map Prod.fst

/-- The pending cycles wait for the frames in flight; retirements and the pending cycle are the
submits in order, and every retirement carries the numbers of its page flip. -/
structure Lockstep (log : TrackerLog) : Prop where
  frames : ∀ output, log.tracker.pending[output]?.map Prod.snd =
    log.tracker.presentation.inFlight output
  cycles : ∀ output, (log.produced output).map (·.cycle) ++ (log.waiting output).toList =
    log.submits output
  flips : ∀ output, (log.produced output).map (fun retirement =>
    (retirement.retirement.msc, retirement.retirement.ust)) = log.flips output

variable {log next : TrackerLog} {output : OutputId}

theorem lockstep_start (outputs : DrmKmsOutputRegistry) : (start outputs).Lockstep := by
  refine ⟨fun output => ?_, fun output => ?_, fun output => rfl⟩
  · show _ = (OutputPresentationRegistry.fromOutputs outputs).inFlight output
    rw [OutputPresentationRegistry.inFlight_fromOutputs]
    simp [start, fromOutputs]
  · simp [produced, waiting, start, fromOutputs]

/-- Moving retirements out of the queue, each behind those of its output. -/
theorem Lockstep.moved (h : log.Lockstep)
    (hframes : next.tracker.presentation.inFlight = log.tracker.presentation.inFlight)
    (hpending : next.tracker.pending = log.tracker.pending) (hsubmits : next.submits = log.submits)
    (hflips : next.flips = log.flips)
    (hlanes : SameLanes ProductionRetirement.output (next.left ++ next.tracker.retirements)
      (log.left ++ log.tracker.retirements)) : next.Lockstep := by
  have hproduced (output : OutputId) : next.produced output = log.produced output := hlanes output
  have hwaiting (output : OutputId) : next.waiting output = log.waiting output := by
    rw [waiting, waiting, hpending]
  refine ⟨fun output => ?_, fun output => ?_, fun output => ?_⟩
  · rw [hpending, hframes]
    exact h.frames output
  · rw [hproduced, hwaiting, hsubmits]
    exact h.cycles output
  · rw [hproduced, hflips]
    exact h.flips output

theorem snoc_self {α : Type} (f : OutputId → List α) (x : α) :
    snoc f output x output = f output ++ [x] := if_pos rfl

theorem snoc_of_ne {α : Type} (f : OutputId → List α) {other : OutputId} (hne : output ≠ other)
    (x : α) : snoc f output x other = f other := if_neg hne

theorem Lockstep.submit (h : log.Lockstep) (output : OutputId) (cycle : UInt64) :
    (log.step (.submit output cycle)).Lockstep := by
  have hsubmits := log.tracker.submits output cycle
  unfold step
  dsimp only
  generalize log.tracker.submit output cycle = result at hsubmits
  cases hsubmits with
  | refused error presentation hnext => exact h.moved hnext rfl rfl rfl (.refl _)
  | accepted frameSerial presentation hidle hnext =>
    have hframes (other : OutputId) :
        (log.tracker.pending.insert output (cycle, frameSerial))[other]? =
          if output = other then some (cycle, frameSerial) else log.tracker.pending[other]? := by
      rw [ExtTreeMap.getElem?_insert]
      simp only [Std.compare_eq_iff_eq]
    have hnone : log.waiting output = none := by
      have hframe := h.frames output
      rw [hidle, Option.map_eq_none_iff] at hframe
      rw [waiting, hframe]
      rfl
    refine ⟨fun other => ?_, fun other => ?_, h.flips⟩
    · show Option.map Prod.snd (log.tracker.pending.insert output (cycle, frameSerial))[other]? = _
      rw [hframes, hnext]
      split
      · rfl
      · exact h.frames other
    · have hcycles := h.cycles other
      show (log.produced other).map (·.cycle) ++ (Option.map Prod.fst
        (log.tracker.pending.insert output (cycle, frameSerial))[other]?).toList =
          snoc log.submits output cycle other
      rw [hframes]
      by_cases he : output = other
      · subst he
        rw [hnone] at hcycles
        rw [if_pos rfl, snoc_self, ← hcycles]
        simp
      · rw [if_neg he, snoc_of_ne _ he, ← hcycles]
        rfl

theorem Lockstep.observePageFlip (h : log.Lockstep) (output : OutputId)
    (sequence presentationMsec ust : UInt64) :
    (log.step (.observePageFlip output sequence presentationMsec ust)).Lockstep := by
  have hobserves := log.tracker.observes (h.frames output) sequence presentationMsec ust
  unfold step
  dsimp only
  generalize log.tracker.observePageFlip output sequence presentationMsec ust = result at hobserves
  cases hobserves with
  | missing => exact h
  | refused outcome presentation hnext => exact h.moved hnext rfl rfl rfl (.refl _)
  | retired cycle frameSerial presentation hpending hnext =>
    have hframes (other : OutputId) : (log.tracker.pending.erase output)[other]? =
        if output = other then none else log.tracker.pending[other]? := by
      rw [ExtTreeMap.getElem?_erase]
      simp only [Std.compare_eq_iff_eq]
    have hproduced (other : OutputId) : lane ProductionRetirement.output other
        (log.left ++ (log.tracker.retirements ++ [⟨cycle, ⟨output, ust, sequence⟩⟩])) =
          if output = other then log.produced other ++ [⟨cycle, ⟨output, ust, sequence⟩⟩]
          else log.produced other := by
      rw [← List.append_assoc, lane_append]
      by_cases he : output = other
      · rw [if_pos he]
        simp [produced, lane, ProductionRetirement.output, he]
      · rw [if_neg he]
        simp [produced, lane, ProductionRetirement.output, he]
    refine ⟨fun other => ?_, fun other => ?_, fun other => ?_⟩
    · show Option.map Prod.snd (log.tracker.pending.erase output)[other]? = _
      rw [hframes, hnext]
      split
      · rfl
      · exact h.frames other
    · have hcycles := h.cycles other
      show (lane ProductionRetirement.output other
        (log.left ++ (log.tracker.retirements ++ _))).map (·.cycle) ++
          (Option.map Prod.fst (log.tracker.pending.erase output)[other]?).toList =
            log.submits other
      rw [hproduced, hframes, ← hcycles]
      by_cases he : output = other
      · subst he
        simp [waiting, hpending]
      · rw [if_neg he, if_neg he]
        rfl
    · have hflips := h.flips other
      show (lane ProductionRetirement.output other
        (log.left ++ (log.tracker.retirements ++ _))).map _ = snoc log.flips output _ other
      rw [hproduced]
      by_cases he : output = other
      · subst he
        rw [if_pos rfl, snoc_self, List.map_append, hflips]
        rfl
      · rw [if_neg he, snoc_of_ne _ he, hflips]

theorem lockstep_step (h : log.Lockstep) (action : TrackerAction) : (log.step action).Lockstep := by
  cases action with
  | submit output cycle => exact h.submit output cycle
  | observePageFlip output sequence presentationMsec ust =>
    exact h.observePageFlip output sequence presentationMsec ust
  | takeRetirement output =>
    unfold step takeRetirement
    dsimp only
    cases hfind : log.tracker.retirements.findIdx? (·.output = output) with
    | none => exact h.moved rfl rfl rfl rfl (by simp [SameLanes])
    | some index =>
      obtain ⟨hlt, houtput, hbefore⟩ := List.findIdx?_eq_some_iff_getElem.mp hfind
      refine h.moved rfl rfl rfl rfl ?_
      -- The queue is cut where the retirement stands: those before it are of other outputs.
      have hcut : log.tracker.retirements = log.tracker.retirements.take index ++
          log.tracker.retirements[index] :: log.tracker.retirements.drop (index + 1) := by
        rw [← List.drop_eq_getElem_cons hlt, List.take_append_drop]
      have hapart : Apart ProductionRetirement.output (log.tracker.retirements.take index)
          [log.tracker.retirements[index]] := by
        intro earlier hearlier taken htaken he
        obtain ⟨i, hi, rfl⟩ := List.mem_take_iff_getElem.mp hearlier
        rw [List.mem_singleton.mp htaken, of_decide_eq_true houtput] at he
        exact hbefore i (by omega) (decide_eq_true he)
      have hlanes :=
        sameLanes_deliver log.left (log.tracker.retirements.drop (index + 1)) hapart
      rw [← hcut, ← List.eraseIdx_eq_take_drop_succ] at hlanes
      show SameLanes _ (log.left ++ log.tracker.retirements[index]?.toList ++
        log.tracker.retirements.eraseIdx index) _
      rw [List.getElem?_eq_getElem hlt]
      exact hlanes
  | drainRetirements => exact h.moved rfl rfl rfl rfl (by simp [step, drainRetirements, SameLanes])
  | discardRetirements output =>
    cases output with
    | none => exact h.moved rfl rfl rfl rfl (by simp [step, discardRetirements, SameLanes])
    | some output => exact h.moved rfl rfl rfl rfl (sameLanes_lane output)

theorem lockstep_exec (outputs : DrmKmsOutputRegistry) (actions : List TrackerAction) :
    (Run.exec step (start outputs) actions).Lockstep :=
  Run.invariant (lockstep_start outputs) (fun _ action _ h => lockstep_step h action)
    Run.guarded_true

/-- In every run a cycle is pending for an output exactly while a frame of it is in flight; the
retirements of an output, out of the queue or in it, and then its pending cycle are its accepted
submits in order, with the numbers of its accepted page flips in order; retiring never fails; and a
call that fails leaves pending cycles and queued retirements alone. -/
theorem page_flip_tracker_lockstep (outputs : DrmKmsOutputRegistry) (actions : List TrackerAction) :
    let log := Run.exec step (start outputs) actions
    let tracker := log.tracker
    (∀ output, tracker.pending[output]?.isSome = (tracker.presentation.inFlight output).isSome) ∧
      (∀ output,
        let retirements := lane ProductionRetirement.output output log.left ++
          lane ProductionRetirement.output output tracker.retirements
        retirements.map (·.cycle) ++ (tracker.pending[output]?.map Prod.fst).toList =
            log.submits output ∧
          retirements.map (fun retirement =>
            (retirement.retirement.msc, retirement.retirement.ust)) = log.flips output) ∧
      (∀ output cycle error, (tracker.submit output cycle).1 = .error error →
        (tracker.submit output cycle).2.pending = tracker.pending ∧
          (tracker.submit output cycle).2.retirements = tracker.retirements) ∧
      ∀ output sequence presentationMsec ust error,
        (tracker.observePageFlip output sequence presentationMsec ust).1 = .error error →
          (∀ outcome, error ≠ .retirement outcome) ∧
            (tracker.observePageFlip output sequence presentationMsec ust).2.pending =
              tracker.pending ∧
            (tracker.observePageFlip output sequence presentationMsec ust).2.retirements =
              tracker.retirements := by
  intro log tracker
  have h : log.Lockstep := lockstep_exec outputs actions
  refine ⟨fun output => ?_, fun output => ?_, fun output cycle error he => ?_,
    fun output sequence presentationMsec ust error he => ?_⟩
  · rw [← h.frames output, Option.isSome_map]
  · have hcycles := h.cycles output
    have hflips := h.flips output
    rw [produced, lane_append] at hcycles hflips
    exact ⟨hcycles, hflips⟩
  · have hsubmits := tracker.submits output cycle
    generalize tracker.submit output cycle = result at hsubmits he ⊢
    cases hsubmits with
    | accepted => cases he
    | refused => exact ⟨rfl, rfl⟩
  · have hobserves := tracker.observes (h.frames output) sequence presentationMsec ust
    generalize tracker.observePageFlip output sequence presentationMsec ust = result
      at hobserves he ⊢
    cases hobserves with
    | retired => cases he
    | missing | refused =>
      cases he
      exact ⟨by simp, rfl, rfl⟩

end TrackerLog
end Sophia.Backend
