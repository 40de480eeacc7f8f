import Sophia.Lib.History
import Sophia.Runtime.SessionRuntime

/-! The number of frames in flight, against what the runtime was told of each frame. -/
namespace Sophia.Runtime

open Protocol
open Backend (RuntimeScanoutState)

/-- How a submit is answered. -/
inductive SubmitAnswer where
  | submitted
  | deferred
  | rejected
  deriving DecidableEq

/-- How a frame in flight ends. -/
inductive FrameEnding where
  | retired
  | rejected
  deriving DecidableEq

def SubmitAnswer.scanoutState : SubmitAnswer → RuntimeScanoutState
  | .submitted => .submitted
  | .deferred => .deferred
  | .rejected => .rejected

def FrameEnding.scanoutState : FrameEnding → RuntimeScanoutState
  | .retired => .retired
  | .rejected => .rejected

/-- An event together with the frame it is about. The event that ends a frame need not name it:
the live adapter reports lifecycle states without a serial. -/
inductive FrameReport where
  | answered (frame : UInt64) (answer : SubmitAnswer)
  | ended (frame : UInt64) (ending : FrameEnding) (frameSerial : Option UInt64)
  | other (event : { event : SessionRuntimeEvent //
      ∀ scanoutState frameSerial, event ≠ .scanoutStateChanged scanoutState frameSerial })

namespace FrameReport

def event : FrameReport → SessionRuntimeEvent
  | .answered frame answer => .scanoutStateChanged answer.scanoutState (some frame)
  | .ended _ ending frameSerial => .scanoutStateChanged ending.scanoutState frameSerial
  | .other event => event.val

/-- The frames in flight after one more report. -/
def track (frames : List UInt64) : FrameReport → List UInt64
  | .answered frame .submitted => frame :: frames
  | .answered _ .deferred | .answered _ .rejected | .other _ => frames
  | .ended frame _ _ => frames.erase frame

/-- A submit is answered for a frame that is not in flight, below the counter's saturation, and
only a frame in flight ends. -/
def Possible (frames : List UInt64) : FrameReport → Prop
  | .answered frame answer =>
    frame ∉ frames ∧ (answer = .submitted → frames.length + 1 < UInt64.size)
  | .ended frame _ frameSerial => frame ∈ frames ∧ ∀ serial ∈ frameSerial, serial = frame
  | .other _ => True

/-- A submit refused while another frame is in flight. -/
def RefusedInFlight (frames : List UInt64) : FrameReport → Prop
  | .answered _ .rejected => frames ≠ []
  | _ => False

instance (frames : List UInt64) : DecidablePred (Possible frames) := fun report =>
  match report with
  | .answered frame answer =>
    inferInstanceAs (Decidable
      (frame ∉ frames ∧ (answer = .submitted → frames.length + 1 < UInt64.size)))
  | .ended _ _ frameSerial =>
    @instDecidableAnd _ _ inferInstance (Option.decidableForallMem frameSerial)
  | .other _ => isTrue trivial

instance (frames : List UInt64) : DecidablePred (RefusedInFlight frames) := fun report =>
  match report with
  | .answered _ .rejected => inferInstanceAs (Decidable (frames ≠ []))
  | .answered _ .submitted | .answered _ .deferred | .ended _ _ _ | .other _ => isFalse id

end FrameReport

/-- Frames submitted and neither retired nor rejected since. -/
def inFlightFrames (reports : List FrameReport) : List UInt64 :=
  Run.exec FrameReport.track [] reports

theorem inFlightFrames_snoc (reports : List FrameReport) (report : FrameReport) :
    inFlightFrames (reports ++ [report]) = report.track (inFlightFrames reports) :=
  Run.exec_snoc

/-- The runtime's side of a report. -/
def SessionRuntimeState.observe (state : SessionRuntimeState) (report : FrameReport) :
    SessionRuntimeState :=
  (updateSessionRuntime state report.event).1

/-- Every report of the sequence is possible for the frames in flight then. -/
abbrev FrameHistory (reports : List FrameReport) : Prop :=
  Run.Guarded FrameReport.track FrameReport.Possible [] reports

/-- The count is the number of frames in flight. -/
def Accounted (before : List FrameReport) (state : SessionRuntimeState) : Prop :=
  state.inFlightScanouts.toNat = (inFlightFrames before).length

theorem accounted_submitted {state : SessionRuntimeState} {frames : List UInt64}
    (h : state.inFlightScanouts.toNat = frames.length) (hroom : frames.length + 1 < UInt64.size) :
    (state.countScanout .submitted).inFlightScanouts.toNat = frames.length + 1 := by
  simp only [SessionRuntimeState.countScanout]
  rw [toNat_saturatingAdd, UInt64.toNat_one]
  omega

theorem accounted_ended {state : SessionRuntimeState} {frames : List UInt64} {frame : UInt64}
    (h : state.inFlightScanouts.toNat = frames.length) (hmem : frame ∈ frames)
    (ending : FrameEnding) :
    (state.countScanout ending.scanoutState).inFlightScanouts.toNat =
      (frames.erase frame).length := by
  have hpred : (saturatingPred state.inFlightScanouts).toNat = (frames.erase frame).length := by
    rw [toNat_saturatingPred, h, List.length_erase_of_mem hmem]
  cases ending with
  | retired => exact hpred
  | rejected => exact hpred

/-- A refused submit lowers the count, unless it is at zero. -/
theorem accounted_refused {state : SessionRuntimeState} {frames : List UInt64}
    (h : state.inFlightScanouts.toNat = frames.length) :
    (state.countScanout .rejected).inFlightScanouts.toNat = frames.length ↔ frames = [] := by
  have hpred : (state.countScanout .rejected).inFlightScanouts.toNat = frames.length - 1 := by
    simp only [SessionRuntimeState.countScanout]
    rw [toNat_saturatingPred, h]
  rw [hpred, ← List.length_eq_zero_iff]
  omega

theorem accounted_step {before : List FrameReport} {state : SessionRuntimeState}
    {report : FrameReport} (hpos : report.Possible (inFlightFrames before))
    (h : Accounted before state) :
    Accounted (before ++ [report]) (state.observe report) ↔
      ¬ report.RefusedInFlight (inFlightFrames before) := by
  rw [Accounted, inFlightFrames_snoc]
  cases report with
  | answered frame answer =>
    rw [SessionRuntimeState.observe, FrameReport.event,
      SessionRuntimeState.inFlightScanouts_scanoutStateChanged]
    cases answer with
    | submitted => exact iff_of_true (accounted_submitted h (hpos.2 rfl)) id
    | deferred => exact iff_of_true h id
    | rejected => exact (accounted_refused h).trans not_not.symm
  | ended frame ending frameSerial =>
    rw [SessionRuntimeState.observe, FrameReport.event,
      SessionRuntimeState.inFlightScanouts_scanoutStateChanged]
    exact iff_of_true (accounted_ended h hpos.1 ending) id
  | other event =>
    rw [SessionRuntimeState.observe, FrameReport.event,
      SessionRuntimeState.inFlightScanouts_update event.property]
    exact iff_of_true h id

/-- The count is right all along a run exactly when no submit is refused with a frame in flight. -/
theorem in_flight_scanouts_iff {reports : List FrameReport} (hist : FrameHistory reports) :
    Run.Throughout SessionRuntimeState.observe Accounted {} reports ↔
      Run.Guarded FrameReport.track (fun frames report => ¬ report.RefusedInFlight frames) []
        reports := by
  have hrun : Run.Throughout SessionRuntimeState.observe Accounted {} reports ↔
      Run.GuardedBy SessionRuntimeState.observe
        (fun before _ report => ¬ report.RefusedInFlight (inFlightFrames before)) {} reports :=
    Run.throughout_iff rfl fun before report after he h =>
      accounted_step (hist before report after he) h
  exact hrun

/-- One frame is deferred while another is in flight, and one is refused with none in flight. -/
theorem in_flight_scanouts_deferred :
    Run.Throughout SessionRuntimeState.observe Accounted {}
      [.answered 1 .submitted, .answered 2 .deferred, .ended 1 .retired none,
        .answered 3 .rejected] :=
  (in_flight_scanouts_iff (by decide +kernel)).mpr (by decide +kernel)

/-- A submit is refused while another frame is in flight. -/
def refusedBetween : List FrameReport := [.answered 1 .submitted, .answered 2 .rejected]

theorem refused_submit_uncounts :
    FrameHistory refusedBetween ∧
      ¬ Run.Throughout SessionRuntimeState.observe Accounted {} refusedBetween := by
  refine ⟨by decide +kernel, fun h => ?_⟩
  have hend : Accounted refusedBetween _ := h refusedBetween [] rfl
  simp only [Accounted] at hend
  revert hend
  decide

end Sophia.Runtime
