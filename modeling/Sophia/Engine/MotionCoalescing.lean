import Sophia.Engine.HitTest
import Sophia.Frontend.InputRoutes
import Sophia.Lib.Lanes
import Sophia.Lib.Run

/-! Routed pointer motion held back until the next frame: a motion gives way to a later one over the
same surface. -/
namespace Sophia.Engine

open Protocol Losses
open Frontend (InputEventKind)

/-- `InputEventPacket` with the fields the hit test does not read. -/
structure PhysicalInputEvent extends InputEventPacket where
  seat : SeatId
  device : DeviceId
  timeMsec : UInt64
  kind : InputEventKind
  targetSurface : Option SurfaceId
  localPosition : Option Point
  deriving DecidableEq

structure QueuedRoutedInput where
  event : PhysicalInputEvent
  route : InputRoute
  deriving DecidableEq

inductive RoutedInputFlushReason where
  | frameBoundary
  | stateChangingInput
  | targetCrossing
  | dragStateChanged
  | grabChanged
  | focusChanged
  deriving DecidableEq, Repr

structure RoutedInputFlush where
  reason : RoutedInputFlushReason
  inputs : List QueuedRoutedInput
  deriving DecidableEq

inductive RoutedInputQueueAction where
  | bufferedMotion
  | flushed (flush : RoutedInputFlush)
  deriving DecidableEq

structure RoutedInputRouteKey where
  targetSurface : SurfaceId
  deriving DecidableEq

def coalescibleMotionKey (input : QueuedRoutedInput) : Option RoutedInputRouteKey :=
  if input.event.kind ≠ .pointerMotion then none
  else if input.route.outcome ≠ .routed then none
  else (input.route.targetSurface.filter (·.isValid)).map RoutedInputRouteKey.mk

structure RoutedInputCoalescer where
  pendingMotion : Option QueuedRoutedInput
  deriving DecidableEq

namespace RoutedInputCoalescer

def new : RoutedInputCoalescer := ⟨none⟩

variable (coalescer : RoutedInputCoalescer)

def flushWith (reason : RoutedInputFlushReason) (current : Option QueuedRoutedInput) :
    RoutedInputQueueAction × RoutedInputCoalescer :=
  (.flushed ⟨reason, coalescer.pendingMotion.toList ++ current.toList⟩, ⟨none⟩)

def takePending (reason : RoutedInputFlushReason) :
    Option RoutedInputFlush × RoutedInputCoalescer :=
  (coalescer.pendingMotion.map fun pending => ⟨reason, [pending]⟩, ⟨none⟩)

def pushMotion (input : QueuedRoutedInput) (key : RoutedInputRouteKey) :
    RoutedInputQueueAction × RoutedInputCoalescer :=
  match coalescer.pendingMotion.bind coalescibleMotionKey with
  | some pendingKey =>
    if pendingKey = key then (.bufferedMotion, ⟨some input⟩)
    else coalescer.flushWith .targetCrossing (some input)
  | none => (.bufferedMotion, ⟨some input⟩)

def push (event : PhysicalInputEvent) (route : InputRoute) :
    RoutedInputQueueAction × RoutedInputCoalescer :=
  let input : QueuedRoutedInput := ⟨event, route⟩
  match coalescibleMotionKey input with
  | some key => coalescer.pushMotion input key
  | none => coalescer.flushWith .stateChangingInput (some input)

def flushFrame : Option RoutedInputFlush × RoutedInputCoalescer :=
  coalescer.takePending .frameBoundary

def flushBarrier (reason : RoutedInputFlushReason) :
    Option RoutedInputFlush × RoutedInputCoalescer :=
  coalescer.takePending reason

end RoutedInputCoalescer

inductive CoalescerCall where
  | push (event : PhysicalInputEvent) (route : InputRoute)
  | flushFrame
  | flushBarrier (reason : RoutedInputFlushReason)
  deriving DecidableEq

/-- A coalescer, the inputs pushed into it and those it has flushed, in order. -/
structure CoalescerLog where
  coalescer : RoutedInputCoalescer
  pushed : List QueuedRoutedInput
  flushed : List QueuedRoutedInput
  deriving DecidableEq

namespace QueuedRoutedInput

/-- A pointer motion that was routed. -/
def RoutedMotion (input : QueuedRoutedInput) : Prop :=
  input.event.kind = .pointerMotion ∧ input.route.outcome = .routed

/-- Over one surface. -/
def SameTarget (a b : QueuedRoutedInput) : Prop := a.route.targetSurface = b.route.targetSurface

/-- Of one seat and device, over one surface. -/
def SameSource (a b : QueuedRoutedInput) : Prop :=
  a.event.seat = b.event.seat ∧ a.event.device = b.event.device ∧ a.SameTarget b

instance (a b : QueuedRoutedInput) : Decidable (a.SameTarget b) :=
  inferInstanceAs (Decidable (_ = _))

instance (a b : QueuedRoutedInput) : Decidable (a.SameSource b) :=
  inferInstanceAs (Decidable (_ ∧ _ ∧ _))

variable (same : QueuedRoutedInput → QueuedRoutedInput → Prop)

/-- A routed motion after which only motions come up to one that does the same. -/
def Superseded (input : QueuedRoutedInput) (after : List QueuedRoutedInput) : Prop :=
  input.RoutedMotion ∧ ∃ between next rest, after = between ++ next :: rest ∧
    (∀ other ∈ between, other.event.kind = .pointerMotion) ∧ next.RoutedMotion ∧ same next input

variable {same}

theorem Superseded.append {input : QueuedRoutedInput} {after : List QueuedRoutedInput}
    (more : List QueuedRoutedInput) (h : Superseded same input after) :
    Superseded same input (after ++ more) := by
  obtain ⟨hmotion, between, next, rest, rfl, hbetween, hnext, hsame⟩ := h
  exact ⟨hmotion, between, next, rest ++ more, by simp, hbetween, hnext, hsame⟩

end QueuedRoutedInput

open QueuedRoutedInput

theorem coalescibleMotionKey_eq_some {input : QueuedRoutedInput} {key : RoutedInputRouteKey}
    (h : coalescibleMotionKey input = some key) :
    input.RoutedMotion ∧ input.route.targetSurface = some key.targetSurface := by
  unfold coalescibleMotionKey at h
  split at h
  · cases h
  rename_i hkind
  split at h
  · cases h
  rename_i houtcome
  obtain ⟨surface, hsurface, rfl⟩ := Option.map_eq_some_iff.mp h
  exact ⟨⟨not_not.mp hkind, not_not.mp houtcome⟩, (Option.filter_eq_some_iff.mp hsurface).1⟩

namespace CoalescerLog

def start : CoalescerLog := ⟨.new, [], []⟩

def flushedBy : RoutedInputQueueAction → List QueuedRoutedInput
  | .bufferedMotion => []
  | .flushed flush => flush.inputs

def step (log : CoalescerLog) : CoalescerCall → CoalescerLog
  | .push event route =>
    let (action, coalescer) := log.coalescer.push event route
    ⟨coalescer, log.pushed ++ [⟨event, route⟩], log.flushed ++ flushedBy action⟩
  | .flushFrame =>
    let (flush, coalescer) := log.coalescer.flushFrame
    ⟨coalescer, log.pushed, log.flushed ++ (flush.map (·.inputs)).getD []⟩
  | .flushBarrier reason =>
    let (flush, coalescer) := log.coalescer.flushBarrier reason
    ⟨coalescer, log.pushed, log.flushed ++ (flush.map (·.inputs)).getD []⟩

/-- The inputs that came out, and the one still held back. -/
def out (log : CoalescerLog) : List QueuedRoutedInput :=
  log.flushed ++ log.coalescer.pendingMotion.toList

section Replaced

variable (same : QueuedRoutedInput → QueuedRoutedInput → Prop)

/-- A pending motion is only replaced by one that does the same. -/
def Replaces (log : CoalescerLog) : CoalescerCall → Prop
  | .push event route =>
    ∀ pending ∈ log.coalescer.pendingMotion,
      coalescibleMotionKey pending = coalescibleMotionKey ⟨event, route⟩ →
        same ⟨event, route⟩ pending
  | .flushFrame | .flushBarrier _ => True

instance [∀ a b, Decidable (same a b)] (log : CoalescerLog) :
    (call : CoalescerCall) → Decidable (log.Replaces same call)
  | .push _ _ => Option.decidableForallMem _
  | .flushFrame | .flushBarrier _ => isTrue trivial

/-- Up to the pending motion the inputs are settled: each was flushed or is superseded. -/
structure Accounted (log : CoalescerLog) : Prop where
  pending : ∀ pending, log.coalescer.pendingMotion = some pending →
    (coalescibleMotionKey pending).isSome
  settled : ∃ settled, log.pushed = settled ++ log.coalescer.pendingMotion.toList ∧
    Thinned (Superseded same) log.coalescer.pendingMotion.toList settled log.flushed

end Replaced

variable {log : CoalescerLog} {same : QueuedRoutedInput → QueuedRoutedInput → Prop}

theorem accounted_start : start.Accounted same := by
  refine ⟨fun pending h => ?_, [], rfl, .nil⟩
  cases h

theorem Accounted.out (h : log.Accounted same) :
    Thinned (Superseded same) [] log.pushed log.out := by
  obtain ⟨settled, hpushed, hthinned⟩ := h.settled
  rw [hpushed]
  exact hthinned.append_keep

/-- Flushing what is pending, and then an input that was pushed. -/
theorem Accounted.flush (h : log.Accounted same) (current : List QueuedRoutedInput) :
    Accounted same ⟨⟨none⟩, log.pushed ++ current, log.flushed ++
      (log.coalescer.pendingMotion.toList ++ current)⟩ := by
  obtain ⟨settled, hpushed, hthinned⟩ := h.settled
  refine ⟨fun pending hpending => ?_, log.pushed ++ current, by simp, ?_⟩
  · cases hpending
  rw [hpushed, List.append_assoc]
  exact (hthinned.append_rest _ fun _ _ more hs => hs.append more).append_keep

theorem Accounted.push (h : log.Accounted same) {event : PhysicalInputEvent} {route : InputRoute}
    (hreplaces : log.Replaces same (.push event route)) :
    (log.step (.push event route)).Accounted same := by
  unfold step RoutedInputCoalescer.push
  dsimp only
  cases hkey : coalescibleMotionKey ⟨event, route⟩ with
  | none => exact h.flush [⟨event, route⟩]
  | some key =>
    have hmotion := (coalescibleMotionKey_eq_some hkey).1
    have hpending : ∀ pending, (⟨some ⟨event, route⟩⟩ : RoutedInputCoalescer).pendingMotion =
        some pending → (coalescibleMotionKey pending).isSome := by
      intro pending he
      cases he
      rw [hkey]
      rfl
    obtain ⟨settled, hpushed, hthinned⟩ := h.settled
    have hmore := hthinned.append_rest [⟨event, route⟩] fun _ _ more hs => hs.append more
    unfold RoutedInputCoalescer.pushMotion
    cases hold : log.coalescer.pendingMotion with
    | none =>
      rw [hold] at hpushed hmore
      refine ⟨hpending, settled, ?_, ?_⟩
      · simp only [Option.bind_none]
        rw [hpushed]
        simp
      · simpa [flushedBy] using hmore
    | some pending =>
      obtain ⟨pendingKey, hpendingKey⟩ := Option.isSome_iff_exists.mp (h.pending pending hold)
      simp only [Option.bind_some, hpendingKey]
      split
      · rename_i hsame
        subst hsame
        have hsame := hreplaces pending hold (hpendingKey.trans hkey.symm)
        have hsuperseded : Superseded same pending [⟨event, route⟩] :=
          ⟨(coalescibleMotionKey_eq_some hpendingKey).1, [], _, [], rfl, by simp, hmotion, hsame⟩
        rw [hold] at hpushed hmore
        refine ⟨hpending, settled ++ [pending], ?_, ?_⟩
        · rw [hpushed]
          rfl
        · simpa [flushedBy] using Thinned.snoc_lose hsuperseded hmore
      · have hflush := h.flush [⟨event, route⟩]
        rw [hold] at hflush
        simpa [RoutedInputCoalescer.flushWith, hold, flushedBy] using hflush

theorem accounted_step (h : log.Accounted same) {call : CoalescerCall}
    (hreplaces : log.Replaces same call) : (log.step call).Accounted same := by
  cases call with
  | push event route => exact h.push hreplaces
  | flushFrame | flushBarrier reason =>
    have hflush := h.flush []
    cases hold : log.coalescer.pendingMotion with
    | none =>
      rw [hold] at hflush
      simpa [step, RoutedInputCoalescer.flushFrame, RoutedInputCoalescer.flushBarrier,
        RoutedInputCoalescer.takePending, hold] using hflush
    | some pending =>
      rw [hold] at hflush
      simpa [step, RoutedInputCoalescer.flushFrame, RoutedInputCoalescer.flushBarrier,
        RoutedInputCoalescer.takePending, hold] using hflush

theorem thinned_exec {calls : List CoalescerCall}
    (h : Run.Guarded step (Replaces same) start calls) :
    let log := Run.exec step start calls
    Thinned (Superseded same) [] log.pushed log.out :=
  (Run.invariant accounted_start (fun _ _ hreplaces h => accounted_step h hreplaces) h).out

/-- The key of a motion is its surface, so a pending motion only ever gives way to one over the same
surface. -/
theorem replaces_sameTarget (log : CoalescerLog) (call : CoalescerCall)
    (hpending : ∀ pending, log.coalescer.pendingMotion = some pending →
      (coalescibleMotionKey pending).isSome) : log.Replaces SameTarget call := by
  cases call with
  | flushFrame | flushBarrier => trivial
  | push event route =>
    intro pending hold he
    obtain ⟨key, hkey⟩ := Option.isSome_iff_exists.mp (hpending pending hold)
    have htarget := (coalescibleMotionKey_eq_some hkey).2
    rw [hkey] at he
    exact (coalescibleMotionKey_eq_some he.symm).2.trans htarget.symm

/-- Where motions over one surface come from one seat and device at a time, the inputs that came out
and then the pending one are those that were pushed, in order, less motions of which a later one of
the same seat and device took the place. -/
theorem keeps_last_of_each_source {calls : List CoalescerCall}
    (h : Run.Guarded step (Replaces SameSource) start calls) :
    let log := Run.exec step start calls
    Thinned (Superseded SameSource) [] log.pushed log.out :=
  thinned_exec h

/-- The inputs that came out and then the pending one are those that were pushed, in order, less
routed motions that only motions follow up to a routed motion over the same surface. -/
theorem loses_superseded_motion (calls : List CoalescerCall) :
    let log := Run.exec step start calls
    Thinned (Superseded SameTarget) [] log.pushed log.out := by
  have h : (Run.exec step start calls).Accounted SameTarget :=
    Run.invariant accounted_start
      (fun log call _ h => accounted_step h (replaces_sameTarget log call h.pending))
      Run.guarded_true
  exact h.out

/-- A routed motion of a seat over the first surface. -/
def motionOf (serial seat : UInt64) : CoalescerCall :=
  .push { serial, globalPosition := none, seat := ⟨seat⟩, device := ⟨1⟩, timeMsec := serial,
          kind := .pointerMotion, targetSurface := none, localPosition := none }
    ⟨serial, some ⟨1, 1⟩, ⟨0, 0⟩, some ⟨0, 0⟩, .identity, .routed⟩

/-- The last position of one seat is lost to a motion of another seat over the same surface. -/
theorem motion_lost_to_other_seat :
    let log := Run.exec step start [motionOf 1 1, motionOf 2 2]
    ¬ Thinned (Superseded SameSource) [] log.pushed log.out := by
  have hlost (a b : QueuedRoutedInput) (h : Thinned (Superseded SameSource) [] [a, b] [b]) :
      a = b ∨ Superseded SameSource a [b] := by
    cases h with
    | keep _ _ => exact .inl rfl
    | lose hloses _ => exact .inr hloses
  intro log h
  rcases hlost _ _ h with he | ⟨-, between, next, rest, hsplit, -, -, hseat, -⟩
  · exact absurd he (by decide)
  · cases between with
    | nil =>
      cases hsplit
      exact absurd hseat (by decide)
    | cons other between => simp at hsplit

end CoalescerLog
end Sophia.Engine
