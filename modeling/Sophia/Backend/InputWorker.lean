import Mathlib.Algebra.GroupWithZero.Nat
import Sophia.Lib.Channel
import Sophia.Lib.Run

/-! The native input worker: one thread reads packets, another takes them from a bounded queue. -/
namespace Sophia.Backend

/-- Instants are counted in nanoseconds. -/
structure QueuedInputEvent (π : Type*) where
  packet : π
  queuedAt : ℕ

/-- Where `run_input_worker` stands, and the closure around it, between two shared accesses. -/
inductive WorkerPhase (π : Type*)
  | dispatching
  | polling
  | reading
  | sending (events : List π)
  | counted (packet : π) (depth : UInt64) (events : List π)
  | observed (packet : π) (events : List π)
  | refused
  | returned (result : Except String Unit)
  | reported (result : Except String Unit)
  | ended (result : Except String Unit)

/-- Where `poll_ready` stands between two shared accesses. -/
inductive PollPhase (π : Type*)
  | resting
  | draining (packets : List π)
  | received (queued : QueuedInputEvent π) (packets : List π)
  | disconnected (packets : List π)
  | closing (packets : List π)
  | dropping

/-- `read` records the packets libinput gave, `replies` what `poll_ready` returned. -/
structure ThreadedInput (capacity : ℕ) (π : Type*) where
  channel : SyncChannel capacity (QueuedInputEvent π)
  health : Option (Except String Unit)
  stop : Bool
  queueDepth : UInt64
  maxQueueDepth : UInt64
  maxDispatchGapMsec : UInt64
  maxQueueDwellMsec : UInt64
  maxReadPerPoll : ℕ
  lastDispatch : ℕ
  worker : WorkerPhase π
  poll : PollPhase π
  read : List π
  replies : List (Except String (List π))

/-- The worker takes its next turn, with the clock and the answer of libinput it finds; the poller
begins a poll, takes its next turn, or is dropped. -/
inductive InputTurn (π : Type*)
  | worker (now : ℕ) (answer : Except String (List π))
  | poll
  | consumer (now : ℕ)
  | drop

/-- Milliseconds since an instant, as far as a `usize` counts them. -/
def elapsedMsec (since now : ℕ) : UInt64 :=
  UInt64.ofNat (min ((now - since) / 1000000) (2 ^ 64 - 1))

/-- What the loop of `observe_max` does to a word that no other thread writes. -/
def observeMax (value candidate : UInt64) : UInt64 :=
  if value < candidate then candidate else value

def queueSaturated : String := "native input acquisition queue saturated"

def workerDisconnected : String := "native input acquisition worker disconnected"

/-- The queue is opened within these limits, whatever is asked for. -/
def queueCapacity (requested : ℕ) : ℕ := max 1 (min requested 4096)

def readLimit (requested : ℕ) : ℕ := max 1 (min requested 256)

def openThreadedInput (π : Type*) (maxReadPerPoll capacity now : ℕ) :
    ThreadedInput (queueCapacity capacity) π where
  channel := .empty
  health := none
  stop := false
  queueDepth := 0
  maxQueueDepth := 0
  maxDispatchGapMsec := 0
  maxQueueDwellMsec := 0
  maxReadPerPoll := readLimit maxReadPerPoll
  lastDispatch := now
  worker := .dispatching
  poll := .resting
  read := []
  replies := []

/-- The sender of the packets is gone once `run_input_worker` has returned. -/
def WorkerPhase.senderGone {π : Type*} : WorkerPhase π → Bool
  | .returned _ | .reported _ | .ended _ => true
  | _ => false

namespace ThreadedInput

variable {capacity : ℕ} {π : Type*}

/-- `run_input_worker`, one shared access at a time. -/
def workerTurn (s : ThreadedInput capacity π) (now : ℕ) (answer : Except String (List π)) :
    ThreadedInput capacity π :=
  match s.worker with
  | .dispatching =>
    if s.stop then { s with worker := .returned (.ok ()) } else { s with worker := .polling }
  | .polling => match answer with
    | .error message => { s with worker := .returned (.error message) }
    | .ok _ =>
      let gap := elapsedMsec s.lastDispatch now
      { s with maxDispatchGapMsec := observeMax s.maxDispatchGapMsec gap, worker := .reading }
  | .reading => match answer with
    | .error message => { s with lastDispatch := now, worker := .returned (.error message) }
    | .ok events =>
      { s with lastDispatch := now, worker := .sending events, read := s.read ++ events }
  | .sending [] => { s with worker := .dispatching }
  | .sending (packet :: events) =>
    -- The word wraps round; the depth it is compared with saturates.
    { s with queueDepth := s.queueDepth + 1
             worker := .counted packet (UInt64.ofNat (min (s.queueDepth.toNat + 1) (2 ^ 64 - 1)))
               events }
  | .counted packet depth events =>
    { s with maxQueueDepth := observeMax s.maxQueueDepth depth, worker := .observed packet events }
  | .observed packet events => match s.channel.trySend ⟨packet, now⟩ with
    | some channel => { s with channel := channel, worker := .sending events }
    -- The receiver lives until the worker is joined, so a failed send found the queue full.
    | none => { s with worker := .refused }
  | .refused =>
    { s with queueDepth := s.queueDepth - 1, worker := .returned (.error queueSaturated) }
  | .returned result => { s with health := some result, worker := .reported result }
  | .reported result => { s with worker := .ended result }
  | .ended _ => s

/-- `worker_error`: its answer and what it leaves of the health channel. -/
def workerError (s : ThreadedInput capacity π) : Except String Unit × ThreadedInput capacity π :=
  match s.health, s.worker with
  | some result, _ => (result, { s with health := none })
  | none, .ended _ => (if s.stop then .ok () else .error workerDisconnected, s)
  | none, _ => (.ok (), s)

/-- Goes on when the worker has no error to report, else ends the poll with it. -/
def orFail (s : ThreadedInput capacity π)
    (next : ThreadedInput capacity π → ThreadedInput capacity π) : ThreadedInput capacity π :=
  match s.workerError with
  | (.ok (), s) => next s
  | (.error message, s) => { s with poll := .resting, replies := s.replies ++ [.error message] }

/-- `poll_ready`, one shared access at a time. -/
def consumerTurn (s : ThreadedInput capacity π) (now : ℕ) : ThreadedInput capacity π :=
  match s.poll with
  | .resting => s
  | .draining packets =>
    if packets.length < s.maxReadPerPoll then
      match s.channel.tryRecv with
      | some (queued, channel) => { s with channel := channel, poll := .received queued packets }
      | none =>
        if s.worker.senderGone then { s with poll := .disconnected packets }
        else { s with poll := .closing packets }
    else { s with poll := .closing packets }
  | .received queued packets =>
    { s with queueDepth := s.queueDepth - 1
             maxQueueDwellMsec := max s.maxQueueDwellMsec (elapsedMsec queued.queuedAt now)
             poll := .draining (packets ++ [queued.packet]) }
  | .disconnected packets => s.orFail fun s => { s with poll := .closing packets }
  | .closing packets =>
    s.orFail fun s => { s with poll := .resting, replies := s.replies ++ [.ok packets] }
  | .dropping => s

def step (s : ThreadedInput capacity π) : InputTurn π → ThreadedInput capacity π
  | .worker now answer => s.workerTurn now answer
  | .poll => match s.poll with
    | .resting => s.orFail fun s => { s with poll := .draining [] }
    | _ => s
  | .consumer now => s.consumerTurn now
  | .drop => match s.poll with
    | .resting => { s with stop := true, poll := .dropping }
    | _ => s

/-- The poller after a sequence of turns of the two threads. -/
def turns (s : ThreadedInput capacity π) (schedule : List (InputTurn π)) :
    ThreadedInput capacity π := Run.exec step s schedule

end ThreadedInput

section Steps

variable {capacity : ℕ} {π : Type*} {s : ThreadedInput capacity π} {now : ℕ}
  {answer : Except String (List π)}

/-- What a turn of the worker can do. -/
inductive WorkerStep (s : ThreadedInput capacity π) : ThreadedInput capacity π → Prop
  | stopped (hw : s.worker = .dispatching) (hstop : s.stop = true) :
      WorkerStep s { s with worker := .returned (.ok ()) }
  | dispatches (hw : s.worker = .dispatching) (hstop : s.stop = false) :
      WorkerStep s { s with worker := .polling }
  | waits (gap : UInt64) (hw : s.worker = .polling) :
      WorkerStep s { s with maxDispatchGapMsec := gap, worker := .reading }
  | fails (message : String) (at' : ℕ) (hw : s.worker = .polling ∨ s.worker = .reading) :
      WorkerStep s { s with lastDispatch := at', worker := .returned (.error message) }
  | reads (at' : ℕ) (events : List π) (hw : s.worker = .reading) :
      WorkerStep s
        { s with lastDispatch := at', worker := .sending events, read := s.read ++ events }
  | allSent (hw : s.worker = .sending []) : WorkerStep s { s with worker := .dispatching }
  | counts {packet : π} {events : List π} (hw : s.worker = .sending (packet :: events)) :
      WorkerStep s
        { s with queueDepth := s.queueDepth + 1
                 worker := .counted packet
                   (UInt64.ofNat (min (s.queueDepth.toNat + 1) (2 ^ 64 - 1))) events }
  | observes {packet : π} {depth : UInt64} {events : List π}
      (hw : s.worker = .counted packet depth events) :
      WorkerStep s
        { s with maxQueueDepth := observeMax s.maxQueueDepth depth
                 worker := .observed packet events }
  | sends {packet : π} {events : List π} {channel : SyncChannel capacity (QueuedInputEvent π)}
      (at' : ℕ) (hw : s.worker = .observed packet events)
      (hitems : channel.items = s.channel.items ++ [⟨packet, at'⟩]) :
      WorkerStep s { s with channel := channel, worker := .sending events }
  | refuses {packet : π} {events : List π} (hw : s.worker = .observed packet events)
      (hfull : s.channel.items.length = capacity) : WorkerStep s { s with worker := .refused }
  | uncounts (hw : s.worker = .refused) :
      WorkerStep s
        { s with queueDepth := s.queueDepth - 1, worker := .returned (.error queueSaturated) }
  | reports {result : Except String Unit} (hw : s.worker = .returned result) :
      WorkerStep s { s with health := some result, worker := .reported result }
  | ends {result : Except String Unit} (hw : s.worker = .reported result) :
      WorkerStep s { s with worker := .ended result }
  | rests {result : Except String Unit} (hw : s.worker = .ended result) : WorkerStep s s

theorem workerStep (s : ThreadedInput capacity π) (now : ℕ) (answer : Except String (List π)) :
    WorkerStep s (s.workerTurn now answer) := by
  unfold ThreadedInput.workerTurn
  split
  · rename_i hw
    split
    · rename_i hstop
      exact .stopped hw hstop
    · rename_i hstop
      exact .dispatches hw (by simpa using hstop)
  · rename_i hw
    split
    · exact .fails _ s.lastDispatch (.inl hw)
    · exact .waits _ hw
  · rename_i hw
    split
    · exact .fails _ now (.inr hw)
    · exact .reads now _ hw
  · rename_i hw
    exact .allSent hw
  · rename_i hw
    exact .counts hw
  · rename_i hw
    exact .observes hw
  · rename_i hw
    split
    · rename_i hsend
      exact .sends now hw (SyncChannel.items_trySend hsend)
    · rename_i hsend
      exact .refuses hw (SyncChannel.length_of_trySend_eq_none hsend)
  · rename_i hw
    exact .uncounts hw
  · rename_i hw
    exact .reports hw
  · rename_i hw
    exact .ends hw
  · rename_i hw
    exact .rests hw

/-- What a poll finds when it asks for the worker's error. -/
inductive Asks (s : ThreadedInput capacity π) : Option String → ThreadedInput capacity π → Prop
  | running (hhealth : s.health = none) (hw : ∀ result, s.worker ≠ .ended result) : Asks s none s
  | stopped (hstop : s.stop = true) (hhealth : s.health = none) : Asks s none s
  | done (hhealth : s.health = some (.ok ())) : Asks s none { s with health := none }
  | failed {message : String} (hhealth : s.health = some (.error message)) :
      Asks s (some message) { s with health := none }
  | gone {result : Except String Unit} (hstop : s.stop = false) (hhealth : s.health = none)
      (hw : s.worker = .ended result) : Asks s (some workerDisconnected) s

theorem workerError_asks (s : ThreadedInput capacity π) :
    (∃ s', Asks s none s' ∧ s.workerError = (.ok (), s')) ∨
      ∃ message s', Asks s (some message) s' ∧ s.workerError = (.error message, s') := by
  unfold ThreadedInput.workerError
  split
  · rename_i result hhealth
    cases result with
    | ok u => exact .inl ⟨_, .done hhealth, rfl⟩
    | error message => exact .inr ⟨message, _, .failed hhealth, rfl⟩
  · rename_i result hhealth hw
    cases hstop : s.stop with
    | true => exact .inl ⟨s, .stopped hstop hhealth, rfl⟩
    | false => exact .inr ⟨_, s, .gone hstop hhealth hw, rfl⟩
  · rename_i hhealth hw
    exact .inl ⟨s, .running hhealth hw, rfl⟩

/-- A poll goes on with the state it leaves, or returns the worker's error. -/
theorem orFail_asks (s : ThreadedInput capacity π)
    (next : ThreadedInput capacity π → ThreadedInput capacity π) :
    (∃ s', Asks s none s' ∧ s.orFail next = next s') ∨
      ∃ message s', Asks s (some message) s' ∧ s.orFail next =
        { s' with poll := .resting, replies := s'.replies ++ [.error message] } := by
  unfold ThreadedInput.orFail
  rcases workerError_asks s with ⟨s', hasks, he⟩ | ⟨message, s', hasks, he⟩
  · rw [he]
    exact .inl ⟨s', hasks, rfl⟩
  · rw [he]
    exact .inr ⟨message, s', hasks, rfl⟩

/-- What a turn of the poller can do. -/
inductive PollStep (s : ThreadedInput capacity π) : ThreadedInput capacity π → Prop
  | begins {s' : ThreadedInput capacity π} (hp : s.poll = .resting) (hasks : Asks s none s') :
      PollStep s { s' with poll := .draining [] }
  | takes {packets : List π} {queued : QueuedInputEvent π}
      {channel : SyncChannel capacity (QueuedInputEvent π)} (hp : s.poll = .draining packets)
      (hroom : packets.length < s.maxReadPerPoll)
      (hitems : s.channel.items = queued :: channel.items) :
      PollStep s { s with channel := channel, poll := .received queued packets }
  | loses {packets : List π} (hp : s.poll = .draining packets) :
      PollStep s { s with poll := .disconnected packets }
  | stops {packets : List π} (hp : s.poll = .draining packets) :
      PollStep s { s with poll := .closing packets }
  | uncounts {packets : List π} {queued : QueuedInputEvent π} (dwell : UInt64)
      (hp : s.poll = .received queued packets) :
      PollStep s
        { s with queueDepth := s.queueDepth - 1
                 maxQueueDwellMsec := dwell
                 poll := .draining (packets ++ [queued.packet]) }
  | continues {s' : ThreadedInput capacity π} {packets : List π}
      (hp : s.poll = .disconnected packets) (hasks : Asks s none s') :
      PollStep s { s' with poll := .closing packets }
  | replies {s' : ThreadedInput capacity π} {packets : List π} (hp : s.poll = .closing packets)
      (hasks : Asks s none s') :
      PollStep s { s' with poll := .resting, replies := s'.replies ++ [.ok packets] }
  | fails {s' : ThreadedInput capacity π} {message : String}
      (hp : s.poll = .resting ∨
        ∃ packets, s.poll = .disconnected packets ∨ s.poll = .closing packets)
      (hasks : Asks s (some message) s') :
      PollStep s { s' with poll := .resting, replies := s'.replies ++ [.error message] }
  | drops (hp : s.poll = .resting) : PollStep s { s with stop := true, poll := .dropping }
  | rests : PollStep s s

theorem pollStep_consumerTurn (s : ThreadedInput capacity π) (now : ℕ) :
    PollStep s (s.consumerTurn now) := by
  unfold ThreadedInput.consumerTurn
  split
  · exact .rests
  · rename_i packets hp
    split
    · rename_i hroom
      split
      · rename_i queued channel hreceive
        exact .takes hp hroom (SyncChannel.items_of_tryRecv hreceive)
      · split
        · exact .loses hp
        · exact .stops hp
    · exact .stops hp
  · rename_i queued packets hp
    exact .uncounts _ hp
  · rename_i packets hp
    rcases orFail_asks s _ with ⟨s', hasks, he⟩ | ⟨message, s', hasks, he⟩
    · rw [he]
      exact .continues hp hasks
    · rw [he]
      exact .fails (.inr ⟨packets, .inl hp⟩) hasks
  · rename_i packets hp
    rcases orFail_asks s _ with ⟨s', hasks, he⟩ | ⟨message, s', hasks, he⟩
    · rw [he]
      exact .replies hp hasks
    · rw [he]
      exact .fails (.inr ⟨packets, .inr hp⟩) hasks
  · exact .rests

theorem step_cases (s : ThreadedInput capacity π) (turn : InputTurn π) :
    WorkerStep s (s.step turn) ∨ PollStep s (s.step turn) := by
  cases turn with
  | worker now answer => exact .inl (workerStep s now answer)
  | consumer now => exact .inr (pollStep_consumerTurn s now)
  | poll =>
    right
    unfold ThreadedInput.step
    dsimp only
    split
    · rename_i hp
      rcases orFail_asks s _ with ⟨s', hasks, he⟩ | ⟨message, s', hasks, he⟩
      · rw [he]
        exact .begins hp hasks
      · rw [he]
        exact .fails (.inl hp) hasks
    · exact .rests
  | drop =>
    right
    unfold ThreadedInput.step
    dsimp only
    split
    · rename_i hp
      exact .drops hp
    · exact .rests

/-- Asking for the worker's error touches the health channel only. -/
theorem Asks.frame {s' : ThreadedInput capacity π} {message : Option String}
    (h : Asks s message s') : ∃ health, s' = { s with health := health } := by
  cases h with
  | done hhealth => exact ⟨none, rfl⟩
  | failed hhealth => exact ⟨none, rfl⟩
  | _ => exact ⟨s.health, rfl⟩

end Steps

section Gauge

variable {capacity : ℕ} {π : Type*} {s : ThreadedInput capacity π} {since now : ℕ}
  {turn : InputTurn π} {value : UInt64}

/-- Packets the worker has counted and not yet sent, or not yet uncounted. -/
def WorkerPhase.pending : WorkerPhase π → ℕ
  | .counted _ _ _ | .observed _ _ | .refused => 1
  | _ => 0

/-- The depth the worker counted and has not yet observed. -/
def WorkerPhase.depth : WorkerPhase π → ℕ
  | .counted _ depth _ => depth.toNat
  | _ => 0

/-- Packets the poll has taken and not yet uncounted. -/
def PollPhase.pending : PollPhase π → ℕ
  | .received _ _ => 1
  | _ => 0

/-- The depth word counts the packets in the queue and those on their way in or out. -/
structure Gauged (s : ThreadedInput capacity π) : Prop where
  depth : s.queueDepth.toNat = s.channel.items.length + s.worker.pending + s.poll.pending
  observed : s.queueDepth.toNat ≤ max s.maxQueueDepth.toNat s.worker.depth
  peak : max s.maxQueueDepth.toNat s.worker.depth ≤ capacity + 2

theorem toNat_observeMax {candidate : UInt64} :
    (observeMax value candidate).toNat = max value.toNat candidate.toNat := by
  unfold observeMax
  split
  · rename_i h
    have hlt := UInt64.lt_iff_toNat_lt.mp h
    omega
  · rename_i h
    have hle := mt UInt64.lt_iff_toNat_lt.mpr h
    omega

theorem PollPhase.pending_le (poll : PollPhase π) : poll.pending ≤ 1 := by
  cases poll <;> simp [PollPhase.pending]

theorem toNat_sub_one (h : 0 < value.toNat) : (value - 1).toNat = value.toNat - 1 := by
  have hle : (1 : UInt64) ≤ value := UInt64.le_iff_toNat_le.mpr h
  rw [UInt64.toNat_sub_of_le _ _ hle]
  rfl

theorem toNat_add_one (h : value.toNat + 1 < 2 ^ 64) : (value + 1).toNat = value.toNat + 1 := by
  rw [UInt64.toNat_add]
  exact Nat.mod_eq_of_lt h

theorem toNat_saturating_add_one (h : value.toNat + 1 < 2 ^ 64) :
    (UInt64.ofNat (min (value.toNat + 1) (2 ^ 64 - 1))).toNat = value.toNat + 1 := by
  rw [Nat.min_eq_left (by omega)]
  exact UInt64.toNat_ofNat_of_lt' h

theorem Gauged.room (h : Gauged s) : s.queueDepth.toNat ≤ capacity + s.worker.pending + 1 := by
  have hbounded := s.channel.bounded
  have hpoll := s.poll.pending_le
  have hdepth := h.depth
  omega

theorem Gauged.workerStep {s' : ThreadedInput capacity π} (h : Gauged s)
    (hcapacity : capacity ≤ 4096) (hstep : WorkerStep s s') : Gauged s' := by
  have hroom := h.room
  obtain ⟨hdepth, hobserved, hpeak⟩ := h
  cases hstep with
  | stopped hw | dispatches hw | waits _ hw | reads _ _ hw | allSent hw | refuses hw | reports hw
  | ends hw => exact ⟨by rwa [hw] at hdepth, by rwa [hw] at hobserved, by rwa [hw] at hpeak⟩
  | fails message at' hw =>
    rcases hw with hw | hw <;>
      exact ⟨by rwa [hw] at hdepth, by rwa [hw] at hobserved, by rwa [hw] at hpeak⟩
  | counts hw =>
    simp only [hw, WorkerPhase.pending, WorkerPhase.depth] at hdepth hobserved hpeak hroom
    have hfits : s.queueDepth.toNat + 1 < 2 ^ 64 := by omega
    refine ⟨?_, ?_, ?_⟩ <;>
      simp only [WorkerPhase.pending, WorkerPhase.depth, toNat_add_one hfits,
        toNat_saturating_add_one hfits] <;> omega
  | observes hw =>
    simp only [hw, WorkerPhase.pending, WorkerPhase.depth] at hdepth hobserved hpeak
    refine ⟨hdepth, ?_, ?_⟩ <;> simp only [toNat_observeMax, WorkerPhase.depth] <;> omega
  | sends at' hw hitems =>
    simp only [hw, WorkerPhase.pending, WorkerPhase.depth] at hdepth hobserved hpeak
    refine ⟨?_, hobserved, hpeak⟩
    simp only [hitems, List.length_append, List.length_singleton, WorkerPhase.pending]
    omega
  | uncounts hw =>
    simp only [hw, WorkerPhase.pending, WorkerPhase.depth] at hdepth hobserved hpeak
    have hpos : 0 < s.queueDepth.toNat := by omega
    refine ⟨?_, ?_, hpeak⟩ <;>
      simp only [WorkerPhase.pending, WorkerPhase.depth, toNat_sub_one hpos] <;> omega
  | rests hw => exact ⟨hdepth, hobserved, hpeak⟩

theorem Gauged.pollStep {s' : ThreadedInput capacity π} (h : Gauged s) (hstep : PollStep s s') :
    Gauged s' := by
  obtain ⟨hdepth, hobserved, hpeak⟩ := h
  cases hstep with
  | begins hp hasks | continues hp hasks | replies hp hasks =>
    obtain ⟨health, rfl⟩ := hasks.frame
    exact ⟨by rwa [hp] at hdepth, hobserved, hpeak⟩
  | takes hp hroom hitems =>
    refine ⟨?_, hobserved, hpeak⟩
    simp only [hp, hitems, List.length_cons, PollPhase.pending] at hdepth ⊢
    omega
  | loses hp | stops hp | drops hp => exact ⟨by rwa [hp] at hdepth, hobserved, hpeak⟩
  | uncounts dwell hp =>
    simp only [hp, PollPhase.pending] at hdepth
    have hpos : 0 < s.queueDepth.toNat := by omega
    refine ⟨?_, ?_, hpeak⟩ <;> simp only [PollPhase.pending, toNat_sub_one hpos] <;> omega
  | fails hp hasks =>
    obtain ⟨health, rfl⟩ := hasks.frame
    rcases hp with hp | ⟨packets, hp | hp⟩ <;>
      exact ⟨by rwa [hp] at hdepth, hobserved, hpeak⟩
  | rests => exact ⟨hdepth, hobserved, hpeak⟩

theorem Gauged.step (h : Gauged s) (hcapacity : capacity ≤ 4096) : Gauged (s.step turn) := by
  rcases step_cases s turn with hstep | hstep
  · exact h.workerStep hcapacity hstep
  · exact h.pollStep hstep

theorem queueCapacity_le (requested : ℕ) : queueCapacity requested ≤ 4096 := by
  unfold queueCapacity
  omega

theorem gauged_open (maxReadPerPoll requested : ℕ) :
    Gauged (openThreadedInput π maxReadPerPoll requested now) where
  depth := rfl
  observed := Nat.zero_le _
  peak := Nat.zero_le _

end Gauge

end Sophia.Backend
