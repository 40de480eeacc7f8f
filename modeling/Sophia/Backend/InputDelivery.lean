import Sophia.Backend.InputWorker

/-! What the polls of the input worker hand over, and how its failure reaches them. -/
namespace Sophia.Backend

section Flow

variable {capacity : ℕ} {π : Type*} {s s' : ThreadedInput capacity π} {now : ℕ}
  {turn : InputTurn π}

/-- The packets the worker has read and still means to send. -/
def WorkerPhase.inFlight : WorkerPhase π → List π
  | .sending events => events
  | .counted packet _ events | .observed packet events => packet :: events
  | _ => []

/-- The worker gives up, so what it still had is lost. -/
def WorkerPhase.failed : WorkerPhase π → Bool
  | .refused | .returned (.error _) | .reported (.error _) | .ended (.error _) => true
  | _ => false

/-- The packets the current poll will return. -/
def PollPhase.taken : PollPhase π → List π
  | .draining packets | .disconnected packets | .closing packets => packets
  | .received queued packets => packets ++ [queued.packet]
  | _ => []

/-- The packets the polls returned. -/
def handed (replies : List (Except String (List π))) : List π :=
  replies.flatMap fun
    | .ok packets => packets
    | .error _ => []

/-- The errors the polls returned. -/
def failures (replies : List (Except String (List π))) : List String :=
  replies.filterMap fun
    | .ok _ => none
    | .error message => some message

/-- All packets not lost, in the order they stand in: handed over, taken, queued, in flight. -/
def ThreadedInput.flow (s : ThreadedInput capacity π) : List π :=
  handed s.replies ++ s.poll.taken ++ s.channel.items.map (·.packet) ++ s.worker.inFlight

structure Flows (s : ThreadedInput capacity π) : Prop where
  sublist : s.flow.Sublist s.read
  leading : failures s.replies = [] → s.flow <+: s.read
  whole : failures s.replies = [] → s.worker.failed = false → s.flow = s.read

/-- A step that moves packets along and reports no error. -/
theorem Flows.keep (h : Flows s) (hflow : s'.flow = s.flow) (hread : s'.read = s.read)
    (hfailures : failures s'.replies = failures s.replies)
    (hfailed : s'.worker.failed = false → s.worker.failed = false) : Flows s' where
  sublist := by
    rw [hflow, hread]
    exact h.sublist
  leading := by
    intro hnone
    rw [hflow, hread]
    exact h.leading (hfailures ▸ hnone)
  whole := by
    intro hnone hworks
    rw [hflow, hread]
    exact h.whole (hfailures ▸ hnone) (hfailed hworks)

/-- Packets read while nothing has failed join the others at the end. -/
theorem Flows.more {events : List π} (h : Flows s) (hworks : s.worker.failed = false)
    (hflow : s'.flow = s.flow ++ events) (hread : s'.read = s.read ++ events)
    (hfailures : failures s'.replies = failures s.replies) : Flows s' := by
  have hwhole (hnone : failures s'.replies = []) : s'.flow = s'.read := by
    rw [hflow, hread, h.whole (hfailures ▸ hnone) hworks]
  refine ⟨?_, ?_, fun hnone _ => hwhole hnone⟩
  · rw [hflow, hread]
    exact h.sublist.append_right events
  · intro hnone
    exact hwhole hnone ▸ List.prefix_rfl

theorem Flows.workerStep (h : Flows s) (hstep : WorkerStep s s') : Flows s' := by
  cases hstep with
  | stopped hw | dispatches hw | waits _ hw | allSent hw | counts hw | observes hw =>
    exact h.keep (by simp [ThreadedInput.flow, hw, WorkerPhase.inFlight]) rfl rfl
      fun _ => by simp [hw, WorkerPhase.failed]
  | fails message at' hw =>
    refine h.keep ?_ rfl rfl fun hworks => by cases hworks
    rcases hw with hw | hw <;> simp [ThreadedInput.flow, hw, WorkerPhase.inFlight]
  | reads at' events hw =>
    exact h.more (by simp [hw, WorkerPhase.failed])
      (by simp [ThreadedInput.flow, hw, WorkerPhase.inFlight]) rfl rfl
  | sends at' hw hitems =>
    exact h.keep (by simp [ThreadedInput.flow, hw, hitems, WorkerPhase.inFlight]) rfl rfl
      fun _ => by simp [hw, WorkerPhase.failed]
  | @refuses packet events hw hfull =>
    -- What the worker still had in hand is lost; the rest stays a prefix.
    have hflow : s.flow = ThreadedInput.flow { s with worker := .refused } ++ packet :: events := by
      simp [ThreadedInput.flow, hw, WorkerPhase.inFlight]
    refine ⟨?_, ?_, ?_⟩
    · exact (hflow ▸ List.sublist_append_left _ _ : List.Sublist _ s.flow).trans h.sublist
    · intro hnone
      exact (hflow ▸ List.prefix_append _ _ : _ <+: s.flow).trans (h.leading hnone)
    · intro _ hworks
      cases hworks
  | uncounts hw =>
    exact h.keep (by simp [ThreadedInput.flow, hw, WorkerPhase.inFlight]) rfl rfl
      fun hworks => by cases hworks
  | @reports result hw | @ends result hw =>
    exact h.keep (by simp [ThreadedInput.flow, hw, WorkerPhase.inFlight]) rfl rfl
      fun hworks => by cases result <;> simp_all [WorkerPhase.failed]
  | rests hw => exact h

theorem Flows.pollStep (h : Flows s) (hstep : PollStep s s') : Flows s' := by
  cases hstep with
  | begins hp hasks | continues hp hasks =>
    obtain ⟨health, rfl⟩ := hasks.frame
    exact h.keep (by simp [ThreadedInput.flow, hp, PollPhase.taken]) rfl rfl id
  | takes hp hroom hitems =>
    exact h.keep (by simp [ThreadedInput.flow, hp, hitems, PollPhase.taken]) rfl rfl id
  | loses hp | stops hp | uncounts _ hp | drops hp =>
    exact h.keep (by simp [ThreadedInput.flow, hp, PollPhase.taken]) rfl rfl id
  | replies hp hasks =>
    obtain ⟨health, rfl⟩ := hasks.frame
    refine h.keep ?_ rfl ?_ id
    · simp [ThreadedInput.flow, hp, handed, PollPhase.taken]
    · simp [failures]
  | @fails _ message hp hasks =>
    -- The packets this poll had taken are lost with it.
    obtain ⟨health, rfl⟩ := hasks.frame
    refine ⟨?_, ?_, ?_⟩
    · refine List.Sublist.trans ?_ h.sublist
      have hhanded : handed (s.replies ++ [.error message]) = handed s.replies := by simp [handed]
      simp only [ThreadedInput.flow, hhanded, PollPhase.taken, List.append_nil, List.append_assoc]
      exact List.Sublist.append_left (List.sublist_append_right _ _) _
    · intro hnone
      simp [failures] at hnone
    · intro hnone
      simp [failures] at hnone
  | rests => exact h

/-- No poll takes or returns more than it may. -/
structure Limited (s : ThreadedInput capacity π) : Prop where
  taken : s.poll.taken.length ≤ s.maxReadPerPoll
  returned : ∀ packets, .ok packets ∈ s.replies → packets.length ≤ s.maxReadPerPoll

theorem Limited.workerStep (h : Limited s) (hstep : WorkerStep s s') : Limited s' := by
  cases hstep <;> exact ⟨h.taken, h.returned⟩

theorem Limited.pollStep (h : Limited s) (hstep : PollStep s s') : Limited s' := by
  obtain ⟨htaken, hreturned⟩ := h
  cases hstep with
  | begins hp hasks =>
    obtain ⟨health, rfl⟩ := hasks.frame
    exact ⟨Nat.zero_le _, hreturned⟩
  | takes hp hroom hitems =>
    refine ⟨?_, hreturned⟩
    simp only [PollPhase.taken, List.length_append, List.length_singleton]
    exact hroom
  | loses hp | stops hp | uncounts _ hp => exact ⟨by rwa [hp] at htaken, hreturned⟩
  | continues hp hasks =>
    obtain ⟨health, rfl⟩ := hasks.frame
    exact ⟨by rwa [hp] at htaken, hreturned⟩
  | @replies _ packets hp hasks =>
    obtain ⟨health, rfl⟩ := hasks.frame
    rw [hp] at htaken
    refine ⟨Nat.zero_le _, ?_⟩
    intro reply hreply
    rcases List.mem_append.mp hreply with hreply | hreply
    · exact hreturned reply hreply
    · cases List.mem_singleton.mp hreply
      exact htaken
  | fails hp hasks =>
    obtain ⟨health, rfl⟩ := hasks.frame
    refine ⟨Nat.zero_le _, ?_⟩
    intro reply hreply
    rcases List.mem_append.mp hreply with hreply | hreply
    · exact hreturned reply hreply
    · cases List.mem_singleton.mp hreply
  | drops hp => exact ⟨Nat.zero_le _, hreturned⟩
  | rests => exact ⟨htaken, hreturned⟩

theorem Limited.step (h : Limited s) : Limited (s.step turn) :=
  (step_cases s turn).elim h.workerStep h.pollStep

theorem Flows.step (h : Flows s) : Flows (s.step turn) :=
  (step_cases s turn).elim h.workerStep h.pollStep

/-- In every interleaving the packets that are handed over, taken, queued and in flight stand in
the order libinput gave them and none stands twice; until a poll fails none is missing before the
last of them, and none at all while the worker works; no poll returns more packets than it may. -/
theorem packets_in_order (maxReadPerPoll requested : ℕ) (schedule : List (InputTurn π)) :
    let s := (openThreadedInput π maxReadPerPoll requested now).turns schedule
    s.flow.Sublist s.read ∧
      (failures s.replies = [] → s.flow <+: s.read ∧ (s.worker.failed = false → s.flow = s.read)) ∧
      ∀ packets, .ok packets ∈ s.replies → packets.length ≤ s.maxReadPerPoll := by
  intro s
  have h : Flows s ∧ Limited s := by
    refine Run.invariant (P := fun s => Flows s ∧ Limited s) ?_ ?_ Run.guarded_true
    · exact ⟨⟨.slnil, fun _ => List.prefix_rfl, fun _ _ => rfl⟩, Nat.zero_le _, by
        intro packets hreply
        cases hreply⟩
    · rintro s turn - ⟨hflows, hlimited⟩
      exact ⟨hflows.step, hlimited.step⟩
  obtain ⟨⟨hsublist, hleading, hwhole⟩, -, hreturned⟩ := h
  exact ⟨hsublist, fun hnone => ⟨hleading hnone, hwhole hnone⟩, hreturned⟩

end Flow

section Failures

variable {capacity : ℕ} {π : Type*} {s s' : ThreadedInput capacity π} {now : ℕ}
  {turn : InputTurn π} {result : Except String Unit} {message : String}

/-- What `run_input_worker` returned. -/
def WorkerPhase.result? : WorkerPhase π → Option (Except String Unit)
  | .returned result | .reported result | .ended result => some result
  | _ => none

/-- The worker has put its result in the health channel. -/
def WorkerPhase.Told (worker : WorkerPhase π) (result : Except String Unit) : Prop :=
  worker = .reported result ∨ worker = .ended result

/-- How far the worker's result has come. -/
inductive News (s : ThreadedInput capacity π) : Prop
  | untold (hw : ∀ result, ¬ s.worker.Told result) (hhealth : s.health = none)
      (hnone : failures s.replies = [])
  | waiting {result : Except String Unit} (hw : s.worker.Told result)
      (hhealth : s.health = some result) (hnone : failures s.replies = [])
  | heard {message : String} (again : ℕ) (hw : s.worker.Told (.error message))
      (hhealth : s.health = none)
      (hfailures : failures s.replies = message :: List.replicate again workerDisconnected)

/-- The worker is asked to stop by the drop only, and ends well only when asked to. -/
structure Honest (s : ThreadedInput capacity π) : Prop where
  stopped : s.stop = true → s.poll = .dropping
  asked : s.worker.result? = some (.ok ()) → s.stop = true
  news : News s

theorem WorkerPhase.Told.result? {worker : WorkerPhase π} (h : worker.Told result) :
    worker.result? = some result := by
  rcases h with rfl | rfl <;> rfl

theorem untold_of_result? {worker : WorkerPhase π} (h : worker.result? = none) :
    ¬ worker.Told result := by
  intro htold
  rw [htold.result?] at h
  cases h

/-- A worker's step that tells nothing. -/
theorem Honest.keep (h : Honest s) (hstop : s'.stop = s.stop) (hpoll : s'.poll = s.poll)
    (hhealth : s'.health = s.health) (hreplies : s'.replies = s.replies)
    (huntold : ∀ result, ¬ s.worker.Told result) (huntold' : ∀ result, ¬ s'.worker.Told result)
    (hasked : s'.worker.result? = some (.ok ()) → s.stop = true) : Honest s' where
  stopped := by
    rw [hstop, hpoll]
    exact h.stopped
  asked := by
    rw [hstop]
    exact hasked
  news := by
    rcases h.news with ⟨-, hnone, hreplied⟩ | ⟨hw, -, -⟩ | ⟨again, hw, -, -⟩
    · exact .untold huntold' (hhealth.trans hnone) (hreplies ▸ hreplied)
    · exact absurd hw (huntold _)
    · exact absurd hw (huntold _)

theorem Honest.workerStep (h : Honest s) (hstep : WorkerStep s s') : Honest s' := by
  -- A worker that has not returned has nothing told, before the step and after it.
  have hquiet {worker : WorkerPhase π} (hw : s.worker = worker) (hnone : worker.result? = none) :
      ∀ result, ¬ s.worker.Told result := fun _ => untold_of_result? (hw ▸ hnone)
  have hloud {result result' : Except String Unit} :
      ¬ (WorkerPhase.returned result : WorkerPhase π).Told result' := by
    rintro (he | he) <;> cases he
  cases hstep with
  | stopped hw hstop =>
    exact h.keep rfl rfl rfl rfl (hquiet hw rfl) (fun _ => hloud) fun _ => hstop
  | dispatches hw | waits _ hw | reads _ _ hw | allSent hw | counts hw | observes hw
  | sends _ hw | refuses hw =>
    exact h.keep rfl rfl rfl rfl (hquiet hw rfl) (fun _ => untold_of_result? rfl) nofun
  | fails message at' hw =>
    rcases hw with hw | hw <;>
      exact h.keep rfl rfl rfl rfl (hquiet hw rfl) (fun _ => hloud) nofun
  | uncounts hw => exact h.keep rfl rfl rfl rfl (hquiet hw rfl) (fun _ => hloud) nofun
  | @reports result hw =>
    refine ⟨h.stopped, fun he => h.asked (hw ▸ he), ?_⟩
    rcases h.news with ⟨-, -, hnone⟩ | ⟨htold, -, -⟩ | ⟨again, htold, -, -⟩
    · exact .waiting (.inl rfl) rfl hnone
    · exact absurd (hw ▸ htold) hloud
    · exact absurd (hw ▸ htold) hloud
  | @ends result hw =>
    have hends {result' : Except String Unit} (htold : s.worker.Told result') :
        (WorkerPhase.ended result : WorkerPhase π).Told result' := by
      rw [hw] at htold
      rcases htold with he | he
      · cases he
        exact .inr rfl
      · cases he
    refine ⟨h.stopped, fun he => h.asked (hw ▸ he), ?_⟩
    rcases h.news with ⟨huntold, -, -⟩ | ⟨htold, hwaits, hnone⟩ | ⟨again, htold, hempty, hheard⟩
    · exact absurd (.inl hw) (huntold result)
    · exact .waiting (hends htold) hwaits hnone
    · exact .heard again (hends htold) hempty hheard
  | rests hw => exact h

/-- A poller's step that asks for nothing. -/
theorem Honest.carry (h : Honest s) (hstop : s'.stop = s.stop) (hworker : s'.worker = s.worker)
    (hhealth : s'.health = s.health) (hfailures : failures s'.replies = failures s.replies)
    (hpoll : s.poll ≠ .dropping) : Honest s' where
  stopped := by
    rw [hstop]
    exact fun he => absurd (h.stopped he) hpoll
  asked := by
    rw [hstop, hworker]
    exact h.asked
  news := by
    rcases h.news with ⟨hw, hnone, hreplied⟩ | ⟨hw, hwaits, hreplied⟩ | ⟨again, hw, hnone, hheard⟩
    · exact .untold (by rwa [hworker]) (hhealth.trans hnone) (hfailures.trans hreplied)
    · exact .waiting (by rwa [hworker]) (hhealth.trans hwaits) (hfailures.trans hreplied)
    · exact .heard again (by rwa [hworker]) (hhealth.trans hnone) (hfailures.trans hheard)

/-- A poll that is told nothing leaves the state as it is. -/
theorem Honest.asks_none (h : Honest s) (hpoll : s.poll ≠ .dropping) (hasks : Asks s none s') :
    s' = s := by
  cases hasks with
  | running hhealth hw => rfl
  | stopped hstop hhealth => rfl
  | done hhealth =>
    rcases h.news with ⟨-, hnone, -⟩ | ⟨hw, hwaits, -⟩ | ⟨again, -, hnone, -⟩
    · rw [hnone] at hhealth
      cases hhealth
    · obtain rfl := Option.some.inj (hwaits.symm.trans hhealth)
      exact absurd (h.stopped (h.asked hw.result?)) hpoll
    · rw [hnone] at hhealth
      cases hhealth

/-- A poll that fails has heard of the worker's failure, now or before. -/
theorem Honest.asks_some (h : Honest s) (hpoll : s.poll ≠ .dropping)
    (hasks : Asks s (some message) s') :
    Honest { s' with poll := .resting, replies := s'.replies ++ [.error message] } := by
  have hstopped (hstop : s.stop = true) : PollPhase.resting = (.dropping : PollPhase π) :=
    absurd (h.stopped hstop) hpoll
  have hfailures : failures (s.replies ++ [.error message]) = failures s.replies ++ [message] := by
    simp [failures]
  cases hasks with
  | failed hhealth =>
    refine ⟨hstopped, h.asked, ?_⟩
    rcases h.news with ⟨-, hnone, -⟩ | ⟨hw, hwaits, hreplied⟩ | ⟨again, -, hnone, -⟩
    · rw [hnone] at hhealth
      cases hhealth
    · obtain rfl := Option.some.inj (hwaits.symm.trans hhealth)
      exact .heard 0 hw rfl (by rw [hfailures, hreplied]; rfl)
    · rw [hnone] at hhealth
      cases hhealth
  | gone hstop hhealth hw =>
    refine ⟨hstopped, h.asked, ?_⟩
    rcases h.news with ⟨huntold, -, -⟩ | ⟨-, hwaits, -⟩ | ⟨again, hw, hnone, hheard⟩
    · exact absurd (.inr hw) (huntold _)
    · rw [hhealth] at hwaits
      cases hwaits
    · refine .heard (again + 1) hw hnone ?_
      rw [hfailures, hheard, List.replicate_succ']
      rfl

theorem Honest.pollStep (h : Honest s) (hstep : PollStep s s') : Honest s' := by
  have hother {poll : PollPhase π} (hp : s.poll = poll) (hne : poll ≠ .dropping) :
      s.poll ≠ .dropping := hp ▸ hne
  cases hstep with
  | begins hp hasks | continues hp hasks =>
    have hpoll := hother hp nofun
    obtain rfl := h.asks_none hpoll hasks
    exact h.carry rfl rfl rfl rfl hpoll
  | takes hp | loses hp | stops hp | uncounts _ hp =>
    exact h.carry rfl rfl rfl rfl (hother hp nofun)
  | replies hp hasks =>
    have hpoll := hother hp nofun
    obtain rfl := h.asks_none hpoll hasks
    exact h.carry rfl rfl rfl (by simp [failures]) hpoll
  | fails hp hasks =>
    rcases hp with hp | ⟨packets, hp | hp⟩ <;> exact h.asks_some (hother hp nofun) hasks
  | drops hp =>
    refine ⟨fun _ => rfl, fun _ => rfl, ?_⟩
    rcases h.news with ⟨hw, hnone, hreplied⟩ | ⟨hw, hwaits, hreplied⟩ | ⟨again, hw, hnone, hheard⟩
    · exact .untold hw hnone hreplied
    · exact .waiting hw hwaits hreplied
    · exact .heard again hw hnone hheard
  | rests => exact h

theorem Honest.step (h : Honest s) : Honest (s.step turn) :=
  (step_cases s turn).elim h.workerStep h.pollStep

theorem honest_open (maxReadPerPoll requested : ℕ) :
    Honest (openThreadedInput π maxReadPerPoll requested now) where
  stopped := nofun
  asked := nofun
  news := .untold (fun _ => untold_of_result? rfl) rfl rfl

/-- In every interleaving a poll fails only after the worker has failed; the first poll to fail
returns the worker's own message and every later failure says the worker is gone; and a poll begun
after the failed worker has ended always fails. -/
theorem worker_failure_reported (maxReadPerPoll requested : ℕ) (schedule : List (InputTurn π)) :
    let s := (openThreadedInput π maxReadPerPoll requested now).turns schedule
    (failures s.replies = [] ∨
      ∃ message again, s.worker.result? = some (.error message) ∧
        failures s.replies = message :: List.replicate again workerDisconnected) ∧
    ∀ message, s.worker = .ended (.error message) → s.poll = .resting →
      ∃ reported, (s.step .poll).replies = s.replies ++ [.error reported] := by
  intro s
  have h : Honest s := by
    refine Run.invariant (P := Honest) (honest_open _ _) ?_ Run.guarded_true
    intro s turn _ h
    exact h.step
  constructor
  · rcases h.news with ⟨-, -, hnone⟩ | ⟨-, -, hnone⟩ | ⟨again, hw, -, hheard⟩
    · exact .inl hnone
    · exact .inl hnone
    · exact .inr ⟨_, again, hw.result?, hheard⟩
  · intro message hw hp
    have hpoll : s.poll ≠ .dropping := by
      rw [hp]
      nofun
    have hbegin : s.step .poll = s.orFail fun s => { s with poll := .draining [] } := by
      simp only [ThreadedInput.step, hp]
    rw [hbegin]
    rcases orFail_asks s _ with ⟨s', hasks, he⟩ | ⟨reported, s', hasks, he⟩
    · cases hasks with
      | running hhealth hrunning => exact absurd hw (hrunning _)
      | stopped hstop hhealth => exact absurd (h.stopped hstop) hpoll
      | done hhealth =>
        rcases h.news with ⟨huntold, -, -⟩ | ⟨htold, hwaits, -⟩ | ⟨again, -, hnone, -⟩
        · exact absurd (.inr hw) (huntold _)
        · obtain rfl := Option.some.inj (hwaits.symm.trans hhealth)
          have hresult := htold.result?
          rw [hw] at hresult
          cases hresult
        · rw [hnone] at hhealth
          cases hhealth
    · rw [he]
      obtain ⟨health, rfl⟩ := hasks.frame
      exact ⟨reported, rfl⟩

end Failures
end Sophia.Backend
