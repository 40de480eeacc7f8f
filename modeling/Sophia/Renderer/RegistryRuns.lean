import Sophia.Lib.History
import Sophia.Renderer.RegistryEffects

/-! Whole runs of the presentation registry. -/
namespace Sophia.Renderer

open Protocol Std LiveDmaBufPresentationRegistry

/-- One call of the registry, with what the operating system answers during it. -/
inductive RegistryOp where
  | registerSource (descriptor : DmaBufDescriptor) (planeFds : List OwnedFd)
  | registerFence (fence : FenceHandle) (fd : OwnedFd)
  | beginPresent (os : FdOracle) (transaction : TransactionId) (handle : BufferHandle)
      (acquireFence idleFence : Option FenceHandle)
  | pollAcquireFence (os : FdOracle) (transaction : TransactionId)
  | submit (transaction : TransactionId)
  | retirePageFlip (os : FdOracle) (transaction : TransactionId)
  | reject (os : FdOracle) (transaction : TransactionId)
  | removeSource (handle : BufferHandle)
  | removeFence (fence : FenceHandle)
  | disconnect (os : TransactionId → FdOracle)

inductive RegistryReply where
  | done (result : Except LiveBufferRegistryError Unit)
  | polled (result : Except LiveBufferRegistryError Bool)
  | retired (retirement : Option LivePresentationRetirement)
  | removed (status : LiveResourceReleaseStatus)
  | disconnected (report : LivePresentationDisconnectReport)

/-- The reply to a call that changes the registry only when it succeeds. -/
def settle (registry : LiveDmaBufPresentationRegistry) :
    Except LiveBufferRegistryError LiveDmaBufPresentationRegistry →
      RegistryReply × LiveDmaBufPresentationRegistry
  | .ok next => (.done (.ok ()), next)
  | .error error => (.done (.error error), registry)

def RegistryOp.call (registry : LiveDmaBufPresentationRegistry) :
    RegistryOp → RegistryReply × LiveDmaBufPresentationRegistry
  | .registerSource descriptor planeFds =>
    settle registry (registry.registerSource descriptor planeFds)
  | .registerFence fence fd => settle registry (registry.registerFence fence fd)
  | .beginPresent os transaction handle acquireFence idleFence =>
    settle registry (registry.beginPresent os transaction handle acquireFence idleFence)
  | .pollAcquireFence os transaction =>
    let (result, next) := registry.pollAcquireFence os transaction
    (.polled result, next)
  | .submit transaction => settle registry (registry.submit transaction)
  | .retirePageFlip os transaction =>
    let (retirement, next) := registry.retirePageFlip os transaction
    (.retired retirement, next)
  | .reject os transaction =>
    let (retirement, next) := registry.reject os transaction
    (.retired retirement, next)
  | .removeSource handle =>
    let (status, next) := registry.removeSource handle
    (.removed status, next)
  | .removeFence fence =>
    let (status, next) := registry.removeFence fence
    (.removed status, next)
  | .disconnect os =>
    let (report, next) := registry.disconnect os
    (.disconnected report, next)

/-- A call that was made, with the registry before and after it. -/
structure RegistryEvent where
  before : LiveDmaBufPresentationRegistry
  op : RegistryOp
  reply : RegistryReply
  after : LiveDmaBufPresentationRegistry

namespace RegistryEvent

def accepted (event : RegistryEvent) : Bool :=
  match event.reply with
  | .done (.ok _) => true
  | _ => false

/-- The call is answered with an error. -/
def failed (event : RegistryEvent) : Bool :=
  match event.reply with
  | .done (.error _) | .polled (.error _) => true
  | _ => false

/-- The sources a call registers. -/
def registered (event : RegistryEvent) : List BufferHandle :=
  match event.op with
  | .registerSource descriptor _ => if event.accepted then [descriptor.handle] else []
  | _ => []

def registeredFences (event : RegistryEvent) : List FenceHandle :=
  match event.op with
  | .registerFence fence _ => if event.accepted then [fence] else []
  | _ => []

def begun (event : RegistryEvent) : List TransactionId :=
  match event.op with
  | .beginPresent _ transaction _ _ _ => if event.accepted then [transaction] else []
  | _ => []

/-- The sources a reply reports as released. -/
def released (event : RegistryEvent) : List BufferSource :=
  match event.op, event.reply with
  | .removeSource handle, .removed .released => [.dmaBuf handle.raw]
  | _, .retired (some retirement) =>
    if retirement.releasedSource then [retirement.source] else []
  | _, .disconnected report => report.releasedSources
  | _, _ => []

def releasedFences (event : RegistryEvent) : List FenceHandle :=
  match event.op, event.reply with
  | .removeFence fence, .removed .released => [fence]
  | _, .retired (some retirement) => retirement.releasedFences
  | _, .disconnected report => report.releasedFences
  | _, _ => []

/-- The presentations a call retires: a disconnect retires all that are left. -/
def ended (event : RegistryEvent) : List TransactionId :=
  match event.reply with
  | .retired (some retirement) => [retirement.transaction]
  | .disconnected _ => event.before.presentations.keys
  | _ => []

/-- The presentation's acquire fence is seen to be signalled, or there is none to wait for. -/
def Signals (event : RegistryEvent) (transaction : TransactionId) : Prop :=
  match event.op with
  | .beginPresent os begun _ acquireFence _ =>
    begun = transaction ∧ event.accepted ∧ ∀ fence ∈ acquireFence,
      ∃ registration, event.before.fences[fence]? = some registration ∧
        os.query registration.fd = some true
  | .pollAcquireFence os polled =>
    polled = transaction ∧ ∃ p fd, event.before.presentations[transaction]? = some p ∧
      p.acquireFenceFd = some fd ∧ os.query fd = some true
  | _ => False

def Submits (event : RegistryEvent) (transaction : TransactionId) : Prop :=
  match event.op with
  | .submit submitted => submitted = transaction ∧ event.accepted
  | _ => False

end RegistryEvent

/-- A registry and everything that was asked of it. -/
structure RegistryRun where
  registry : LiveDmaBufPresentationRegistry
  log : List RegistryEvent

namespace RegistryRun

def start (limits : LivePresentationRegistryLimits) : RegistryRun := ⟨withLimits limits, []⟩

def step (run : RegistryRun) (op : RegistryOp) : RegistryRun where
  registry := (op.call run.registry).2
  log := run.log ++ [⟨run.registry, op, (op.call run.registry).1, (op.call run.registry).2⟩]

/-- The counts balance, everything used is there, and every report is true. -/
structure Sound (run : RegistryRun) : Prop where
  sourceCounts : ∀ handle, ((run.registry.sources[handle]?).map (·.references)).getD 0 =
    sourceUsers run.registry.presentations handle
  fenceCounts : ∀ fence, ((run.registry.fences[fence]?).map (·.references)).getD 0 =
    fenceUsers run.registry.presentations fence
  registered : ∀ (transaction : TransactionId) p,
    run.registry.presentations[transaction]? = some p →
      p.source ∈ run.registry.sources ∧ ∀ fence ∈ p.fenceHandles, fence ∈ run.registry.fences
  found : ∀ event ∈ run.log, ∀ transaction ∈ event.begun, ∃ p,
    event.after.presentations[transaction]? = some p ∧ p.source ∈ event.before.sources ∧
      ∀ fence ∈ p.fenceHandles, fence ∈ event.before.fences
  sourceLimit : run.registry.sources.size ≤ run.registry.limits.sources
  fenceLimit : run.registry.fences.size ≤ run.registry.limits.fences
  presentationLimit : run.registry.presentations.size ≤ run.registry.limits.presentations
  errors : ∀ event ∈ run.log, event.failed → event.after = event.before
  sourcesLeave : ∀ event ∈ run.log, ∀ (handle : BufferHandle) source,
    event.before.sources[handle]? = some source → source.releasePending →
      0 < sourceUsers event.before.presentations handle ∧
        (handle ∈ event.after.sources ↔ 0 < sourceUsers event.after.presentations handle)
  fencesLeave : ∀ event ∈ run.log, ∀ (fence : FenceHandle) registration,
    event.before.fences[fence]? = some registration → registration.releasePending →
      0 < fenceUsers event.before.presentations fence ∧
        (fence ∈ event.after.fences ↔ 0 < fenceUsers event.after.presentations fence)
  sourcesReported : ∀ handle, (run.log.flatMap (·.registered)).count handle =
    (run.log.flatMap (·.released)).count (.dmaBuf handle.raw) +
      if handle ∈ run.registry.sources then 1 else 0
  fencesReported : ∀ fence, (run.log.flatMap (·.registeredFences)).count fence =
    (run.log.flatMap (·.releasedFences)).count fence +
      if fence ∈ run.registry.fences then 1 else 0
  retired : ∀ transaction, (run.log.flatMap (·.begun)).count transaction =
    (run.log.flatMap (·.ended)).count transaction +
      if transaction ∈ run.registry.presentations then 1 else 0
  disconnects : ∀ event ∈ run.log, ∀ report, event.reply = .disconnected report →
    report.retiredPresentations = event.before.presentations.size
  signalled : ∀ before event after, run.log = before ++ event :: after → ∀ transaction,
    event.Submits transaction →
      Run.Marked RegistryEvent.Signals (fun event transaction => transaction ∈ event.begun) before
        transaction

end RegistryRun

/-- The event of one call. -/
def RegistryOp.event (op : RegistryOp) (registry : LiveDmaBufPresentationRegistry) :
    RegistryEvent :=
  ⟨registry, op, (op.call registry).1, (op.call registry).2⟩

section Events

variable {registry before after : LiveDmaBufPresentationRegistry} {os : FdOracle}
  {transaction k : TransactionId}

/-- A poll that changes the registry has seen the fence signalled. -/
structure Polled (registry : LiveDmaBufPresentationRegistry) (os : FdOracle)
    (transaction : TransactionId) (p : LivePresentRegistration) (fd : OwnedFd) : Prop where
  presentation : registry.presentations[transaction]? = some p
  waiting : p.state = .waitingForAcquireFence
  acquireFence : p.acquireFenceFd = some fd
  signalled : os.query fd = some true
  reply : (registry.pollAcquireFence os transaction).1 = .ok true

theorem pollAcquireFence_cases (registry : LiveDmaBufPresentationRegistry) (os : FdOracle)
    (transaction : TransactionId) :
    (registry.pollAcquireFence os transaction).2 = registry ∨
      ∃ p fd, Polled registry os transaction p fd := by
  suffices h : ∀ polled, registry.pollAcquireFence os transaction = polled →
      polled.2 = registry ∨ ∃ p fd, registry.presentations[transaction]? = some p ∧
        p.state = .waitingForAcquireFence ∧ p.acquireFenceFd = some fd ∧
        os.query fd = some true ∧ polled.1 = .ok true by
    refine (h _ rfl).imp_right ?_
    rintro ⟨p, fd, hp, hwaiting, hfd, hquery, hreply⟩
    exact ⟨p, fd, hp, hwaiting, hfd, hquery, hreply⟩
  rintro polled h
  unfold pollAcquireFence at h
  split at h
  · subst h
    exact .inl rfl
  rename_i p hp
  split at h
  · subst h
    exact .inl rfl
  rename_i hwaiting
  split at h
  · subst h
    exact .inl rfl
  rename_i fd hfd
  split at h
  · subst h
    exact .inl rfl
  · subst h
    exact .inl rfl
  · rename_i hquery
    subst h
    exact .inr ⟨p, fd, hp, not_not.mp hwaiting, hfd, hquery, rfl⟩

theorem failed_unchanged (op : RegistryOp) (registry : LiveDmaBufPresentationRegistry)
    (h : (op.event registry).failed) : (op.event registry).after = registry := by
  have hsettle : ∀ result, (match (settle registry result).1 with
      | .done (.error _) | .polled (.error _) => true
      | _ => false) = true → (settle registry result).2 = registry := by
    intro result hfailed
    cases result with
    | ok next => cases hfailed
    | error error => rfl
  cases op with
  | registerSource | registerFence | beginPresent | submit => exact hsettle _ h
  | pollAcquireFence os transaction =>
    rcases pollAcquireFence_cases registry os transaction with hsame | ⟨p, fd, hpolled⟩
    · exact hsame
    · simp only [RegistryOp.event, RegistryOp.call, RegistryEvent.failed, hpolled.reply] at h
      cases h
  | _ => cases h

theorem reject_cases (registry : LiveDmaBufPresentationRegistry) (os : FdOracle)
    (transaction : TransactionId) :
    registry.reject os transaction = (none, registry) ∨
      ∃ p, ∃ hp : registry.presentations[transaction]? = some p,
        registry.reject os transaction =
          (some (registry.finishPresent os transaction p hp).1,
            (registry.finishPresent os transaction p hp).2) := by
  rcases (registry.presentations[transaction]?).eq_none_or_eq_some with hp | ⟨p, hp⟩
  · exact .inl (reject_of_none registry hp)
  · exact .inr ⟨p, hp, reject_of_some registry os hp⟩

theorem map_released (p : LivePresentRegistration) (retirement : LivePresentationRetirement)
    (h : retirement.source = .dmaBuf p.source.raw) :
    (if retirement.releasedSource then [retirement.source] else []) =
      (retired p retirement).released.map fun handle => .dmaBuf handle.raw := by
  simp only [retired, h]
  split <;> rfl

/-- What a call moves is what its reply reports. -/
theorem event_effect (op : RegistryOp) (hkept : registry.Kept) :
    ∃ released, Effect registry (op.event registry).after
        { registered := (op.event registry).registered
          released
          registeredFences := (op.event registry).registeredFences
          releasedFences := (op.event registry).releasedFences
          begun := (op.event registry).begun
          ended := (op.event registry).ended } ∧
      (op.event registry).released = released.map fun handle => .dmaBuf handle.raw := by
  cases op with
  | registerSource descriptor planeFds =>
    simp only [RegistryOp.event, RegistryOp.call]
    cases h : registry.registerSource descriptor planeFds with
    | ok next => exact ⟨[], effect_registerSource hkept h, rfl⟩
    | error error => exact ⟨[], .refl hkept, rfl⟩
  | registerFence fence fd =>
    simp only [RegistryOp.event, RegistryOp.call]
    cases h : registry.registerFence fence fd with
    | ok next => exact ⟨[], effect_registerFence hkept h, rfl⟩
    | error error => exact ⟨[], .refl hkept, rfl⟩
  | beginPresent os transaction handle acquireFence idleFence =>
    simp only [RegistryOp.event, RegistryOp.call]
    cases h : registry.beginPresent os transaction handle acquireFence idleFence with
    | ok next => exact ⟨[], effect_beginPresent hkept h, rfl⟩
    | error error => exact ⟨[], .refl hkept, rfl⟩
  | pollAcquireFence os transaction => exact ⟨[], effect_pollAcquireFence hkept, rfl⟩
  | submit transaction =>
    simp only [RegistryOp.event, RegistryOp.call]
    cases h : registry.submit transaction with
    | ok next => exact ⟨[], effect_submit hkept h, rfl⟩
    | error error => exact ⟨[], .refl hkept, rfl⟩
  | reject os transaction =>
    simp only [RegistryOp.event, RegistryOp.call]
    rcases reject_cases registry os transaction with hnone | ⟨p, hp, hsome⟩
    · rw [hnone]
      exact ⟨[], .refl hkept, rfl⟩
    · rw [hsome]
      exact ⟨_, effect_finishPresent hkept hp, map_released p _ rfl⟩
  | retirePageFlip os transaction =>
    simp only [RegistryOp.event, RegistryOp.call, retirePageFlip]
    split
    · rcases reject_cases registry os transaction with hnone | ⟨p, hp, hsome⟩
      · rw [hnone]
        exact ⟨[], .refl hkept, rfl⟩
      · rw [hsome]
        exact ⟨_, effect_finishPresent hkept hp, map_released p _ rfl⟩
    · exact ⟨[], .refl hkept, rfl⟩
  | removeSource handle =>
    have heffect := @effect_removeSource registry handle hkept
    refine ⟨_, heffect, ?_⟩
    simp only [RegistryOp.event, RegistryOp.call]
    cases (registry.removeSource handle).1 <;> rfl
  | removeFence fence =>
    refine ⟨[], ?_, ?_⟩
    · have heffect := @effect_removeFence registry fence hkept
      simp only [RegistryOp.event, RegistryOp.call]
      revert heffect
      cases (registry.removeFence fence).1 <;> exact id
    · simp only [RegistryOp.event, RegistryOp.call]
      cases (registry.removeFence fence).1 <;> rfl
  | disconnect os =>
    obtain ⟨released, heffect, hreleased, -⟩ := effect_disconnect _ hkept
    exact ⟨released, heffect, hreleased⟩

/-- Whatever a presentation is begun with was there. -/
theorem found_begun (op : RegistryOp) :
    ∀ transaction ∈ (op.event registry).begun, ∃ p,
      (op.event registry).after.presentations[transaction]? = some p ∧ p.source ∈ registry.sources ∧
        ∀ fence ∈ p.fenceHandles, fence ∈ registry.fences := by
  intro transaction hmem
  cases op with
  | beginPresent os begun handle acquireFence idleFence =>
    cases hbegin : registry.beginPresent os begun handle acquireFence idleFence with
    | error error =>
      simp [RegistryEvent.begun, RegistryEvent.accepted, RegistryOp.event, RegistryOp.call, hbegin,
        settle] at hmem
    | ok next =>
      obtain rfl : transaction = begun := by
        simpa [RegistryEvent.begun, RegistryEvent.accepted, RegistryOp.event, RegistryOp.call,
          hbegin, settle] using hmem
      obtain ⟨-, -, source, acquireFd, idleFd, ready, p, hsource, hacquire, hidle, -, rfl, rfl, rfl,
        -, -, -, -, hpresentations⟩ := beginPresent_eq_ok hbegin
      refine ⟨p, ?_, mem_of_getElem? hsource, mem_fences_of_cloned hacquire hidle⟩
      simp only [RegistryOp.event, RegistryOp.call, hbegin, settle, hpresentations]
      exact ExtTreeMap.getElem?_insert_self
  | _ => exact absurd hmem List.not_mem_nil

/-- Past its acquire fence: ready for the screen, or on it. -/
def LiveBufferState.Passed : Option LiveBufferState → Prop
  | some .ready | some .submitted => True
  | _ => False

theorem submit_eq_ok (h : before.submit transaction = .ok after) :
    before.state transaction = some .ready ∧
      ∀ k, after.state k = if transaction = k then some .submitted else before.state k := by
  unfold submit at h
  split at h
  · cases h
  rename_i p hp
  split at h
  · cases h
  · rename_i hready
    cases h
    exact ⟨by simp [state, hp, hready], fun k => by rw [state_overwrite]⟩
  · cases h

/-- A presentation that is begun past its acquire fence has none, or has seen it signalled. -/
theorem signals_beginPresent {handle : BufferHandle} {acquireFence idleFence : Option FenceHandle}
    (h : before.beginPresent os transaction handle acquireFence idleFence = .ok after)
    (hpassed : LiveBufferState.Passed (after.state transaction)) :
    ∀ fence ∈ acquireFence, ∃ registration, before.fences[fence]? = some registration ∧
      os.query registration.fd = some true := by
  obtain ⟨-, -, source, acquireFd, idleFd, ready, p, -, hacquire, -, hready, -, rfl, -, hstate, -, -,
    -, hpresentations⟩ := beginPresent_eq_ok h
  have hnow : after.state transaction = some p.state := by
    simp [state, hpresentations]
  rw [hnow, hstate] at hpassed
  cases ready with
  | false => exact absurd hpassed id
  | true =>
    intro fence hfence
    rcases cloneFence_eq_ok hacquire with ⟨hnone, -⟩ | ⟨found, registration, hfound, hget, rfl⟩
    · rw [hnone] at hfence
      cases hfence
    · rw [hfound] at hfence
      cases hfence
      refine ⟨registration, hget, ?_⟩
      simp only [acquireReady] at hready
      split at hready
      · cases hready
      · rename_i hquery
        cases hready
        exact hquery

/-- A presentation gets past its acquire fence only by an event that signals it. -/
theorem passed_cases (op : RegistryOp)
    (h : LiveBufferState.Passed ((op.event registry).after.state k)) :
    (op.event registry).Signals k ∨
      LiveBufferState.Passed (registry.state k) ∧ k ∉ (op.event registry).begun := by
  cases op with
  | registerSource descriptor planeFds =>
    refine .inr ⟨?_, List.not_mem_nil⟩
    revert h
    simp only [RegistryOp.event, RegistryOp.call]
    cases hregister : registry.registerSource descriptor planeFds with
    | ok next =>
      simp only [settle, state, presentations_registerSource hregister]
      exact id
    | error error => exact id
  | registerFence fence fd =>
    refine .inr ⟨?_, List.not_mem_nil⟩
    revert h
    simp only [RegistryOp.event, RegistryOp.call]
    cases hregister : registry.registerFence fence fd with
    | ok next =>
      simp only [settle, state, presentations_registerFence hregister]
      exact id
    | error error => exact id
  | beginPresent os transaction handle acquireFence idleFence =>
    cases hbegin : registry.beginPresent os transaction handle acquireFence idleFence with
    | error error =>
      refine .inr ⟨?_, ?_⟩
      · simpa only [RegistryOp.event, RegistryOp.call, hbegin, settle] using h
      · simp [RegistryEvent.begun, RegistryEvent.accepted, RegistryOp.event, RegistryOp.call,
          hbegin, settle]
    | ok next =>
      have hnext : (RegistryOp.event (.beginPresent os transaction handle acquireFence idleFence)
          registry).after = next := by
        simp only [RegistryOp.event, RegistryOp.call, hbegin, settle]
      have haccepted : (RegistryOp.event (.beginPresent os transaction handle acquireFence idleFence)
          registry).accepted := by
        simp only [RegistryEvent.accepted, RegistryOp.event, RegistryOp.call, hbegin, settle]
      rw [hnext] at h
      by_cases hk : transaction = k
      · subst hk
        exact .inl ⟨rfl, haccepted, signals_beginPresent hbegin h⟩
      · obtain ⟨-, begun, -, hstate⟩ := state_beginPresent hbegin
        rw [hstate, if_neg hk] at h
        refine .inr ⟨h, ?_⟩
        have hne : k ≠ transaction := Ne.symm hk
        have hbegun : (RegistryOp.event (.beginPresent os transaction handle acquireFence idleFence)
            registry).begun = [transaction] := if_pos haccepted
        rw [hbegun]
        simpa using hne
  | pollAcquireFence os transaction =>
    rcases pollAcquireFence_cases registry os transaction with hsame | ⟨p, fd, hpolled⟩
    · refine .inr ⟨?_, List.not_mem_nil⟩
      simpa only [RegistryOp.event, RegistryOp.call, hsame] using h
    · by_cases hk : transaction = k
      · subst hk
        exact .inl ⟨rfl, p, fd, hpolled.presentation, hpolled.acquireFence, hpolled.signalled⟩
      · refine .inr ⟨?_, List.not_mem_nil⟩
        rcases @state_pollAcquireFence registry os transaction k with hsame | ⟨he, -⟩
        · rw [← hsame]
          exact h
        · exact absurd he hk
  | submit transaction =>
    refine .inr ⟨?_, List.not_mem_nil⟩
    revert h
    simp only [RegistryOp.event, RegistryOp.call]
    cases hsubmit : registry.submit transaction with
    | ok next =>
      obtain ⟨hready, hstate⟩ := submit_eq_ok hsubmit
      simp only [settle, hstate]
      split
      · rename_i he
        subst he
        rw [hready]
        exact id
      · exact id
    | error error => exact id
  | reject os transaction =>
    refine .inr ⟨?_, List.not_mem_nil⟩
    revert h
    simp only [RegistryOp.event, RegistryOp.call, state_reject]
    split
    · exact False.elim
    · exact id
  | retirePageFlip os transaction =>
    refine .inr ⟨?_, List.not_mem_nil⟩
    revert h
    simp only [RegistryOp.event, RegistryOp.call, retirePageFlip]
    split
    · rw [state_reject]
      split
      · exact False.elim
      · exact id
    · exact id
  | removeSource handle =>
    refine .inr ⟨?_, List.not_mem_nil⟩
    simpa only [RegistryOp.event, RegistryOp.call, state, presentations_removeSource] using h
  | removeFence fence =>
    refine .inr ⟨?_, List.not_mem_nil⟩
    simpa only [RegistryOp.event, RegistryOp.call, state, presentations_removeFence] using h
  | disconnect os =>
    refine .inr ⟨?_, List.not_mem_nil⟩
    simp only [RegistryOp.event, RegistryOp.call, state, (registry.disconnect_empty os).1] at h
    simp [LiveBufferState.Passed] at h

/-- A presentation that goes to the screen was past its acquire fence. -/
theorem passed_of_submits (op : RegistryOp) (h : (op.event registry).Submits transaction) :
    LiveBufferState.Passed (registry.state transaction) := by
  cases op with
  | submit submitted =>
    obtain ⟨rfl, haccepted⟩ := h
    cases hsubmit : registry.submit submitted with
    | ok next =>
      rw [(submit_eq_ok hsubmit).1]
      trivial
    | error error =>
      simp only [RegistryEvent.accepted, RegistryOp.event, RegistryOp.call, hsubmit,
        settle] at haccepted
      cases haccepted
  | _ => exact h.elim

end Events

namespace RegistryRun

variable {run : RegistryRun} {limits : LivePresentationRegistryLimits}

/-- What a run keeps, beside what it reports: only signalled fences are passed. -/
structure Reached (run : RegistryRun) : Prop extends Sound run where
  kept : run.registry.Kept
  passed : ∀ transaction, LiveBufferState.Passed (run.registry.state transaction) →
    Run.Marked RegistryEvent.Signals (fun event transaction => transaction ∈ event.begun) run.log
      transaction

theorem registered_of_kept (h : run.registry.Kept) (transaction : TransactionId)
    (p : LivePresentRegistration) (hp : run.registry.presentations[transaction]? = some p) :
    p.source ∈ run.registry.sources ∧ ∀ fence ∈ p.fenceHandles, fence ∈ run.registry.fences := by
  constructor
  · have hused : 0 < sourceUsers run.registry.presentations p.source := by
      rw [sourceUsers_erase hp, if_pos rfl]
      exact Nat.succ_pos _
    obtain ⟨source, hget⟩ := h.sources.exists_of_used hused
    exact mem_of_getElem? hget
  · intro fence hfence
    have hused : 0 < fenceUsers run.registry.presentations fence := by
      have hone := List.count_pos_iff.mpr hfence
      rw [fenceUsers_erase hp]
      omega
    obtain ⟨registration, hget⟩ := h.fences.exists_of_used hused
    exact mem_of_getElem? hget

theorem reached_start (limits : LivePresentationRegistryLimits) : (start limits).Reached := by
  have hkept : (start limits).registry.Kept := kept_withLimits limits
  refine
    { kept := hkept
      sourceCounts := hkept.sources.counts
      fenceCounts := hkept.fences.counts
      registered := registered_of_kept hkept
      found := by simp [start]
      sourceLimit := hkept.sourceLimit
      fenceLimit := hkept.fenceLimit
      presentationLimit := hkept.presentationLimit
      errors := by simp [start]
      sourcesLeave := by simp [start]
      fencesLeave := by simp [start]
      sourcesReported := fun handle => by simp [start, withLimits]
      fencesReported := fun fence => by simp [start, withLimits]
      retired := fun transaction => by simp [start, withLimits]
      disconnects := by simp [start]
      signalled := fun before event after h => by simp [start] at h
      passed := fun transaction h => ?_ }
  simp [start, withLimits, state, LiveBufferState.Passed] at h

theorem dmaBuf_injective : Function.Injective fun handle : BufferHandle =>
    BufferSource.dmaBuf handle.raw := by
  rintro ⟨a⟩ ⟨b⟩ h
  simpa using h

/-- What held of every event holds of every event after one more, if it holds of that one. -/
theorem forall_log_step {P : RegistryEvent → Prop} {op : RegistryOp}
    (hrun : ∀ event ∈ run.log, P event) (hnew : P (op.event run.registry)) :
    ∀ event ∈ (run.step op).log, P event := by
  intro event hmem
  rcases List.mem_append.mp hmem with hold | hlast
  · exact hrun event hold
  · rw [List.mem_singleton.mp hlast]
    exact hnew

theorem flatMap_snoc {α β : Type*} (xs : List α) (x : α) (f : α → List β) :
    (xs ++ [x]).flatMap f = xs.flatMap f ++ f x := by
  simp

theorem disconnected_count (op : RegistryOp) {report : LivePresentationDisconnectReport}
    {registry : LiveDmaBufPresentationRegistry} (hkept : registry.Kept)
    (h : (op.event registry).reply = .disconnected report) :
    report.retiredPresentations = registry.presentations.size := by
  cases op with
  | disconnect os =>
    obtain ⟨released, -, -, hcount⟩ := effect_disconnect os hkept
    cases h
    exact hcount
  | registerSource descriptor planeFds =>
    simp only [RegistryOp.event, RegistryOp.call] at h
    cases hresult : registry.registerSource descriptor planeFds <;> rw [hresult] at h <;> cases h
  | registerFence fence fd =>
    simp only [RegistryOp.event, RegistryOp.call] at h
    cases hresult : registry.registerFence fence fd <;> rw [hresult] at h <;> cases h
  | beginPresent os transaction handle acquireFence idleFence =>
    simp only [RegistryOp.event, RegistryOp.call] at h
    cases hresult : registry.beginPresent os transaction handle acquireFence idleFence <;>
      rw [hresult] at h <;> cases h
  | submit transaction =>
    simp only [RegistryOp.event, RegistryOp.call] at h
    cases hresult : registry.submit transaction <;> rw [hresult] at h <;> cases h
  | _ => cases h

theorem reached_step (h : run.Reached) (op : RegistryOp) : (run.step op).Reached := by
  obtain ⟨released, heffect, hreleased⟩ := event_effect op h.kept
  have hkept : (run.step op).registry.Kept := heffect.kept
  have hlog : (run.step op).log = run.log ++ [op.event run.registry] := rfl
  refine
    { kept := hkept
      sourceCounts := hkept.sources.counts
      fenceCounts := hkept.fences.counts
      registered := registered_of_kept hkept
      found := forall_log_step h.found (found_begun op)
      sourceLimit := hkept.sourceLimit
      fenceLimit := hkept.fenceLimit
      presentationLimit := hkept.presentationLimit
      errors := forall_log_step h.errors (failed_unchanged op run.registry)
      sourcesLeave := forall_log_step h.sourcesLeave fun handle source hget hpending =>
        ⟨(h.kept.sources.refs_eq hget) ▸ h.kept.sources.used handle source hget hpending,
          heffect.sources.mem_iff hkept.sources hget hpending⟩
      fencesLeave := forall_log_step h.fencesLeave fun fence registration hget hpending =>
        ⟨(h.kept.fences.refs_eq hget) ▸ h.kept.fences.used fence registration hget hpending,
          heffect.fences.mem_iff hkept.fences hget hpending⟩
      sourcesReported := fun handle => ?_
      fencesReported := fun fence => ?_
      retired := fun transaction => ?_
      disconnects := forall_log_step h.disconnects fun report hreport => ?_
      signalled := ?_
      passed := fun transaction hpassed => ?_ }
  · have hbefore := h.sourcesReported handle
    have hbalance := heffect.sources.balance handle
    dsimp only at hbalance
    have hcount := List.count_map_of_injective released _ dmaBuf_injective handle
    rw [← hreleased] at hcount
    rw [hlog, flatMap_snoc, flatMap_snoc, List.count_append, List.count_append, hcount]
    have hafter : (run.step op).registry = (op.event run.registry).after := rfl
    rw [hafter]
    omega
  · have hbefore := h.fencesReported fence
    have hbalance := heffect.fences.balance fence
    dsimp only at hbalance
    rw [hlog, flatMap_snoc, flatMap_snoc, List.count_append, List.count_append]
    have hafter : (run.step op).registry = (op.event run.registry).after := rfl
    rw [hafter]
    omega
  · have hbefore := h.retired transaction
    have hbalance := heffect.presentations.balance transaction
    dsimp only at hbalance
    rw [hlog, flatMap_snoc, flatMap_snoc, List.count_append, List.count_append]
    have hafter : (run.step op).registry = (op.event run.registry).after := rfl
    rw [hafter]
    omega
  · exact disconnected_count op h.kept hreport
  · intro before event after he transaction hsubmits
    rw [hlog] at he
    rcases List.eq_nil_or_concat after with rfl | ⟨after, last, rfl⟩
    · obtain ⟨rfl, hlast⟩ := List.append_inj' he rfl
      cases hlast
      exact h.passed transaction (passed_of_submits op hsubmits)
    · have he : run.log ++ [op.event run.registry] = (before ++ event :: after) ++ [last] := by
        simpa using he
      obtain ⟨hrun, -⟩ := List.append_inj' he rfl
      exact h.signalled before event after hrun transaction hsubmits
  · rw [hlog, Run.marked_snoc]
    exact (passed_cases op hpassed).imp_right fun hbefore =>
      ⟨h.passed transaction hbefore.1, hbefore.2⟩

/-- However the registry is used, its counts balance, and it releases and retires everything
exactly once. -/
theorem sound_exec (limits : LivePresentationRegistryLimits) (ops : List RegistryOp) :
    (Run.exec step (start limits) ops).Sound :=
  (Run.invariant (P := Reached) (reached_start limits) (fun _ op _ h => reached_step h op)
    Run.guarded_true).toSound

end RegistryRun
end Sophia.Renderer
