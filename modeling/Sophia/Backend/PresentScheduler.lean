import Sophia.Lib.Run
import Sophia.Engine.AuthorityTransaction
import Sophia.Renderer.PresentationRegistry

/-! Authority batches, resource intake and the queue of Present submissions. -/
namespace Sophia.Backend

open Protocol Engine Renderer

/-- Points in time and durations, in nanoseconds. -/
abbrev Instant := ℕ

structure LivePresentationSubmission where
  transaction : TransactionId
  buffer : BufferHandle
  acquireFence : Option FenceHandle
  idleFence : Option FenceHandle
  deriving DecidableEq

structure LiveProductionDmaBufRegistration where
  descriptor : DmaBufDescriptor
  planeFds : List OwnedFd
  deriving DecidableEq

structure LiveProductionFenceRegistration where
  handle : FenceHandle
  initiallyTriggered : Bool
  fd : OwnedFd
  deriving DecidableEq

structure LiveProductionPresentSubmission where
  transaction : TransactionId
  surface : SurfaceId
  buffer : BufferHandle
  acquireFence : Option FenceHandle
  idleFence : Option FenceHandle
  deriving DecidableEq

structure LiveProductionAuthorityBatch where
  transaction : TransactionId
  transactions : List SurfaceTransaction
  removedSurfaces : List SurfaceId := []
  dmaBufRegistrations : List LiveProductionDmaBufRegistration := []
  fenceRegistrations : List LiveProductionFenceRegistration := []
  presentSubmissions : List LiveProductionPresentSubmission := []
  releasedDmaBufs : List BufferHandle := []
  releasedFences : List FenceHandle := []
  deriving DecidableEq

/-- What a runtime operation reports when it does not complete. -/
inductive RuntimeError where
  | fdClone
  | registry (error : LiveBufferRegistryError)
  | presentWithoutTransaction
  | output
  | mixedDiagnosticComplete
  | engineCommit (commit : TransactionCommit)
  | unknownPresentation (transaction : TransactionId)
  deriving DecidableEq

/-- Answers of the operating system, by the presentation they are asked for. -/
abbrev Os := TransactionId → FdOracle

def liftRegistry {α : Type} : Except LiveBufferRegistryError α → Except RuntimeError α
  | .ok a => .ok a
  | .error error => .error (.registry error)

def registerDmaBuf (os : FdOracle) (r : LiveDmaBufPresentationRegistry)
    (registration : LiveProductionDmaBufRegistration) :
    Except RuntimeError LiveDmaBufPresentationRegistry :=
  if !registration.planeFds.all os.tryClone then .error .fdClone
  else liftRegistry (r.registerSource registration.descriptor registration.planeFds)

def registerFenceFd (os : FdOracle) (r : LiveDmaBufPresentationRegistry)
    (registration : LiveProductionFenceRegistration) :
    Except RuntimeError LiveDmaBufPresentationRegistry :=
  if !os.tryClone registration.fd then .error .fdClone
  else liftRegistry (r.registerFence registration.handle registration.fd)

def observeAuthorityResources (os : Os) (batch : LiveProductionAuthorityBatch)
    (r : LiveDmaBufPresentationRegistry) :
    Except RuntimeError Unit × LiveDmaBufPresentationRegistry :=
  match Run.tryEach (registerDmaBuf (os batch.transaction)) batch.dmaBufRegistrations r with
  | (.error error, r) => (.error error, r)
  | (.ok (), r) =>
    match Run.tryEach (registerFenceFd (os batch.transaction)) batch.fenceRegistrations r with
    | (.error error, r) => (.error error, r)
    | (.ok (), r) =>
      let r := batch.releasedDmaBufs.foldl (fun r handle => (r.removeSource handle).2) r
      let r := batch.releasedFences.foldl (fun r fence => (r.removeFence fence).2) r
      (.ok (), r)

theorem presentations_registerDmaBuf {os : FdOracle} {r r' : LiveDmaBufPresentationRegistry}
    {registration : LiveProductionDmaBufRegistration}
    (h : registerDmaBuf os r registration = .ok r') : r'.presentations = r.presentations := by
  unfold registerDmaBuf at h
  split at h
  · cases h
  · cases hr : r.registerSource registration.descriptor registration.planeFds with
    | error error => simp [hr, liftRegistry] at h
    | ok r'' =>
      rw [hr] at h
      cases h
      exact LiveDmaBufPresentationRegistry.presentations_registerSource hr

theorem presentations_registerFenceFd {os : FdOracle} {r r' : LiveDmaBufPresentationRegistry}
    {registration : LiveProductionFenceRegistration}
    (h : registerFenceFd os r registration = .ok r') : r'.presentations = r.presentations := by
  unfold registerFenceFd at h
  split at h
  · cases h
  · cases hr : r.registerFence registration.handle registration.fd with
    | error error => simp [hr, liftRegistry] at h
    | ok r'' =>
      rw [hr] at h
      cases h
      exact LiveDmaBufPresentationRegistry.presentations_registerFence hr

/-- Resource intake leaves the presentations in flight alone. -/
theorem presentations_observeAuthorityResources (os : Os) (batch : LiveProductionAuthorityBatch)
    (r : LiveDmaBufPresentationRegistry) :
    (observeAuthorityResources os batch r).2.presentations = r.presentations := by
  let P (r' : LiveDmaBufPresentationRegistry) : Prop := r'.presentations = r.presentations
  have hsources : P (Run.tryEach _ batch.dmaBufRegistrations r).2 :=
    Run.tryEach_invariant (registerDmaBuf (os batch.transaction)) P
      (fun t x t' hb ht => (presentations_registerDmaBuf hb).trans ht) _ rfl
  unfold observeAuthorityResources
  split
  · rename_i he
    rw [he] at hsources
    exact hsources
  · rename_i r₁ he
    rw [he] at hsources
    have hfences : P (Run.tryEach _ batch.fenceRegistrations r₁).2 :=
      Run.tryEach_invariant (registerFenceFd (os batch.transaction)) P
        (fun t x t' hb ht => (presentations_registerFenceFd hb).trans ht) _ hsources
    split
    · rename_i he
      rw [he] at hfences
      exact hfences
    · rename_i r₂ he
      rw [he] at hfences
      refine List.foldlRecOn (motive := P) _ _ ?_ fun r' hr' fence _ => ?_
      · refine List.foldlRecOn (motive := P) _ _ hfences fun r' hr' handle _ => ?_
        exact (r'.presentations_removeSource handle).trans hr'
      · exact (r'.presentations_removeFence fence).trans hr'

structure LiveProductionQueuedPresent where
  submission : LivePresentationSubmission
  surface : SurfaceId
  transactions : List SurfaceTransaction
  target : Rect
  deadline : Instant
  notBefore : Instant
  deriving DecidableEq

structure LiveProductionSubmittedPresent where
  transaction : TransactionId
  surface : SurfaceId
  prepared : PreparedSurfaceCommit
  deriving DecidableEq

inductive LiveProductionPresentGate where
  | idle
  | submittedInFlight
  | waitingAcquire
  | reject (transaction : TransactionId)
  | ready (transaction : TransactionId)
  deriving DecidableEq

structure LiveProductionPresentScheduler where
  queued : List LiveProductionQueuedPresent := []
  submitted : Option LiveProductionSubmittedPresent := none
  firstAcquireDelay : Option ℕ := none
  firstAcquireDelayApplied : Bool := false
  rejectFirstPresent : Bool := false
  diagnoseFirstMixedExport : Bool := false
  deriving DecidableEq

namespace LiveProductionPresentScheduler

variable (scheduler : LiveProductionPresentScheduler)

/-- The delay of the next presentation; only the very first one is ever delayed. -/
def acquireDelay : ℕ :=
  if scheduler.firstAcquireDelayApplied then 0 else scheduler.firstAcquireDelay.getD 0

def enqueue (os : Os) (now : Instant) (batch : LiveProductionAuthorityBatch)
    (state : LiveProductionPresentScheduler × LiveDmaBufPresentationRegistry)
    (submission : LiveProductionPresentSubmission) :
    Except RuntimeError (LiveProductionPresentScheduler × LiveDmaBufPresentationRegistry) :=
  match batch.transactions.find? (fun tx => tx.surface = submission.surface) with
  | none => .error .presentWithoutTransaction
  | some tx =>
    match state.2.beginPresent (os submission.transaction) submission.transaction
        submission.buffer submission.acquireFence submission.idleFence with
    | .error error => .error (.registry error)
    | .ok r =>
      let notBefore := now + state.1.acquireDelay
      let timeoutMsec := max 100 (min 2000 tx.timeoutMsec.toNat)
      .ok ({ state.1 with
          queued := state.1.queued ++ [{
            submission := ⟨submission.transaction, submission.buffer,
              submission.acquireFence, submission.idleFence⟩
            surface := submission.surface
            transactions := batch.transactions
            target := tx.targetGeometry
            deadline := notBefore + timeoutMsec * 1000000
            notBefore := notBefore }]
          firstAcquireDelayApplied :=
            state.1.firstAcquireDelayApplied || state.1.firstAcquireDelay.isSome }, r)

def enqueueBatch (os : Os) (now : Instant) (batch : LiveProductionAuthorityBatch)
    (r : LiveDmaBufPresentationRegistry) :
    Except RuntimeError Unit × LiveProductionPresentScheduler × LiveDmaBufPresentationRegistry :=
  Run.tryEach (enqueue os now batch) batch.presentSubmissions (scheduler, r)

def popFront : LiveProductionPresentScheduler := { scheduler with queued := scheduler.queued.tail }

def pollGate (os : Os) (now : Instant) (r : LiveDmaBufPresentationRegistry) :
    Except RuntimeError LiveProductionPresentGate × LiveProductionPresentScheduler ×
      LiveDmaBufPresentationRegistry :=
  if scheduler.submitted.isSome then (.ok .submittedInFlight, scheduler, r)
  else match scheduler.queued with
    | [] => (.ok .idle, scheduler, r)
    | queued :: _ =>
      let transaction := queued.submission.transaction
      if now < queued.notBefore then (.ok .waitingAcquire, scheduler, r)
      else match r.pollAcquireFence (os transaction) transaction with
        | (.error error, r) => (.error (.registry error), scheduler, r)
        | (.ok false, r) =>
          if queued.deadline ≤ now then (.ok (.reject transaction), scheduler.popFront, r)
          else (.ok .waitingAcquire, scheduler, r)
        | (.ok true, r) =>
          if scheduler.rejectFirstPresent then
            (.ok (.reject transaction),
              { scheduler.popFront with rejectFirstPresent := false }, r)
          else (.ok (.ready transaction), scheduler, r)

/-- Enqueuing one submission begins its presentation and appends it to the queue. -/
theorem enqueue_ok {os : Os} {now : Instant} {batch : LiveProductionAuthorityBatch}
    {submission : LiveProductionPresentSubmission}
    {state state' : LiveProductionPresentScheduler × LiveDmaBufPresentationRegistry}
    (h : enqueue os now batch state submission = .ok state') :
    ∃ queued, queued.submission.transaction = submission.transaction ∧
      queued.surface = submission.surface ∧ queued.transactions = batch.transactions ∧
      state'.1.queued = state.1.queued ++ [queued] ∧
      state'.1.submitted = state.1.submitted ∧
      state'.1.diagnoseFirstMixedExport = state.1.diagnoseFirstMixedExport ∧
      state.2.state submission.transaction = none ∧
      ∃ begun, begun ≠ .submitted ∧ ∀ k, state'.2.state k =
        if submission.transaction = k then some begun else state.2.state k := by
  unfold enqueue at h
  split at h
  · cases h
  split at h
  · cases h
  · rename_i r hr
    cases h
    obtain ⟨hnew, hbegun⟩ := LiveDmaBufPresentationRegistry.state_beginPresent hr
    exact ⟨_, rfl, rfl, rfl, rfl, rfl, rfl, hnew, hbegun⟩

/-- Polling a gate only makes waiting presentations ready. -/
def Polled (r r' : LiveDmaBufPresentationRegistry) : Prop :=
  ∀ k, r'.state k = r.state k ∨
    r.state k = some .waitingForAcquireFence ∧ r'.state k = some .ready

variable {scheduler} {scheduler' : LiveProductionPresentScheduler} {os : Os} {now : Instant}
  {r r' : LiveDmaBufPresentationRegistry}

theorem polled_refl (r : LiveDmaBufPresentationRegistry) : Polled r r := fun _ => Or.inl rfl

theorem polled_pollAcquireFence (os : FdOracle) (r : LiveDmaBufPresentationRegistry)
    (transaction : TransactionId) : Polled r (r.pollAcquireFence os transaction).2 := by
  intro k
  rcases LiveDmaBufPresentationRegistry.state_pollAcquireFence k with h | ⟨-, hw, hr⟩
  · exact Or.inl h
  · exact Or.inr ⟨hw, hr⟩

/-- What a gate tells about the queue and what polling it changed. -/
inductive GateOutcome (scheduler : LiveProductionPresentScheduler)
    (r' : LiveDmaBufPresentationRegistry) :
    Except RuntimeError LiveProductionPresentGate → LiveProductionPresentScheduler → Prop
  | failed {error} : GateOutcome scheduler r' (.error error) scheduler
  | idle : GateOutcome scheduler r' (.ok .idle) scheduler
  | inFlight : GateOutcome scheduler r' (.ok .submittedInFlight) scheduler
  | waiting : GateOutcome scheduler r' (.ok .waitingAcquire) scheduler
  | reject {queued rest} (flag : Bool) (front : scheduler.queued = queued :: rest)
      (free : scheduler.submitted = none) :
      GateOutcome scheduler r' (.ok (.reject queued.submission.transaction))
        { scheduler.popFront with rejectFirstPresent := flag }
  | ready {queued rest} (front : scheduler.queued = queued :: rest)
      (free : scheduler.submitted = none)
      (acquired : r'.state queued.submission.transaction = some .ready ∨
        r'.state queued.submission.transaction = some .submitted) :
      GateOutcome scheduler r' (.ok (.ready queued.submission.transaction)) scheduler

theorem pollGate_outcome (scheduler : LiveProductionPresentScheduler) (os : Os) (now : Instant)
    (r : LiveDmaBufPresentationRegistry) :
    GateOutcome scheduler (scheduler.pollGate os now r).2.2 (scheduler.pollGate os now r).1
        (scheduler.pollGate os now r).2.1 ∧
      Polled r (scheduler.pollGate os now r).2.2 := by
  unfold pollGate
  split
  · exact ⟨.inFlight, polled_refl r⟩
  rename_i hfree
  have hfree : scheduler.submitted = none := by simpa using hfree
  split
  · exact ⟨.idle, polled_refl r⟩
  rename_i queued rest hfront
  dsimp only
  split
  · exact ⟨.waiting, polled_refl r⟩
  have hpoll := polled_pollAcquireFence (os queued.submission.transaction) r
    queued.submission.transaction
  have htrue (h : (r.pollAcquireFence (os queued.submission.transaction)
      queued.submission.transaction).1 = .ok true) :=
    LiveDmaBufPresentationRegistry.pollAcquireFence_true h
  split
  · rename_i he
    rw [he] at hpoll
    exact ⟨.failed, hpoll⟩
  · rename_i he
    rw [he] at hpoll
    split
    · exact ⟨.reject scheduler.rejectFirstPresent hfront hfree, hpoll⟩
    · exact ⟨.waiting, hpoll⟩
  · rename_i he
    rw [he] at hpoll htrue
    split
    · exact ⟨.reject false hfront hfree, hpoll⟩
    · exact ⟨.ready hfront hfree (htrue rfl), hpoll⟩

end LiveProductionPresentScheduler
end Sophia.Backend
