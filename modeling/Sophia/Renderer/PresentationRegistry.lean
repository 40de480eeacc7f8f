import Sophia.Lib.Users
import Sophia.Protocol

/-!
Renderer-private DMA-BUF sources, fences and in-flight presentations. Descriptors are opaque
tokens; what the operating system answers about them is an input of each operation.
-/
namespace Sophia.Renderer

open Protocol Std

abbrev OwnedFd := ℕ

/-- The answers of one call: whether a descriptor can be duplicated, what a fence query
returns (`none` is an error), and whether triggering a fence succeeds. -/
structure FdOracle where
  tryClone : OwnedFd → Bool
  query : OwnedFd → Option Bool
  trigger : OwnedFd → Bool

inductive LiveBufferState where
  | waitingForAcquireFence
  | ready
  | submitted
  deriving DecidableEq, Repr

inductive LiveBufferRegistryError where
  | invalidDescriptor (error : DmaBufDescriptorError)
  | planeFdCountMismatch
  | duplicateHandle
  | unknownHandle
  | acquireFencePending
  | alreadySubmitted
  | fenceQueryFailed
  | fdCloneFailed
  | duplicateFence
  | unknownFence
  | sourceInUse
  | duplicatePresentation
  | unknownPresentation
  | capacityExceeded
  | sourceReleasePending
  | fenceReleasePending
  deriving DecidableEq, Repr

structure LiveDmaBufSourceRegistration where
  descriptor : DmaBufDescriptor
  planeFds : List OwnedFd
  references : ℕ
  releasePending : Bool
  deriving DecidableEq

structure LiveFenceSourceRegistration where
  fd : OwnedFd
  references : ℕ
  releasePending : Bool
  deriving DecidableEq

structure LivePresentRegistration where
  source : BufferHandle
  acquireFence : Option FenceHandle
  idleFence : Option FenceHandle
  planeFds : List OwnedFd
  acquireFenceFd : Option OwnedFd
  idleFenceFd : Option OwnedFd
  state : LiveBufferState
  deriving DecidableEq

structure LivePresentationRegistryLimits where
  sources : ℕ := 256
  fences : ℕ := 256
  presentations : ℕ := 256
  deriving DecidableEq

inductive LiveResourceReleaseStatus where
  | unknown
  | deferred
  | released
  deriving DecidableEq, Repr

inductive LiveIdleFenceStatus where
  | notRequested
  | triggered
  | triggerFailed
  deriving DecidableEq, Repr

structure LivePresentationRetirement where
  transaction : TransactionId
  source : BufferSource
  idleFence : LiveIdleFenceStatus
  releasedSource : Bool
  releasedFences : List FenceHandle
  deriving DecidableEq

structure LivePresentationDisconnectReport where
  retiredPresentations : ℕ := 0
  triggeredIdleFences : ℕ := 0
  failedIdleFences : ℕ := 0
  releasedSources : List BufferSource := []
  releasedFences : List FenceHandle := []
  deriving DecidableEq

abbrev Sources := ExtTreeMap BufferHandle LiveDmaBufSourceRegistration
abbrev Fences := ExtTreeMap FenceHandle LiveFenceSourceRegistration
abbrev Presentations := ExtTreeMap TransactionId LivePresentRegistration

/-- The presentations that hold a source. -/
def sourceUsers (presentations : Presentations) (handle : BufferHandle) : ℕ :=
  Users.count presentations fun p => p.source = handle

/-- Each source counts its presentations; an absent one has none. -/
def SourcesCounted (sources : Sources) (presentations : Presentations) : Prop :=
  ∀ handle, sourceUsers presentations handle = (sources[handle]?.map (·.references)).getD 0

structure LiveDmaBufPresentationRegistry where
  sources : Sources
  fences : Fences
  presentations : Presentations
  limits : LivePresentationRegistryLimits
  /-- A presentation's source stays registered until the presentation is finished. -/
  counted : SourcesCounted sources presentations

section Counted

variable {sources : Sources} {presentations : Presentations} {handle : BufferHandle}
  {source : LiveDmaBufSourceRegistration} {transaction : TransactionId}
  {p : LivePresentRegistration}

theorem sourcesCounted_empty : SourcesCounted ∅ ∅ := by
  intro handle
  simp [sourceUsers]

/-- A registered presentation holds a registered source that counts it. -/
theorem SourcesCounted.source_of_presentation (h : SourcesCounted sources presentations)
    (hp : presentations[transaction]? = some p) :
    ∃ source, sources[p.source]? = some source ∧ 0 < source.references := by
  have hpos : 0 < sourceUsers presentations p.source := Users.count_pos hp (by simp)
  rw [h p.source] at hpos
  cases hs : sources[p.source]? with
  | none => simp [hs] at hpos
  | some source => exact ⟨source, rfl, by simpa [hs] using hpos⟩

theorem SourcesCounted.register (h : SourcesCounted sources presentations)
    (hnew : sources[handle]? = none) (hr : source.references = 0) :
    SourcesCounted (sources.insert handle source) presentations := by
  intro k
  rw [h k]
  by_cases hk : handle = k
  · subst hk
    simp [hnew, hr]
  · simp [ExtTreeMap.getElem?_insert, hk]

theorem SourcesCounted.begin (h : SourcesCounted sources presentations)
    (hsrc : sources[p.source]? = some source) (hnew : presentations[transaction]? = none) :
    SourcesCounted (sources.insert p.source { source with references := source.references + 1 })
      (presentations.insert transaction p) := by
  intro k
  have hk := h k
  rw [sourceUsers, Users.count_insert_new hnew]
  rw [sourceUsers] at hk
  rw [hk]
  by_cases hs : p.source = k
  · subst hs
    simp [hsrc]
  · simp [ExtTreeMap.getElem?_insert, hs]

/-- Changing anything but the source of a presentation keeps the counts. -/
theorem SourcesCounted.overwrite {q : LivePresentRegistration}
    (h : SourcesCounted sources presentations) (hp : presentations[transaction]? = some p)
    (hq : q.source = p.source) :
    SourcesCounted sources (presentations.insert transaction q) := by
  intro k
  rw [sourceUsers, Users.count_insert_same hp (by rw [hq])]
  exact h k

/-- Changing anything but the count of a source keeps the counts. -/
theorem SourcesCounted.mark {source' : LiveDmaBufSourceRegistration}
    (h : SourcesCounted sources presentations) (hsrc : sources[handle]? = some source)
    (hr : source'.references = source.references) :
    SourcesCounted (sources.insert handle source') presentations := by
  intro k
  rw [h k]
  by_cases hk : handle = k
  · subst hk
    simp [hsrc, hr]
  · simp [ExtTreeMap.getElem?_insert, hk]

theorem SourcesCounted.release (h : SourcesCounted sources presentations)
    (hsrc : sources[handle]? = some source) (hr : source.references = 0) :
    SourcesCounted (sources.erase handle) presentations := by
  intro k
  rw [h k]
  by_cases hk : handle = k
  · subst hk
    simp [hsrc, hr]
  · simp [ExtTreeMap.getElem?_erase, hk]

theorem SourcesCounted.finish (h : SourcesCounted sources presentations)
    (hp : presentations[transaction]? = some p) (hsrc : sources[p.source]? = some source) :
    SourcesCounted (sources.insert p.source { source with references := source.references - 1 })
      (presentations.erase transaction) := by
  intro k
  have hk := h k
  rw [sourceUsers, Users.count_erase hp] at hk
  rw [sourceUsers]
  by_cases hs : p.source = k
  · subst hs
    simp [hsrc] at hk ⊢
    omega
  · simp [ExtTreeMap.getElem?_insert, hs] at hk ⊢
    exact hk

end Counted

namespace LiveDmaBufPresentationRegistry

variable (r : LiveDmaBufPresentationRegistry)

def withLimits (limits : LivePresentationRegistryLimits) : LiveDmaBufPresentationRegistry :=
  ⟨∅, ∅, ∅, limits, sourcesCounted_empty⟩

def registerSource (descriptor : DmaBufDescriptor) (planeFds : List OwnedFd) :
    Except LiveBufferRegistryError LiveDmaBufPresentationRegistry :=
  match descriptor.validate with
  | .error error => .error (.invalidDescriptor error)
  | .ok () =>
    if planeFds.length ≠ descriptor.planeCount.toNat then .error .planeFdCountMismatch
    else match hnew : r.sources[descriptor.handle]? with
      | some _ => .error .duplicateHandle
      | none =>
        if r.limits.sources ≤ r.sources.size then .error .capacityExceeded
        else .ok { r with
          sources := r.sources.insert descriptor.handle ⟨descriptor, planeFds, 0, false⟩
          counted := r.counted.register hnew rfl }

def registerFence (fence : FenceHandle) (fd : OwnedFd) :
    Except LiveBufferRegistryError LiveDmaBufPresentationRegistry :=
  if r.fences.contains fence then .error .duplicateFence
  else if r.limits.fences ≤ r.fences.size then .error .capacityExceeded
  else .ok { r with fences := r.fences.insert fence ⟨fd, 0, false⟩ }

/-- Duplicate the descriptor of a fence a presentation names, if it names one. -/
def cloneFence (os : FdOracle) : Option FenceHandle →
    Except LiveBufferRegistryError (Option OwnedFd)
  | none => .ok none
  | some fence => match r.fences[fence]? with
    | none => .error .unknownFence
    | some registration =>
      if registration.releasePending then .error .fenceReleasePending
      else if !os.tryClone registration.fd then .error .fdCloneFailed
      else .ok (some registration.fd)

def acquireReady (os : FdOracle) : Option OwnedFd → Except LiveBufferRegistryError Bool
  | none => .ok true
  | some fd => match os.query fd with
    | none => .error .fenceQueryFailed
    | some ready => .ok ready

/-- Add one reference to each fence of the list that is registered. -/
def retainFences (fences : Fences) (handles : List FenceHandle) : Fences :=
  handles.foldl (fun fences fence =>
    match fences[fence]? with
    | some f => fences.insert fence { f with references := f.references + 1 }
    | none => fences) fences

def beginPresent (os : FdOracle) (transaction : TransactionId) (handle : BufferHandle)
    (acquireFence idleFence : Option FenceHandle) :
    Except LiveBufferRegistryError LiveDmaBufPresentationRegistry :=
  match hnew : r.presentations[transaction]? with
  | some _ => .error .duplicatePresentation
  | none =>
    if r.limits.presentations ≤ r.presentations.size then .error .capacityExceeded
    else match hsrc : r.sources[handle]? with
      | none => .error .unknownHandle
      | some source =>
        if source.releasePending then .error .sourceReleasePending
        else if !source.planeFds.all os.tryClone then .error .fdCloneFailed
        else match r.cloneFence os acquireFence with
          | .error error => .error error
          | .ok acquireFd => match r.cloneFence os idleFence with
            | .error error => .error error
            | .ok idleFd => match acquireReady os acquireFd with
              | .error error => .error error
              | .ok ready => .ok { r with
                  sources := r.sources.insert handle
                    { source with references := source.references + 1 }
                  fences := retainFences r.fences ([acquireFence, idleFence].filterMap id)
                  presentations := r.presentations.insert transaction
                    { source := handle
                      acquireFence := acquireFence
                      idleFence := idleFence
                      planeFds := source.planeFds
                      acquireFenceFd := if ready then none else acquireFd
                      idleFenceFd := idleFd
                      state := if ready then .ready else .waitingForAcquireFence }
                  counted := r.counted.begin hsrc hnew }

/-- Replace the record of a registered presentation without changing its source. -/
def overwrite (transaction : TransactionId) (p q : LivePresentRegistration)
    (hp : r.presentations[transaction]? = some p) (hq : q.source = p.source) :
    LiveDmaBufPresentationRegistry :=
  { r with
    presentations := r.presentations.insert transaction q
    counted := r.counted.overwrite hp hq }

def pollAcquireFence (os : FdOracle) (transaction : TransactionId) :
    Except LiveBufferRegistryError Bool × LiveDmaBufPresentationRegistry :=
  match hp : r.presentations[transaction]? with
  | none => (.error .unknownPresentation, r)
  | some p =>
    if p.state ≠ .waitingForAcquireFence then (.ok true, r)
    else match p.acquireFenceFd with
      | none => (.error .fenceQueryFailed, r)
      | some fd => match os.query fd with
        | none => (.error .fenceQueryFailed, r)
        | some false => (.ok false, r)
        | some true =>
          (.ok true, r.overwrite transaction p { p with acquireFenceFd := none, state := .ready }
            hp rfl)

def submit (transaction : TransactionId) :
    Except LiveBufferRegistryError LiveDmaBufPresentationRegistry :=
  match hp : r.presentations[transaction]? with
  | none => .error .unknownPresentation
  | some p => match p.state with
    | .waitingForAcquireFence => .error .acquireFencePending
    | .ready => .ok (r.overwrite transaction p { p with state := .submitted } hp rfl)
    | .submitted => .error .alreadySubmitted

/-- Drop one reference from each fence; a fence whose release was deferred goes with the last. -/
def releaseFences (fences : Fences) (handles : List FenceHandle) : List FenceHandle × Fences :=
  handles.foldl (fun (released, fences) fence =>
    match fences[fence]? with
    | none => (released, fences)
    | some f =>
      if f.references - 1 = 0 ∧ f.releasePending then
        (released ++ [fence], fences.erase fence)
      else (released, fences.insert fence { f with references := f.references - 1 }))
    ([], fences)

/-- The source table after a presentation that holds `source` is gone. -/
def releaseSource (sources : Sources) (handle : BufferHandle)
    (source : LiveDmaBufSourceRegistration) : Sources :=
  let sources := sources.insert handle { source with references := source.references - 1 }
  if source.references - 1 = 0 ∧ source.releasePending then sources.erase handle else sources

theorem counted_releaseSource {sources : Sources} {presentations : Presentations}
    {transaction : TransactionId} {p : LivePresentRegistration}
    {source : LiveDmaBufSourceRegistration} (h : SourcesCounted sources presentations)
    (hp : presentations[transaction]? = some p) (hsrc : sources[p.source]? = some source) :
    SourcesCounted (releaseSource sources p.source source) (presentations.erase transaction) := by
  have hfin := h.finish hp hsrc
  unfold releaseSource
  dsimp only
  split
  · rename_i hz
    exact hfin.release (ExtTreeMap.getElem?_insert_self) hz.1
  · exact hfin

/-- The source a registered presentation holds; `counted` rules out that it is missing. -/
def heldSource (transaction : TransactionId) (p : LivePresentRegistration)
    (hp : r.presentations[transaction]? = some p) : LiveDmaBufSourceRegistration :=
  r.sources[p.source]?.get (by
    obtain ⟨source, hs, -⟩ := r.counted.source_of_presentation hp
    simp [hs])

theorem heldSource_eq (transaction : TransactionId) (p : LivePresentRegistration)
    (hp : r.presentations[transaction]? = some p) :
    r.sources[p.source]? = some (r.heldSource transaction p hp) := by
  simp [heldSource]

def finishPresent (os : FdOracle) (transaction : TransactionId) (p : LivePresentRegistration)
    (hp : r.presentations[transaction]? = some p) :
    LivePresentationRetirement × LiveDmaBufPresentationRegistry :=
  let source := r.heldSource transaction p hp
  let released := releaseFences r.fences ([p.acquireFence, p.idleFence].filterMap id)
  ({ transaction := transaction
     source := .dmaBuf p.source.raw
     idleFence := match p.idleFenceFd with
       | none => .notRequested
       | some fd => if os.trigger fd then .triggered else .triggerFailed
     releasedSource := source.references - 1 = 0 ∧ source.releasePending
     releasedFences := released.1 },
   { r with
     sources := releaseSource r.sources p.source source
     fences := released.2
     presentations := r.presentations.erase transaction
     counted := counted_releaseSource r.counted hp (r.heldSource_eq transaction p hp) })

def reject (os : FdOracle) (transaction : TransactionId) :
    Option LivePresentationRetirement × LiveDmaBufPresentationRegistry :=
  match hp : r.presentations[transaction]? with
  | none => (none, r)
  | some p =>
    let (retirement, r') := r.finishPresent os transaction p hp
    (some retirement, r')

def state (transaction : TransactionId) : Option LiveBufferState :=
  r.presentations[transaction]?.map (·.state)

def retirePageFlip (os : FdOracle) (transaction : TransactionId) :
    Option LivePresentationRetirement × LiveDmaBufPresentationRegistry :=
  if r.state transaction = some .submitted then r.reject os transaction else (none, r)

def removeSource (handle : BufferHandle) :
    LiveResourceReleaseStatus × LiveDmaBufPresentationRegistry :=
  match hsrc : r.sources[handle]? with
  | none => (.unknown, r)
  | some source =>
    if hr : 0 < source.references then
      (.deferred, { r with
        sources := r.sources.insert handle { source with releasePending := true }
        counted := r.counted.mark hsrc rfl })
    else
      (.released, { r with
        sources := r.sources.erase handle
        counted := r.counted.release hsrc (Nat.eq_zero_of_not_pos hr) })

def removeFence (fence : FenceHandle) :
    LiveResourceReleaseStatus × LiveDmaBufPresentationRegistry :=
  match r.fences[fence]? with
  | none => (.unknown, r)
  | some registration =>
    if 0 < registration.references then
      (.deferred, { r with
        fences := r.fences.insert fence { registration with releasePending := true } })
    else (.released, { r with fences := r.fences.erase fence })

/-- The disconnect report after one more retirement. -/
def addRetirement (report : LivePresentationDisconnectReport)
    (retirement : LivePresentationRetirement) : LivePresentationDisconnectReport where
  retiredPresentations := report.retiredPresentations + 1
  triggeredIdleFences :=
    report.triggeredIdleFences + if retirement.idleFence = .triggered then 1 else 0
  failedIdleFences :=
    report.failedIdleFences + if retirement.idleFence = .triggerFailed then 1 else 0
  releasedSources :=
    report.releasedSources ++ if retirement.releasedSource then [retirement.source] else []
  releasedFences := report.releasedFences ++ retirement.releasedFences

-- The keys are read off the map, so each of them is still registered at its turn.
def finishAll (os : TransactionId → FdOracle) : List TransactionId →
    LivePresentationDisconnectReport → LiveDmaBufPresentationRegistry →
    LivePresentationDisconnectReport × LiveDmaBufPresentationRegistry
  | [], report, r => (report, r)
  | transaction :: rest, report, r =>
    match r.reject (os transaction) transaction with
    | (none, r) => finishAll os rest report r
    | (some retirement, r) => finishAll os rest (addRetirement report retirement) r

theorem reject_of_none {os : FdOracle} {transaction : TransactionId}
    (h : r.presentations[transaction]? = none) : r.reject os transaction = (none, r) := by
  unfold reject
  split
  · rfl
  · simp_all

theorem reject_of_some (os : FdOracle) {transaction : TransactionId} {p : LivePresentRegistration}
    (h : r.presentations[transaction]? = some p) :
    r.reject os transaction =
      (some (r.finishPresent os transaction p h).1, (r.finishPresent os transaction p h).2) := by
  unfold reject
  split
  · simp_all
  · rename_i q hq
    obtain rfl : p = q := Option.some.inj (h.symm.trans hq)
    rfl

theorem presentations_reject (os : FdOracle) (transaction k : TransactionId) :
    (r.reject os transaction).2.presentations[k]? =
      if transaction = k then none else r.presentations[k]? := by
  cases h : r.presentations[transaction]? with
  | none =>
    rw [reject_of_none r h]
    by_cases hk : transaction = k
    · subst hk
      simp [h]
    · simp [hk]
  | some p =>
    rw [reject_of_some r os h]
    simp only [finishPresent, ExtTreeMap.getElem?_erase, LawfulEqOrd.compare_eq_iff_eq]

theorem presentations_finishAll (os : TransactionId → FdOracle) (keys : List TransactionId)
    (report : LivePresentationDisconnectReport) (r : LiveDmaBufPresentationRegistry)
    (k : TransactionId) :
    (finishAll os keys report r).2.presentations[k]? =
      if k ∈ keys then none else r.presentations[k]? := by
  induction keys generalizing report r with
  | nil => simp [finishAll]
  | cons transaction rest ih =>
    have hr := presentations_reject r (os transaction) transaction k
    rw [finishAll]
    split <;> rename_i he <;> rw [he] at hr <;> rw [ih, hr] <;>
      by_cases hk : k ∈ rest <;> by_cases ht : transaction = k <;> simp_all [eq_comm]

theorem presentations_finishAll_keys (os : TransactionId → FdOracle) :
    (finishAll os r.presentations.keys {} r).2.presentations = ∅ := by
  apply ExtTreeMap.ext_getElem?
  intro k
  rw [presentations_finishAll]
  by_cases hk : k ∈ r.presentations.keys
  · simp [hk]
  · have hn : k ∉ r.presentations := fun h => hk (ExtTreeMap.mem_keys.mpr h)
    simp [hn]

def disconnect (os : TransactionId → FdOracle) :
    LivePresentationDisconnectReport × LiveDmaBufPresentationRegistry :=
  let finished := finishAll os r.presentations.keys {} r
  ({ finished.1 with
     releasedSources :=
       finished.1.releasedSources ++ finished.2.sources.keys.map (fun h => .dmaBuf h.raw)
     releasedFences := finished.1.releasedFences ++ finished.2.fences.keys },
   { finished.2 with
     sources := ∅
     fences := ∅
     counted := by
       rw [r.presentations_finishAll_keys os]
       exact sourcesCounted_empty })

theorem disconnect_empty (os : TransactionId → FdOracle) :
    (r.disconnect os).2.presentations = ∅ ∧ (r.disconnect os).2.sources = ∅ ∧
      (r.disconnect os).2.fences = ∅ :=
  ⟨r.presentations_finishAll_keys os, rfl, rfl⟩

section State

variable {r} {r' : LiveDmaBufPresentationRegistry} {os : FdOracle} {transaction k : TransactionId}

theorem state_overwrite {p q : LivePresentRegistration}
    (hp : r.presentations[transaction]? = some p) (hq : q.source = p.source) :
    (r.overwrite transaction p q hp hq).state k =
      if transaction = k then some q.state else r.state k := by
  by_cases hk : transaction = k <;> simp [state, overwrite, ExtTreeMap.getElem?_insert, hk]

theorem state_reject (r : LiveDmaBufPresentationRegistry) (os : FdOracle)
    (transaction k : TransactionId) :
    (r.reject os transaction).2.state k = if transaction = k then none else r.state k := by
  simp only [state, presentations_reject]
  split <;> rfl

theorem reject_isSome_iff (r : LiveDmaBufPresentationRegistry) (os : FdOracle)
    (transaction : TransactionId) :
    (r.reject os transaction).1.isSome ↔ (r.state transaction).isSome := by
  cases h : r.presentations[transaction]? with
  | none => simp [reject_of_none r h, state, h]
  | some p => simp [reject_of_some r os h, state, h]

/-- A presentation begins once, waiting or ready, and disturbs no other. -/
theorem state_beginPresent {handle : BufferHandle} {acquireFence idleFence : Option FenceHandle}
    (h : r.beginPresent os transaction handle acquireFence idleFence = .ok r') :
    r.state transaction = none ∧ ∃ begun, begun ≠ .submitted ∧
      ∀ k, r'.state k = if transaction = k then some begun else r.state k := by
  unfold beginPresent at h
  split at h
  · cases h
  rename_i hnew
  split at h
  · cases h
  split at h
  · cases h
  split at h
  · cases h
  split at h
  · cases h
  split at h
  · cases h
  split at h
  · cases h
  split at h
  · cases h
  rename_i ready _
  cases h
  refine ⟨by simp [state, hnew], if ready then .ready else .waitingForAcquireFence, ?_, ?_⟩
  · cases ready <;> simp
  · intro k
    by_cases hk : transaction = k <;> simp [state, ExtTreeMap.getElem?_insert, hk]

/-- Polling touches only the polled presentation, and only makes a waiting one ready. -/
theorem state_pollAcquireFence (k : TransactionId) :
    (r.pollAcquireFence os transaction).2.state k = r.state k ∨
      transaction = k ∧ r.state k = some .waitingForAcquireFence ∧
        (r.pollAcquireFence os transaction).2.state k = some .ready := by
  unfold pollAcquireFence
  split
  · exact Or.inl rfl
  rename_i p hp
  split
  · exact Or.inl rfl
  rename_i hw
  split
  · exact Or.inl rfl
  split
  · exact Or.inl rfl
  · exact Or.inl rfl
  · by_cases hk : transaction = k
    · subst hk
      refine Or.inr ⟨rfl, ?_, ?_⟩
      · simpa [state, hp] using hw
      · simp [state_overwrite]
    · exact Or.inl (by simp [state_overwrite, hk])

/-- A successful poll leaves the presentation registered and past its acquire fence. -/
theorem pollAcquireFence_true (h : (r.pollAcquireFence os transaction).1 = .ok true) :
    (r.pollAcquireFence os transaction).2.state transaction = some .ready ∨
      (r.pollAcquireFence os transaction).2.state transaction = some .submitted := by
  unfold pollAcquireFence at h ⊢
  split at h
  · cases h
  rename_i p hp
  split at h
  · rename_i hw
    rw [if_pos hw]
    cases hs : p.state with
    | waitingForAcquireFence => exact absurd hs hw
    | ready => exact Or.inl (by simp [state, hp, hs])
    | submitted => exact Or.inr (by simp [state, hp, hs])
  rename_i hw
  rw [if_neg hw]
  split at h
  · cases h
  split at h
  · cases h
  · cases h
  · rename_i fd hfd _ hq
    left
    simp [state_overwrite]

theorem submit_of_ready (h : r.state transaction = some .ready) :
    ∃ r', r.submit transaction = .ok r' ∧
      ∀ k, r'.state k = if transaction = k then some .submitted else r.state k := by
  unfold submit
  split
  · simp_all [state]
  · rename_i p hp
    have hs : p.state = .ready := by simpa [state, hp] using h
    rw [hs]
    exact ⟨_, rfl, fun k => by simp [state_overwrite]⟩

theorem state_retirePageFlip_of_submitted (os : FdOracle)
    (h : r.state transaction = some .submitted) :
    (r.retirePageFlip os transaction).1.isSome ∧
      ∀ k, (r.retirePageFlip os transaction).2.state k =
        if transaction = k then none else r.state k := by
  rw [retirePageFlip, if_pos h]
  exact ⟨(reject_isSome_iff r os transaction).mpr (by simp [h]), state_reject r os transaction⟩

@[simp] theorem presentations_registerSource {descriptor : DmaBufDescriptor}
    {planeFds : List OwnedFd} (h : r.registerSource descriptor planeFds = .ok r') :
    r'.presentations = r.presentations := by
  unfold registerSource at h
  split at h
  · cases h
  split at h
  · cases h
  split at h
  · cases h
  split at h <;> cases h
  rfl

@[simp] theorem presentations_registerFence {fence : FenceHandle} {fd : OwnedFd}
    (h : r.registerFence fence fd = .ok r') : r'.presentations = r.presentations := by
  unfold registerFence at h
  split at h
  · cases h
  split at h <;> cases h
  rfl

@[simp] theorem presentations_removeSource (handle : BufferHandle) :
    (r.removeSource handle).2.presentations = r.presentations := by
  unfold removeSource
  split
  · rfl
  split <;> rfl

@[simp] theorem presentations_removeFence (fence : FenceHandle) :
    (r.removeFence fence).2.presentations = r.presentations := by
  unfold removeFence
  split
  · rfl
  split <;> rfl

end State
end LiveDmaBufPresentationRegistry
end Sophia.Renderer
