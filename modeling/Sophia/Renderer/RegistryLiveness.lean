import Sophia.Renderer.RegistryRuns

/-! What stays presentable in the registry, and when its operations succeed. -/
namespace Sophia.Renderer

open Protocol Std

namespace LiveDmaBufPresentationRegistry

/-- The source is registered and was not asked to go. -/
def SourceLive (registry : LiveDmaBufPresentationRegistry) (handle : BufferHandle) : Prop :=
  Live LiveDmaBufSourceRegistration.releasePending registry.sources handle

def FenceLive (registry : LiveDmaBufPresentationRegistry) (fence : FenceHandle) : Prop :=
  Live LiveFenceSourceRegistration.releasePending registry.fences fence

/-- The operation keeps every live source and fence but the named ones. -/
structure Spares (before after : LiveDmaBufPresentationRegistry) (buffers : List BufferHandle)
    (fences : List FenceHandle) : Prop where
  sources : ∀ handle, handle ∉ buffers → before.SourceLive handle → after.SourceLive handle
  fences : ∀ fence, fence ∉ fences → before.FenceLive fence → after.FenceLive fence

variable {registry before after last : LiveDmaBufPresentationRegistry} {os : FdOracle}
  {transaction : TransactionId} {handle : BufferHandle} {fence : FenceHandle}
  {buffers moreBuffers : List BufferHandle} {fences moreFences : List FenceHandle}

theorem Spares.refl (registry : LiveDmaBufPresentationRegistry) : Spares registry registry [] [] :=
  ⟨fun _ _ h => h, fun _ _ h => h⟩

theorem Spares.trans (h : Spares before after buffers fences)
    (h' : Spares after last moreBuffers moreFences) :
    Spares before last (buffers ++ moreBuffers) (fences ++ moreFences) where
  sources handle hmem hlive := by
    rw [List.mem_append, not_or] at hmem
    exact h'.sources handle hmem.2 (h.sources handle hmem.1 hlive)
  fences fence hmem hlive := by
    rw [List.mem_append, not_or] at hmem
    exact h'.fences fence hmem.2 (h.fences fence hmem.1 hlive)

section Succeeds

theorem registerSource_succeeds {descriptor : DmaBufDescriptor} {planeFds : List OwnedFd}
    (hvalid : descriptor.validate = .ok ()) (hplanes : planeFds.length = descriptor.planeCount.toNat)
    (hnew : descriptor.handle ∉ registry.sources)
    (hroom : registry.sources.size < registry.limits.sources) :
    ∃ after, registry.registerSource descriptor planeFds = .ok after ∧
      after.fences = registry.fences ∧ after.sources =
        registry.sources.insert descriptor.handle ⟨descriptor, planeFds, 0, false⟩ := by
  have hnone : registry.sources[descriptor.handle]? = none := ExtTreeMap.getElem?_eq_none hnew
  unfold registerSource
  rw [hvalid]
  dsimp only
  rw [if_neg (not_not.mpr hplanes)]
  split
  · rename_i source hsource
    rw [hnone] at hsource
    cases hsource
  · rw [if_neg (Nat.not_le.mpr hroom)]
    exact ⟨_, rfl, rfl, rfl⟩

theorem registerFence_succeeds (fd : OwnedFd) (hnew : fence ∉ registry.fences)
    (hroom : registry.fences.size < registry.limits.fences) :
    ∃ after, registry.registerFence fence fd = .ok after ∧ after.sources = registry.sources ∧
      after.fences = registry.fences.insert fence ⟨fd, 0, false⟩ := by
  unfold registerFence
  rw [if_neg fun h => hnew (ExtTreeMap.mem_iff_contains.mpr h), if_neg (Nat.not_le.mpr hroom)]
  exact ⟨_, rfl, rfl, rfl⟩

/-- A fence that is live can be duplicated. -/
theorem cloneFence_succeeds {named : Option FenceHandle} (hclone : ∀ fd, os.tryClone fd = true)
    (hlive : ∀ fence ∈ named, registry.FenceLive fence) :
    registry.cloneFence os named = .ok (named.bind fun fence =>
      (registry.fences[fence]?).map (·.fd)) := by
  cases named with
  | none => rfl
  | some fence =>
    obtain ⟨registration, hget, hpending⟩ := hlive fence rfl
    simp [cloneFence, hget, hpending, hclone]

/-- The fence that a presentation waits for answers when it is asked. -/
def Answers (registry : LiveDmaBufPresentationRegistry) (os : FdOracle)
    (acquire : Option FenceHandle) : Prop :=
  ∀ fence ∈ acquire, ∀ registration ∈ registry.fences[fence]?, (os.query registration.fd).isSome

theorem beginPresent_succeeds {acquire idle : Option FenceHandle}
    (hclone : ∀ fd, os.tryClone fd = true) (hnew : transaction ∉ registry.presentations)
    (hroom : registry.presentations.size < registry.limits.presentations)
    (hsource : registry.SourceLive handle) (hacquire : ∀ fence ∈ acquire, registry.FenceLive fence)
    (hidle : ∀ fence ∈ idle, registry.FenceLive fence) (hanswers : registry.Answers os acquire) :
    ∃ after, registry.beginPresent os transaction handle acquire idle = .ok after := by
  have hnone : registry.presentations[transaction]? = none := ExtTreeMap.getElem?_eq_none hnew
  obtain ⟨source, hget, hpending⟩ := hsource
  have hready : ∃ ready, acquireReady os (acquire.bind fun fence =>
      (registry.fences[fence]?).map (·.fd)) = .ok ready := by
    cases acquire with
    | none => exact ⟨true, rfl⟩
    | some fence =>
      obtain ⟨registration, hfence, -⟩ := hacquire fence rfl
      obtain ⟨ready, hready⟩ := Option.isSome_iff_exists.mp (hanswers fence rfl registration hfence)
      exact ⟨ready, by simp [acquireReady, hfence, hready]⟩
  obtain ⟨ready, hready⟩ := hready
  unfold beginPresent
  split
  · rename_i p hp
    rw [hnone] at hp
    cases hp
  rw [if_neg (Nat.not_le.mpr hroom)]
  split
  · rename_i hno
    rw [hget] at hno
    cases hno
  rename_i found hfound
  obtain rfl : found = source := Option.some.inj (hfound.symm.trans hget)
  have hstays : ¬ found.releasePending = true := by simp [hpending]
  have hplanes : ¬ (!found.planeFds.all os.tryClone) = true := by simp [hclone]
  rw [if_neg hstays, if_neg hplanes, cloneFence_succeeds hclone hacquire,
    cloneFence_succeeds hclone hidle]
  dsimp only
  rw [hready]
  exact ⟨_, rfl⟩

end Succeeds

section Spares

theorem spares_registerSource {descriptor : DmaBufDescriptor} {planeFds : List OwnedFd}
    (h : before.registerSource descriptor planeFds = .ok after) : Spares before after [] [] := by
  unfold registerSource at h
  split at h
  · cases h
  split at h
  · cases h
  split at h
  · cases h
  split at h
  · cases h
  · cases h
    exact ⟨fun _ _ hlive => hlive.insert fun _ => rfl, fun _ _ hlive => hlive⟩

theorem spares_registerFence {fd : OwnedFd} (h : before.registerFence fence fd = .ok after) :
    Spares before after [] [] := by
  unfold registerFence at h
  split at h
  · cases h
  split at h
  · cases h
  · cases h
    exact ⟨fun _ _ hlive => hlive, fun _ _ hlive => hlive.insert fun _ => rfl⟩

theorem live_retainFences {table : Fences} (handles : List FenceHandle)
    (h : Live LiveFenceSourceRegistration.releasePending table fence) :
    Live LiveFenceSourceRegistration.releasePending (retainFences table handles) fence := by
  refine List.foldlRecOn
    (motive := fun table => Live LiveFenceSourceRegistration.releasePending table fence)
    _ _ h fun table hlive other _ => ?_
  split
  · rename_i registration hget
    refine hlive.insert ?_
    rintro ⟨found, hfound, hpending⟩
    rw [hget] at hfound
    cases hfound
    exact hpending
  · exact hlive

theorem live_releaseFences {table : Fences} (handles : List FenceHandle)
    (h : Live LiveFenceSourceRegistration.releasePending table fence) :
    Live LiveFenceSourceRegistration.releasePending (releaseFences table handles).2 fence := by
  refine List.foldlRecOn
    (motive := fun (state : List FenceHandle × Fences) =>
      Live LiveFenceSourceRegistration.releasePending state.2 fence)
    _ _ h fun state hlive other _ => ?_
  obtain ⟨released, table⟩ := state
  dsimp only at hlive ⊢
  split
  · exact hlive
  rename_i registration hget
  split
  · rename_i hgone
    refine hlive.erase ?_
    rintro rfl
    obtain ⟨found, hfound, hpending⟩ := hlive
    rw [hget] at hfound
    cases hfound
    simp [hgone.2] at hpending
  · refine hlive.insert ?_
    rintro ⟨found, hfound, hpending⟩
    rw [hget] at hfound
    cases hfound
    exact hpending

theorem live_releaseSource {table : Sources} {source : LiveDmaBufSourceRegistration}
    {other : BufferHandle} (hget : table[other]? = some source)
    (h : Live LiveDmaBufSourceRegistration.releasePending table handle) :
    Live LiveDmaBufSourceRegistration.releasePending (releaseSource table other source) handle := by
  have hlive : Live LiveDmaBufSourceRegistration.releasePending
      (table.insert other { source with references := source.references - 1 }) handle := by
    refine h.insert ?_
    rintro ⟨found, hfound, hpending⟩
    rw [hget] at hfound
    cases hfound
    exact hpending
  unfold releaseSource
  dsimp only
  split
  · rename_i hgone
    refine hlive.erase ?_
    rintro rfl
    obtain ⟨found, hfound, hpending⟩ := h
    rw [hget] at hfound
    cases hfound
    simp [hgone.2] at hpending
  · exact hlive

theorem spares_beginPresent {acquire idle : Option FenceHandle}
    (h : before.beginPresent os transaction handle acquire idle = .ok after) :
    Spares before after [] [] := by
  obtain ⟨-, -, source, acquireFd, idleFd, ready, p, hsource, -, -, -, -, -, -, -, -, hsources,
    hfences, -⟩ := beginPresent_eq_ok h
  refine ⟨fun other _ hlive => ?_, fun other _ hlive => ?_⟩
  · unfold SourceLive
    rw [hsources]
    refine hlive.insert ?_
    rintro ⟨found, hfound, hpending⟩
    rw [hsource] at hfound
    cases hfound
    exact hpending
  · unfold FenceLive
    rw [hfences]
    exact live_retainFences _ hlive

theorem spares_reject (os : FdOracle) (registry : LiveDmaBufPresentationRegistry)
    (transaction : TransactionId) : Spares registry (registry.reject os transaction).2 [] [] := by
  rcases reject_cases registry os transaction with hnone | ⟨p, hp, hsome⟩
  · rw [hnone]
    exact .refl registry
  · rw [hsome]
    refine ⟨fun handle _ hlive => ?_, fun fence _ hlive => live_releaseFences _ hlive⟩
    exact live_releaseSource (registry.heldSource_eq transaction p hp) hlive

theorem spares_removeSource (registry : LiveDmaBufPresentationRegistry) (handle : BufferHandle) :
    Spares registry (registry.removeSource handle).2 [handle] [] := by
  unfold removeSource
  split
  · exact ⟨fun _ _ hlive => hlive, fun _ _ hlive => hlive⟩
  split
  · exact ⟨fun _ hmem hlive => hlive.insert_of_ne (List.ne_of_not_mem_cons hmem),
      fun _ _ hlive => hlive⟩
  · exact ⟨fun _ hmem hlive => hlive.erase (List.ne_of_not_mem_cons hmem), fun _ _ hlive => hlive⟩

theorem spares_removeFence (registry : LiveDmaBufPresentationRegistry) (fence : FenceHandle) :
    Spares registry (registry.removeFence fence).2 [] [fence] := by
  unfold removeFence
  split
  · exact ⟨fun _ _ hlive => hlive, fun _ _ hlive => hlive⟩
  split
  · exact ⟨fun _ _ hlive => hlive,
      fun _ hmem hlive => hlive.insert_of_ne (List.ne_of_not_mem_cons hmem)⟩
  · exact ⟨fun _ _ hlive => hlive, fun _ hmem hlive => hlive.erase (List.ne_of_not_mem_cons hmem)⟩

end Spares

/-- Nothing enters the registry, and only the named sources and fences may stop being live. -/
structure Shrinks (before after : LiveDmaBufPresentationRegistry) (buffers : List BufferHandle)
    (fences : List FenceHandle) : Prop extends Spares before after buffers fences where
  oldSources : ∀ handle ∈ after.sources, handle ∈ before.sources
  oldFences : ∀ fence ∈ after.fences, fence ∈ before.fences
  oldPresentations : ∀ transaction ∈ after.presentations, transaction ∈ before.presentations
  kept : after.Kept

section Shrinks

variable {released : List BufferHandle} {releasedFences : List FenceHandle}
  {ended : List TransactionId}

theorem Shrinks.of_effect (hspares : Spares before after buffers fences)
    (h : Effect before after { released, releasedFences, ended }) :
    Shrinks before after buffers fences where
  toSpares := hspares
  oldSources _ hmem := (h.sources.of_mem hmem).resolve_right List.not_mem_nil
  oldFences _ hmem := (h.fences.of_mem hmem).resolve_right List.not_mem_nil
  oldPresentations _ hmem := (h.presentations.of_mem hmem).resolve_right List.not_mem_nil
  kept := h.kept

theorem Shrinks.refl (hkept : registry.Kept) : Shrinks registry registry [] [] :=
  .of_effect (.refl registry) (.refl hkept)

theorem Shrinks.trans (h : Shrinks before after buffers fences)
    (h' : Shrinks after last moreBuffers moreFences) :
    Shrinks before last (buffers ++ moreBuffers) (fences ++ moreFences) where
  toSpares := h.toSpares.trans h'.toSpares
  oldSources handle hmem := h.oldSources handle (h'.oldSources handle hmem)
  oldFences fence hmem := h.oldFences fence (h'.oldFences fence hmem)
  oldPresentations transaction hmem :=
    h.oldPresentations transaction (h'.oldPresentations transaction hmem)
  kept := h'.kept

theorem shrinks_removeSource (hkept : registry.Kept) (handle : BufferHandle) :
    Shrinks registry (registry.removeSource handle).2 [handle] [] :=
  .of_effect (spares_removeSource registry handle) (effect_removeSource hkept)

theorem shrinks_removeFence (hkept : registry.Kept) (fence : FenceHandle) :
    Shrinks registry (registry.removeFence fence).2 [] [fence] :=
  .of_effect (spares_removeFence registry fence) (effect_removeFence hkept)

theorem shrinks_removeSources (handles : List BufferHandle) (hkept : registry.Kept) :
    Shrinks registry (handles.foldl (fun registry handle => (registry.removeSource handle).2)
      registry) handles [] := by
  induction handles generalizing registry with
  | nil => exact .refl hkept
  | cons handle handles ih =>
    have hone := shrinks_removeSource hkept handle
    exact hone.trans (ih hone.kept)

theorem shrinks_removeFences (handles : List FenceHandle) (hkept : registry.Kept) :
    Shrinks registry (handles.foldl (fun registry fence => (registry.removeFence fence).2)
      registry) [] handles := by
  induction handles generalizing registry with
  | nil => exact .refl hkept
  | cons fence handles ih =>
    have hone := shrinks_removeFence hkept fence
    exact hone.trans (ih hone.kept)

end Shrinks
end LiveDmaBufPresentationRegistry

open LiveDmaBufPresentationRegistry

/-- The calls the backend makes for presentations it was handed. -/
def RegistryOp.retiring : RegistryOp → Bool
  | .pollAcquireFence .. | .submit _ | .retirePageFlip .. | .reject .. => true
  | _ => false

theorem shrinks_retiring {registry : LiveDmaBufPresentationRegistry} {op : RegistryOp}
    (hkept : registry.Kept) (h : op.retiring) : Shrinks registry (op.call registry).2 [] [] := by
  have hreject (os : FdOracle) (transaction : TransactionId) :
      Shrinks registry (registry.reject os transaction).2 [] [] := by
    rcases reject_cases registry os transaction with hnone | ⟨p, hp, hsome⟩
    · rw [hnone]
      exact .refl hkept
    · have hspares := spares_reject os registry transaction
      have hfinished : Effect registry (registry.finishPresent os transaction p hp).2 _ :=
        effect_finishPresent hkept hp
      rw [hsome] at hspares ⊢
      exact .of_effect hspares hfinished
  cases op with
  | pollAcquireFence os transaction =>
    refine .of_effect ?_ (effect_pollAcquireFence hkept)
    simp only [RegistryOp.call, pollAcquireFence]
    split
    · exact .refl registry
    split
    · exact .refl registry
    split
    · exact .refl registry
    split <;> exact ⟨fun _ _ hlive => hlive, fun _ _ hlive => hlive⟩
  | submit transaction =>
    simp only [RegistryOp.call]
    cases hsubmit : registry.submit transaction with
    | error error => exact .refl hkept
    | ok next =>
      refine .of_effect ?_ (effect_submit hkept hsubmit)
      unfold submit at hsubmit
      split at hsubmit
      · cases hsubmit
      split at hsubmit
      · cases hsubmit
      · cases hsubmit
        exact ⟨fun _ _ hlive => hlive, fun _ _ hlive => hlive⟩
      · cases hsubmit
  | retirePageFlip os transaction =>
    simp only [RegistryOp.call, retirePageFlip]
    split
    · exact hreject os transaction
    · exact .refl hkept
  | reject os transaction => exact hreject os transaction
  | _ => cases h
end Sophia.Renderer
