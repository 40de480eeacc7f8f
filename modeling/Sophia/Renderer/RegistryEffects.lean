import Sophia.Renderer.ReferenceCounts

/-! What each operation moves into and out of the tables of the presentation registry. -/
namespace Sophia.Renderer

open Protocol Std

namespace LiveDmaBufPresentationRegistry

/-- The counts are right, and no table is over its limit. -/
structure Kept (registry : LiveDmaBufPresentationRegistry) : Prop where
  sources : SourceCounts registry.sources (sourceUsers registry.presentations)
  fences : FenceCounts registry.fences (fenceUsers registry.presentations)
  sourceLimit : registry.sources.size ≤ registry.limits.sources
  fenceLimit : registry.fences.size ≤ registry.limits.fences
  presentationLimit : registry.presentations.size ≤ registry.limits.presentations

/-- What enters and what leaves the three tables in one operation. -/
structure Flow where
  registered : List BufferHandle := []
  released : List BufferHandle := []
  registeredFences : List FenceHandle := []
  releasedFences : List FenceHandle := []
  begun : List TransactionId := []
  ended : List TransactionId := []

/-- The operation moves exactly this, and keeps the counts. -/
structure Effect (before after : LiveDmaBufPresentationRegistry) (flow : Flow) : Prop where
  limits : after.limits = before.limits
  sources : SourceTransfer before.sources after.sources flow.registered flow.released
  fences : FenceTransfer before.fences after.fences flow.registeredFences flow.releasedFences
  presentations : Transfer (fun _ => false) before.presentations after.presentations flow.begun
    flow.ended
  kept : after.Kept

variable {registry before after last : LiveDmaBufPresentationRegistry} {flow : Flow}
  {os : FdOracle} {transaction : TransactionId} {p q : LivePresentRegistration}
  {handle : BufferHandle} {fence : FenceHandle}

theorem kept_withLimits (limits : LivePresentationRegistryLimits) : (withLimits limits).Kept :=
  ⟨Counted.empty.congr fun _ => sourceUsers_empty, Counted.empty.congr fun _ => fenceUsers_empty,
    Nat.zero_le _, Nat.zero_le _, Nat.zero_le _⟩

theorem Effect.refl (h : registry.Kept) : Effect registry registry {} :=
  ⟨rfl, .refl _, .refl _, .refl _, h⟩

/-- What goes in one operation and then in another goes in both. -/
theorem Effect.trans {released : List BufferHandle} {releasedFences : List FenceHandle}
    {ended : List TransactionId} (h : Effect before after flow)
    (h' : Effect after last { released, releasedFences, ended }) :
    Effect before last
      { flow with
        released := flow.released ++ released
        releasedFences := flow.releasedFences ++ releasedFences
        ended := flow.ended ++ ended } where
  limits := h'.limits.trans h.limits
  sources := h.sources.trans h'.sources
  fences := h.fences.trans h'.fences
  presentations := h.presentations.trans h'.presentations
  kept := h'.kept

theorem effect_registerSource {descriptor : DmaBufDescriptor} {planeFds : List OwnedFd}
    (hkept : before.Kept) (h : before.registerSource descriptor planeFds = .ok after) :
    Effect before after { registered := [descriptor.handle] } := by
  unfold registerSource at h
  split at h
  · cases h
  split at h
  · cases h
  split at h
  · cases h
  rename_i hnew
  split at h
  · cases h
  rename_i hroom
  cases h
  refine ⟨rfl, .enter hnew, .refl _, .refl _, ⟨hkept.sources.enter hnew rfl rfl, hkept.fences, ?_,
    hkept.fenceLimit, hkept.presentationLimit⟩⟩
  have hsize := @ExtTreeMap.size_insert_le _ _ _ before.sources _ descriptor.handle
    ⟨descriptor, planeFds, 0, false⟩
  have hlimit : before.sources.size < before.limits.sources := Nat.not_le.mp hroom
  exact hsize.trans hlimit

theorem effect_registerFence {fd : OwnedFd} (hkept : before.Kept)
    (h : before.registerFence fence fd = .ok after) :
    Effect before after { registeredFences := [fence] } := by
  unfold registerFence at h
  split at h
  · cases h
  rename_i hnew
  split at h
  · cases h
  rename_i hroom
  cases h
  have hnone : before.fences[fence]? = none :=
    ExtTreeMap.getElem?_eq_none fun hmem => hnew (ExtTreeMap.mem_iff_contains.mp hmem)
  refine ⟨rfl, .refl _, .enter hnone, .refl _, ⟨hkept.sources, hkept.fences.enter hnone rfl rfl,
    hkept.sourceLimit, ?_, hkept.presentationLimit⟩⟩
  have hsize := @ExtTreeMap.size_insert_le _ _ _ before.fences _ fence ⟨fd, 0, false⟩
  have hlimit : before.fences.size < before.limits.fences := Nat.not_le.mp hroom
  exact hsize.trans hlimit

/-- A fence that is duplicated for a presentation is there, and its query is the presentation's. -/
theorem cloneFence_eq_ok {acquire : Option FenceHandle} {fd : Option OwnedFd}
    (h : registry.cloneFence os acquire = .ok fd) :
    (acquire = none ∧ fd = none) ∨
      ∃ fence registration, acquire = some fence ∧
        registry.fences[fence]? = some registration ∧ fd = some registration.fd := by
  unfold cloneFence at h
  split at h
  · cases h
    exact .inl ⟨rfl, rfl⟩
  rename_i fence
  split at h
  · cases h
  rename_i registration hget
  split at h
  · cases h
  split at h
  · cases h
  · cases h
    exact .inr ⟨fence, registration, rfl, hget, rfl⟩

/-- What a presentation that is begun finds, and what it leaves. -/
theorem beginPresent_eq_ok {acquire idle : Option FenceHandle}
    (h : before.beginPresent os transaction handle acquire idle = .ok after) :
    before.presentations[transaction]? = none ∧
      before.presentations.size < before.limits.presentations ∧
      ∃ source acquireFd idleFd ready p,
        before.sources[handle]? = some source ∧
        before.cloneFence os acquire = .ok acquireFd ∧ before.cloneFence os idle = .ok idleFd ∧
        acquireReady os acquireFd = .ok ready ∧
        p.source = handle ∧ p.acquireFence = acquire ∧ p.idleFence = idle ∧
        p.state = (if ready then .ready else .waitingForAcquireFence) ∧
        after.limits = before.limits ∧
        after.sources = before.sources.insert handle
          { source with references := source.references + 1 } ∧
        after.fences = retainFences before.fences p.fenceHandles ∧
        after.presentations = before.presentations.insert transaction p := by
  unfold beginPresent at h
  split at h
  · cases h
  rename_i hnew
  split at h
  · cases h
  rename_i hroom
  split at h
  · cases h
  rename_i source hsource
  split at h
  · cases h
  split at h
  · cases h
  split at h
  · cases h
  rename_i acquireFd hacquire
  split at h
  · cases h
  rename_i idleFd hidle
  split at h
  · cases h
  rename_i ready hready
  cases h
  exact ⟨hnew, Nat.not_le.mp hroom, source, acquireFd, idleFd, ready, _, hsource, hacquire, hidle,
    hready, rfl, rfl, rfl, rfl, rfl, rfl, rfl, rfl⟩

/-- The fences a presentation is begun with are there. -/
theorem mem_fences_of_cloned {acquireFd idleFd : Option OwnedFd}
    (hacquire : registry.cloneFence os p.acquireFence = .ok acquireFd)
    (hidle : registry.cloneFence os p.idleFence = .ok idleFd) :
    ∀ fence ∈ p.fenceHandles, fence ∈ registry.fences := by
  intro fence hmem
  have hcloned : ∀ named fd, registry.cloneFence os named = .ok fd → named = some fence →
      fence ∈ registry.fences := by
    rintro named fd hclone rfl
    rcases cloneFence_eq_ok hclone with ⟨hnone, -⟩ | ⟨found, registration, hfound, hget, -⟩
    · cases hnone
    · cases hfound
      exact mem_of_getElem? hget
  exact (mem_fenceHandles.mp hmem).elim (hcloned _ _ hacquire) (hcloned _ _ hidle)

theorem effect_beginPresent {acquire idle : Option FenceHandle} (hkept : before.Kept)
    (h : before.beginPresent os transaction handle acquire idle = .ok after) :
    Effect before after { begun := [transaction] } := by
  obtain ⟨hnew, hroom, source, acquireFd, idleFd, ready, p, hsource, hacquire, hidle, -, rfl, rfl,
    rfl, -, hlimits, hsources, hfences, hpresentations⟩ := beginPresent_eq_ok h
  obtain ⟨hcounted, htransfer, hsize⟩ :=
    retainFences_used hkept.fences (mem_fences_of_cloned hacquire hidle)
  refine ⟨hlimits, ?_, ?_, ?_, ?_, ?_, ?_, ?_, ?_⟩
  · rw [hsources]
    exact .change hsource fun hpending => hpending
  · rw [hfences]
    exact htransfer
  · rw [hpresentations]
    exact .enter hnew
  · rw [hsources, hpresentations]
    refine hkept.sources.change (fun _ => Nat.succ_pos _) fun other => ?_
    rw [sourceUsers_insert_new hnew]
    split
    · rename_i he
      rw [he, ← hkept.sources.refs_eq hsource]
    · rfl
  · rw [hfences, hpresentations]
    exact hcounted.congr fun fence => fenceUsers_insert_new hnew
  · rw [hsources, hlimits, size_insert_of_getElem? hsource]
    exact hkept.sourceLimit
  · rw [hfences, hlimits, hsize]
    exact hkept.fenceLimit
  · rw [hpresentations, hlimits]
    exact ExtTreeMap.size_insert_le.trans hroom

/-- Whatever is not a name of a source or a fence may be overwritten. -/
theorem effect_overwrite (hkept : before.Kept) (hp : before.presentations[transaction]? = some p)
    (hsource : q.source = p.source) (hacquire : q.acquireFence = p.acquireFence)
    (hidle : q.idleFence = p.idleFence) :
    Effect before (before.overwrite transaction p q hp hsource) {} := by
  refine ⟨rfl, .refl _, .refl _, .change hp fun h => h, ⟨?_, ?_, hkept.sourceLimit,
    hkept.fenceLimit, ?_⟩⟩
  · exact hkept.sources.congr fun handle => sourceUsers_insert_same hp hsource
  · exact hkept.fences.congr fun fence => fenceUsers_insert_same hp hacquire hidle
  · exact (size_insert_of_getElem? hp).trans_le hkept.presentationLimit

theorem effect_pollAcquireFence (hkept : before.Kept) :
    Effect before (before.pollAcquireFence os transaction).2 {} := by
  unfold pollAcquireFence
  split
  · exact .refl hkept
  split
  · exact .refl hkept
  split
  · exact .refl hkept
  split
  · exact .refl hkept
  · exact .refl hkept
  · rename_i p hp _ _ fd hfd _ hquery
    apply effect_overwrite hkept hp <;> rfl

theorem effect_submit (hkept : before.Kept) (h : before.submit transaction = .ok after) :
    Effect before after {} := by
  unfold submit at h
  split at h
  · cases h
  split at h
  · cases h
  · rename_i p hp _ hready
    cases h
    apply effect_overwrite hkept hp <;> rfl
  · cases h

/-- What goes with a presentation that is retired. -/
def retired (p : LivePresentRegistration) (retirement : LivePresentationRetirement) : Flow where
  released := if retirement.releasedSource then [p.source] else []
  releasedFences := retirement.releasedFences
  ended := [retirement.transaction]

theorem effect_finishPresent (hkept : before.Kept)
    (hp : before.presentations[transaction]? = some p) :
    Effect before (before.finishPresent os transaction p hp).2
      (retired p (before.finishPresent os transaction p hp).1) := by
  have hsource := before.heldSource_eq transaction p hp
  obtain ⟨hsources, hsourceTransfer, hsourceSize⟩ := releaseSource_used hkept.sources hp hsource
  have huses : ∀ fence, p.fenceHandles.count fence ≤ fenceUsers before.presentations fence := by
    intro fence
    rw [fenceUsers_erase hp]
    exact Nat.le_add_left _ _
  obtain ⟨hfences, hfenceTransfer, hfenceSize⟩ := releaseFences_used hkept.fences huses
  refine ⟨rfl, ?_, hfenceTransfer, .leave hp, ⟨hsources, ?_, ?_, ?_, ?_⟩⟩
  · simpa [retired, finishPresent] using hsourceTransfer
  · refine hfences.congr fun fence => ?_
    have hone := @fenceUsers_erase before.presentations transaction p fence hp
    have hafter : (before.finishPresent os transaction p hp).2.presentations =
        before.presentations.erase transaction := rfl
    rw [hafter]
    omega
  · exact hsourceSize.trans hkept.sourceLimit
  · exact hfenceSize.trans hkept.fenceLimit
  · exact ExtTreeMap.size_erase_le.trans hkept.presentationLimit

theorem effect_removeSource (hkept : before.Kept) :
    Effect before (before.removeSource handle).2
      { released := if (before.removeSource handle).1 = .released then [handle] else [] } := by
  unfold removeSource
  split
  · exact .refl hkept
  rename_i source hget
  split
  · rename_i hused
    refine ⟨rfl, .change hget fun _ => rfl, .refl _, .refl _, ⟨hkept.sources.change (fun _ => hused)
      fun other => ?_, hkept.fences, ?_, hkept.fenceLimit, hkept.presentationLimit⟩⟩
    · split
      · rename_i he
        rw [he, ← hkept.sources.refs_eq hget]
      · rfl
    · exact (size_insert_of_getElem? hget).trans_le hkept.sourceLimit
  · rename_i hunused
    refine ⟨rfl, .leave hget, .refl _, .refl _, ⟨hkept.sources.leave fun other => ?_, hkept.fences,
      ExtTreeMap.size_erase_le.trans hkept.sourceLimit, hkept.fenceLimit,
      hkept.presentationLimit⟩⟩
    split
    · rename_i he
      rw [he, ← hkept.sources.refs_eq hget]
      exact Nat.eq_zero_of_not_pos hunused
    · rfl

theorem effect_removeFence (hkept : before.Kept) :
    Effect before (before.removeFence fence).2
      { releasedFences := if (before.removeFence fence).1 = .released then [fence] else [] } := by
  unfold removeFence
  split
  · exact .refl hkept
  rename_i registration hget
  split
  · rename_i hused
    refine ⟨rfl, .refl _, .change hget fun _ => rfl, .refl _, ⟨hkept.sources,
      hkept.fences.change (fun _ => hused) fun other => ?_, hkept.sourceLimit, ?_,
      hkept.presentationLimit⟩⟩
    · split
      · rename_i he
        rw [he, ← hkept.fences.refs_eq hget]
      · rfl
    · exact (size_insert_of_getElem? hget).trans_le hkept.fenceLimit
  · rename_i hunused
    refine ⟨rfl, .refl _, .leave hget, .refl _, ⟨hkept.sources, hkept.fences.leave fun other => ?_,
      hkept.sourceLimit, ExtTreeMap.size_erase_le.trans hkept.fenceLimit,
      hkept.presentationLimit⟩⟩
    split
    · rename_i he
      rw [he, ← hkept.fences.refs_eq hget]
      exact Nat.eq_zero_of_not_pos hunused
    · rfl

/-- Every presentation of the list is there at its turn, and is retired. -/
theorem effect_finishAll (os : TransactionId → FdOracle) {keys : List TransactionId}
    (report : LivePresentationDisconnectReport) (hkept : before.Kept) (hnodup : keys.Nodup)
    (hthere : ∀ transaction ∈ keys, transaction ∈ before.presentations) :
    ∃ released releasedFences,
      Effect before (finishAll os keys report before).2
        { released, releasedFences, ended := keys } ∧
      (finishAll os keys report before).1.releasedSources =
        report.releasedSources ++ released.map (fun handle => .dmaBuf handle.raw) ∧
      (finishAll os keys report before).1.releasedFences =
        report.releasedFences ++ releasedFences ∧
      (finishAll os keys report before).1.retiredPresentations =
        report.retiredPresentations + keys.length := by
  induction keys generalizing before report with
  | nil => exact ⟨[], [], .refl hkept, by simp [finishAll], by simp [finishAll], rfl⟩
  | cons transaction keys ih =>
    rw [List.nodup_cons] at hnodup
    obtain ⟨p, hget⟩ := Option.isSome_iff_exists.mp
      (ExtTreeMap.mem_iff_isSome_getElem?.mp (hthere transaction List.mem_cons_self))
    have hone : Effect before (before.finishPresent (os transaction) transaction p hget).2 _ :=
      effect_finishPresent hkept hget
    have hlater : ∀ other ∈ keys, other ∈
        (before.finishPresent (os transaction) transaction p hget).2.presentations := by
      intro other hother
      have hne : transaction ≠ other := fun he => hnodup.1 (he ▸ hother)
      have hmem := hthere other (List.mem_cons_of_mem transaction hother)
      exact ExtTreeMap.mem_erase.mpr ⟨by simpa using hne, hmem⟩
    obtain ⟨released, releasedFences, hrest, hsources, hfences, hcount⟩ :=
      ih (addRetirement report (before.finishPresent (os transaction) transaction p hget).1)
        hone.kept hnodup.2 hlater
    rw [finishAll, reject_of_some before (os transaction) hget]
    refine ⟨_, _, hone.trans hrest, ?_, ?_, ?_⟩
    · rw [hsources, List.map_append, addRetirement, List.append_assoc]
      congr 2
      simp only [retired]
      split <;> rfl
    · rw [hfences, addRetirement, List.append_assoc]
      rfl
    · rw [hcount, List.length_cons]
      simp only [addRetirement]
      omega

/-- At a disconnect every presentation is retired, and every source and fence is reported. -/
theorem effect_disconnect (os : TransactionId → FdOracle) (hkept : before.Kept) :
    ∃ released,
      Effect before (before.disconnect os).2
        { released, releasedFences := (before.disconnect os).1.releasedFences
          ended := before.presentations.keys } ∧
      (before.disconnect os).1.releasedSources =
        released.map (fun handle => .dmaBuf handle.raw) ∧
      (before.disconnect os).1.retiredPresentations = before.presentations.size := by
  have hnodup : before.presentations.keys.Nodup :=
    ExtTreeMap.distinct_keys.imp fun h he => h (by simp [he])
  obtain ⟨released, releasedFences, hfinished, hsources, hfences, hcount⟩ :=
    effect_finishAll os {} hkept hnodup
      fun transaction hmem => ExtTreeMap.mem_keys.mp hmem
  have hempty := before.presentations_finishAll_keys os
  refine ⟨released ++ (finishAll os before.presentations.keys {} before).2.sources.keys, ?_, ?_, ?_⟩
  · have hlast : Effect (finishAll os before.presentations.keys {} before).2
        (before.disconnect os).2
        { released := (finishAll os before.presentations.keys {} before).2.sources.keys
          releasedFences := (finishAll os before.presentations.keys {} before).2.fences.keys } := by
      refine ⟨rfl, .clear, .clear, .refl _, ⟨?_, ?_, Nat.zero_le _, Nat.zero_le _, ?_⟩⟩
      · exact Counted.empty.congr fun handle =>
          (congrArg (sourceUsers · handle) hempty).trans sourceUsers_empty
      · exact Counted.empty.congr fun fence =>
          (congrArg (fenceUsers · fence) hempty).trans fenceUsers_empty
      · exact hfinished.kept.presentationLimit
    have hall := hfinished.trans hlast
    simp only [List.append_nil] at hall
    simp only [disconnect, hfences, List.nil_append]
    exact hall
  · simp only [disconnect, hsources, List.nil_append, List.map_append]
  · simp only [disconnect, hcount, ExtTreeMap.length_keys]
    omega

end LiveDmaBufPresentationRegistry
end Sophia.Renderer
