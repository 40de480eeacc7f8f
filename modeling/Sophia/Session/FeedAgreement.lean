import Sophia.Session.AuthorityFeed

/-! The authority's imports and the renderer's registry agree while the registry has room. -/
namespace Sophia.Session

open Std Protocol Authority Renderer Backend LiveDmaBufPresentationRegistry

/-- The last handle of either kind. -/
def lastHandle : ℕ := UInt64.size - 1

/-- Every imported buffer and fence is live in the registry, under a handle of its own, and what
the registry knows was given out before. -/
structure Agrees (runtime : FullRuntime) (registry : LiveDmaBufPresentationRegistry)
    (nextTransaction : ℕ) : Prop where
  buffers : InStep runtime.bufferOf registry.SourceLive
  fences : InStep runtime.fenceOf registry.FenceLive
  bufferNumbers : Numbered (· ∈ registry.sources) (fun handle => handle.raw.toNat)
    (max runtime.nextDmaBufHandle 1).toNat lastHandle
  fenceNumbers : Numbered (· ∈ registry.fences) (fun fence => fence.raw.toNat)
    (max runtime.nextFenceHandle 1).toNat lastHandle
  begun : ∀ transaction ∈ registry.presentations, transaction.raw.toNat < nextTransaction
  kept : registry.Kept

variable {runtime next : FullRuntime} {registry after : LiveDmaBufPresentationRegistry}
  {n n' : ℕ} {ns : NamespaceId} {id : XResourceId} {buffers : List BufferHandle}
  {fences : List FenceHandle}

section Counters

theorem toNat_max (a b : UInt64) : (max a b).toNat = max a.toNat b.toNat := by
  have hmax : max a b = if a ≤ b then b else a := rfl
  rw [hmax, Nat.max_def]
  simp only [UInt64.le_iff_toNat_le]
  split <;> rfl

/-- A counter of handles moves on by one, as far as it goes. -/
theorem toNat_advanced (counter : UInt64) :
    (max (max (saturatingAdd (max counter 1) 1) 1) 1).toNat =
      min ((max counter 1).toNat + 1) lastHandle := by
  have hcounter := counter.toNat_lt
  have hone : (1 : UInt64).toNat = 1 := rfl
  have hsize : UInt64.size = 18446744073709551616 := rfl
  simp only [toNat_max, toNat_saturatingAdd, lastHandle, hone]
  omega

theorem counter_le (counter : UInt64) : (max counter 1).toNat ≤ lastHandle := by
  have hcounter := counter.toNat_lt
  have hone : (1 : UInt64).toNat = 1 := rfl
  have hsize : UInt64.size = 18446744073709551616 := rfl
  simp only [toNat_max, lastHandle, hone]
  omega

/-- The counter is at its last handle, which is still registered. -/
def Stuck {kind : IdKind} (counter : UInt64) (known : SimpleId kind → Prop) : Prop :=
  counter.toNat = lastHandle ∧ known (.fromRaw counter)

/-- The handle an import gets is a new one, unless its counter is stuck. -/
theorem fresh_handle {kind : IdKind} {known : SimpleId kind → Prop} {counter : UInt64}
    (h : Numbered known (fun handle => handle.raw.toNat) (max counter 1).toNat lastHandle)
    (hstuck : ¬ Stuck counter known) : ¬ known (.fromRaw (max counter 1)) := by
  refine h.fresh rfl fun hlast hknown => hstuck ?_
  have hone : (1 : UInt64).toNat = 1 := rfl
  have hlarge : 1 < lastHandle := by decide
  rw [toNat_max, hone] at hlast
  have hcounter : counter.toNat = lastHandle := by omega
  have hmax : max counter 1 = counter := by
    apply UInt64.toNat_inj.mp
    rw [toNat_max, hone]
    omega
  rw [hmax] at hknown
  exact ⟨hcounter, hknown⟩

end Counters

namespace Agrees

theorem later (h : Agrees runtime registry n) (hle : n ≤ n') : Agrees runtime registry n' :=
  { h with begun := fun transaction hmem => Nat.lt_of_lt_of_le (h.begun transaction hmem) hle }

/-- What the authority reports as gone may go from the registry too. -/
theorem drops (h : Agrees runtime registry n) (hdrops : runtime.Drops next buffers fences)
    (hshrinks : Shrinks registry after buffers fences) : Agrees next after n where
  buffers := h.buffers.lose hdrops.buffers hshrinks.sources
  fences := h.fences.lose hdrops.fences hshrinks.fences
  bufferNumbers := by
    rw [hdrops.nextDmaBuf]
    exact h.bufferNumbers.mono hshrinks.oldSources
  fenceNumbers := by
    rw [hdrops.nextFence]
    exact h.fenceNumbers.mono hshrinks.oldFences
  begun transaction hmem := h.begun transaction (hshrinks.oldPresentations transaction hmem)
  kept := hshrinks.kept

theorem same (h : Agrees runtime registry n) (himports : FullRuntime.SameImports runtime next) :
    Agrees next registry n := h.drops himports.drops (.refl h.kept)

/-- An accepted import is registered, and the buffer is live. -/
theorem imports {descriptor : DmaBufDescriptor} {fds : List OwnedFd}
    (h : Agrees runtime registry n) (himports : runtime.Imports next ns id descriptor)
    (hfds : fds.length = descriptor.planeCount.toNat)
    (hroom : registry.sources.size < registry.limits.sources)
    (hstuck : ¬ Stuck runtime.nextDmaBufHandle (· ∈ registry.sources)) :
    ∃ after, registry.registerSource descriptor fds = .ok after ∧ Agrees next after n := by
  have hfresh : descriptor.handle ∉ registry.sources := by
    rw [himports.number]
    exact fresh_handle h.bufferNumbers hstuck
  obtain ⟨after, hregister, hfences, hsources⟩ :=
    registerSource_succeeds himports.valid hfds hfresh hroom
  have hspares := spares_registerSource hregister
  have heffect := effect_registerSource h.kept hregister
  refine ⟨after, hregister, ?_, ?_, ?_, ?_, ?_, heffect.kept⟩
  · refine h.buffers.enter (k := id) (h := descriptor.handle) (fun hlive => hfresh hlive.mem) ?_
      (fun handle => hspares.sources handle List.not_mem_nil) ?_
    · unfold SourceLive
      rw [hsources]
      exact Live.insert_self rfl
    · intro other handle hget
      rw [himports.buffers] at hget
      split at hget
      · rename_i he
        exact .inl ⟨he, (Option.some.inj hget).symm⟩
      · exact .inr hget
  · rw [himports.fences]
    exact h.fences.mono fun fence => hspares.fences fence List.not_mem_nil
  · rw [himports.nextDmaBuf]
    refine h.bufferNumbers.enter (h := descriptor.handle) (by rw [himports.number]; rfl)
      (toNat_advanced _) (counter_le _) fun handle hmem => ?_
    rcases heffect.sources.of_mem hmem with hold | hnew
    · exact .inr hold
    · exact .inl (List.mem_singleton.mp hnew)
  · rw [himports.nextFence, hfences]
    exact h.fenceNumbers
  · intro transaction hmem
    rcases heffect.presentations.of_mem hmem with hold | hnew
    · exact h.begun transaction hold
    · cases hnew

theorem importsFence {handle : FenceHandle} (fd : OwnedFd) (h : Agrees runtime registry n)
    (himports : runtime.ImportsFence next ns id handle)
    (hroom : registry.fences.size < registry.limits.fences)
    (hstuck : ¬ Stuck runtime.nextFenceHandle (· ∈ registry.fences)) :
    ∃ after, registry.registerFence handle fd = .ok after ∧ Agrees next after n := by
  have hfresh : handle ∉ registry.fences := by
    rw [himports.number]
    exact fresh_handle h.fenceNumbers hstuck
  obtain ⟨after, hregister, hsources, hfences⟩ := registerFence_succeeds fd hfresh hroom
  have hspares := spares_registerFence hregister
  have heffect := effect_registerFence h.kept hregister
  refine ⟨after, hregister, ?_, ?_, ?_, ?_, ?_, heffect.kept⟩
  · rw [himports.buffers]
    exact h.buffers.mono fun buffer => hspares.sources buffer List.not_mem_nil
  · refine h.fences.enter (k := id) (h := handle) (fun hlive => hfresh hlive.mem) ?_
      (fun fence => hspares.fences fence List.not_mem_nil) ?_
    · unfold FenceLive
      rw [hfences]
      exact Live.insert_self rfl
    · intro other fence hget
      rw [himports.fences] at hget
      split at hget
      · rename_i he
        exact .inl ⟨he, (Option.some.inj hget).symm⟩
      · exact .inr hget
  · rw [himports.nextDmaBuf, hsources]
    exact h.bufferNumbers
  · rw [himports.nextFence]
    refine h.fenceNumbers.enter (h := handle) (by rw [himports.number]; rfl)
      (toNat_advanced _) (counter_le _) fun fence hmem => ?_
    rcases heffect.fences.of_mem hmem with hold | hnew
    · exact .inr hold
    · exact .inl (List.mem_singleton.mp hnew)
  · intro transaction hmem
    rcases heffect.presentations.of_mem hmem with hold | hnew
    · exact h.begun transaction hold
    · cases hnew

/-- A presentation of an imported buffer, with fences that are there, begins. -/
theorem begins (os : FdOracle) {transaction : TransactionId} {handle : BufferHandle}
    {acquire idle : Option FenceHandle} (h : Agrees runtime registry n)
    (hclone : ∀ fd, os.tryClone fd = true) (hnew : n ≤ transaction.raw.toNat)
    (hlater : transaction.raw.toNat < n')
    (hroom : registry.presentations.size < registry.limits.presentations)
    (hbuffer : ∃ id, runtime.bufferOf id = some handle)
    (hacquire : ∀ fence ∈ acquire, ∃ id, runtime.fenceOf id = some fence)
    (hidle : ∀ fence ∈ idle, ∃ id, runtime.fenceOf id = some fence)
    (hanswers : registry.Answers os acquire) :
    ∃ after, registry.beginPresent os transaction handle acquire idle = .ok after ∧
      Agrees runtime after n' := by
  have hfence : ∀ fence, (∃ id, runtime.fenceOf id = some fence) → registry.FenceLive fence := by
    rintro fence ⟨id, hget⟩
    exact h.fences.live id fence hget
  obtain ⟨id, hget⟩ := hbuffer
  have hfresh : transaction ∉ registry.presentations := by
    intro hmem
    have hlt := h.begun transaction hmem
    omega
  obtain ⟨after, hbegin⟩ := beginPresent_succeeds hclone hfresh hroom (h.buffers.live id handle hget)
    (fun fence hmem => hfence fence (hacquire fence hmem))
    (fun fence hmem => hfence fence (hidle fence hmem)) hanswers
  have hspares := spares_beginPresent hbegin
  have heffect := effect_beginPresent h.kept hbegin
  refine ⟨after, hbegin, ?_, ?_, ?_, ?_, ?_, heffect.kept⟩
  · exact h.buffers.mono fun buffer => hspares.sources buffer List.not_mem_nil
  · exact h.fences.mono fun fence => hspares.fences fence List.not_mem_nil
  · exact h.bufferNumbers.mono fun buffer hmem =>
      (heffect.sources.of_mem hmem).resolve_right List.not_mem_nil
  · exact h.fenceNumbers.mono fun fence hmem =>
      (heffect.fences.of_mem hmem).resolve_right List.not_mem_nil
  · intro other hmem
    rcases heffect.presentations.of_mem hmem with hold | hnew
    · have hlt := h.begun other hold
      omega
    · rw [List.mem_singleton.mp hnew]
      exact hlater

end Agrees
end Sophia.Session
