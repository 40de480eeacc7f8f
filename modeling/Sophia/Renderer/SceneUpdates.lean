import Sophia.Lib.Fallible
import Sophia.Lib.Run
import Sophia.Renderer.CpuScene

/-! The buffer updates of a cycle, and the buffers the scene keeps after them. -/
namespace Sophia.Renderer

open Protocol Std

variable {β : Type}

/-- A committed surface shows the CPU buffer. -/
def References (committed : List CommittedSurfaceState) (handle : UInt64) : Prop :=
  ∃ state ∈ committed, state.buffer = .cpuBuffer handle

instance : DecidableRel References := fun committed handle =>
  inferInstanceAs (Decidable (∃ state ∈ committed, state.buffer = .cpuBuffer handle))

/-- The update replaces the whole buffer. -/
def LiveCpuBufferUpdate.replaces (handle : UInt64) : LiveCpuBufferUpdate β → Bool
  | .replace buffer => buffer.handle = handle
  | .patch _ => false

theorem LiveCpuBufferUpdate.handle_of_replaces {handle : UInt64} (update : LiveCpuBufferUpdate β)
    (h : update.replaces handle = true) : update.handle = handle := by
  cases update with
  | replace buffer => exact of_decide_eq_true h
  | patch => cases h

/-- Some update replaces the whole buffer. -/
def Replaced (updates : List (LiveCpuBufferUpdate β)) (handle : UInt64) : Prop :=
  ∃ update ∈ updates, update.replaces handle = true

namespace LiveCpuBufferRegistry

/-- The registry after an update that does not fail. -/
def applyUpdate (registry : LiveCpuBufferRegistry β) (update : LiveCpuBufferUpdate β) :
    Except LiveCpuBufferRegistryError (LiveCpuBufferRegistry β) :=
  match registry.apply update with
  | (.ok _, next) => .ok next
  | (.error error, _) => .error error

/-- A registry that follows the updates and drops nothing. -/
def record (latest : LiveCpuBufferRegistry β) (update : LiveCpuBufferUpdate β) :
    LiveCpuBufferRegistry β := (latest.apply update).2

/-- The update is no older than what its handle last got. -/
def Rises (latest : LiveCpuBufferRegistry β) (update : LiveCpuBufferUpdate β) : Prop :=
  ∀ current ∈ latest.get update.handle, current.generation ≤ update.generation

instance (latest : LiveCpuBufferRegistry β) (update : LiveCpuBufferUpdate β) :
    Decidable (latest.Rises update) :=
  inferInstanceAs (Decidable (∀ current ∈ latest.get update.handle, _))

/-- Every buffer of the registry is the latest of its handle. -/
def Current (registry latest : LiveCpuBufferRegistry β) : Prop :=
  ∀ handle buffer, registry.get handle = some buffer → latest.get handle = some buffer

variable {registry next latest : LiveCpuBufferRegistry β} {update : LiveCpuBufferUpdate β}
  {updates : List (LiveCpuBufferUpdate β)} {handle : UInt64}

theorem get_insert {buffer : LiveCpuBufferSource β} {hv : validBuffer buffer} {other : UInt64} :
    (registry.insert handle buffer hv).get other =
      if handle = other then some buffer else registry.get other := by
  simp [insert, get, ExtTreeMap.getElem?_insert]

theorem get_retainHandles {retain : UInt64 → Bool} :
    (registry.retainHandles retain).get handle =
      if retain handle then registry.get handle else none := by
  unfold retainHandles get
  rw [ExtTreeMap.getElem?_filter']
  cases hget : registry.buffers[handle]? with
  | none => simp
  | some buffer =>
    cases retain handle with
    | false => simp [Option.filter]
    | true => simp [Option.filter]

theorem not_stale (h : latest.Rises update) (hcurrent : registry.Current latest) :
    ((registry.get update.handle).any fun current => update.generation < current.generation) =
      false := by
  cases hget : registry.get update.handle with
  | none => rfl
  | some current =>
    have hle := h current (hcurrent _ _ hget)
    simpa using UInt64.not_lt.mpr hle

theorem current_refl : latest.Current latest := fun _ _ h => h

/-- The same buffer put into both registries is current. -/
theorem Current.insert (h : registry.Current latest) {buffer : LiveCpuBufferSource β}
    {hv hv' : validBuffer buffer} :
    (registry.insert handle buffer hv).Current (latest.insert handle buffer hv') := by
  intro other found hget
  rw [get_insert] at hget ⊢
  split
  · rename_i he
    rwa [if_pos he] at hget
  · rename_i hne
    rw [if_neg hne] at hget
    exact h other found hget

theorem Current.retainHandles (h : registry.Current latest) (retain : UInt64 → Bool) :
    (registry.retainHandles retain).Current latest := by
  intro other found hget
  rw [get_retainHandles] at hget
  split at hget
  · exact h other found hget
  · cases hget

/-- An update that rises puts the same buffer into the registry and the record. -/
theorem applyUpdate_spec (hcurrent : registry.Current latest) (hrises : latest.Rises update)
    (hok : registry.applyUpdate update = .ok next) :
    ∃ buffer hv, next = registry.insert update.handle buffer hv ∧
      latest.record update = latest.insert update.handle buffer hv := by
  have hstale := not_stale hrises hcurrent
  have hstale' := not_stale hrises current_refl
  unfold applyUpdate apply at hok
  unfold record apply
  rw [hstale] at hok
  rw [hstale']
  simp only [Bool.false_eq_true, if_false] at hok ⊢
  cases update with
  | replace buffer =>
    by_cases hv : validBuffer buffer
    · simp only [hv, dite_true] at hok ⊢
      cases hok
      exact ⟨buffer, hv, rfl, rfl⟩
    · simp only [hv, dite_false] at hok
      cases hok
  | patch patch =>
    dsimp only at hok ⊢
    split at hok
    case h_2 herror => cases hok
    rename_i kept hpatched
    cases hok
    split at hpatched
    · cases hpatched
    rename_i base hbase
    split at hpatched
    · cases hpatched
    rename_i patched hcopied
    cases hpatched
    have hv := validBuffer_applyPatch (registry.valid patch.handle base hbase) hcopied
    refine ⟨patched, hv, rfl, ?_⟩
    have hlatest : latest.get patch.handle = some base := hcurrent _ _ hbase
    split
    · rename_i hnone
      cases hlatest.symm.trans hnone
    rename_i other hother
    cases hlatest.symm.trans hother
    split
    · rename_i hfailed
      cases hcopied.symm.trans hfailed
    · rename_i again hagain
      cases hcopied.symm.trans hagain
      rfl

/-- Updates leave every registered buffer current, keep them all, and register those replaced. -/
theorem applyUpdates_spec (hcurrent : registry.Current latest)
    (hrises : Run.Guarded record Rises latest updates)
    (hok : updates.foldlM applyUpdate registry = .ok next) :
    next.Current (Run.exec record latest updates) ∧
      ∀ handle, (registry.get handle).isSome ∨ Replaced updates handle →
        (next.get handle).isSome := by
  induction updates generalizing registry latest with
  | nil =>
    cases hok
    refine ⟨hcurrent, ?_⟩
    rintro handle (hold | ⟨update, hmem, -⟩)
    · exact hold
    · cases hmem
  | cons update rest ih =>
    rw [List.foldlM_cons] at hok
    obtain ⟨between, hfirst, hrest⟩ := Fallible.bind_eq_ok.mp hok
    obtain ⟨hhead, htail⟩ := Run.guarded_cons.mp hrises
    obtain ⟨buffer, hv, rfl, hrecord⟩ := applyUpdate_spec hcurrent hhead hfirst
    have hnext : (registry.insert update.handle buffer hv).Current (latest.record update) := by
      rw [hrecord]
      exact hcurrent.insert
    obtain ⟨hafter, hkept⟩ := ih hnext htail hrest
    refine ⟨hafter, fun handle hneeded => hkept handle ?_⟩
    rw [get_insert]
    rcases hneeded with hold | ⟨replaced, hmem, hreplaces⟩
    · left
      split
      · rfl
      · exact hold
    rcases List.mem_cons.mp hmem with rfl | hlater
    · left
      rw [if_pos (replaced.handle_of_replaces hreplaces)]
      rfl
    · exact Or.inr ⟨replaced, hlater, hreplaces⟩

end LiveCpuBufferRegistry

namespace LiveProductionCpuScene

def applyUpdates (scene : LiveProductionCpuScene) (updates : List (LiveCpuBufferUpdate UInt8))
    (committed : List CommittedSurfaceState) :
    Except LiveCpuBufferRegistryError LiveProductionCpuScene :=
  (updates.foldlM LiveCpuBufferRegistry.applyUpdate scene.buffers).map fun buffers =>
    { scene with buffers := buffers.retainHandles fun handle => References committed handle }

end LiveProductionCpuScene
end Sophia.Renderer
