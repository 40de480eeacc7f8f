import Mathlib.Data.List.Count
import Mathlib.Data.List.Destutter
import Sophia.Lib.Lifetimes
import Sophia.Protocol

/-! The lifetimes of CPU buffers: which handle a surface shows, which it waits to show, and which
handles are reported released. -/
namespace Sophia.Renderer

open Protocol Std

structure PendingCpuPresentation where
  handle : UInt64
  previousCommittedHandle : Option UInt64

structure LiveCpuBufferLifetimeRegistry where
  committed : ExtTreeMap SurfaceId UInt64
  pending : ExtTreeMap SurfaceId PendingCpuPresentation

inductive LifetimeCall where
  | submit (surface : SurfaceId) (handle : UInt64)
  | retirePageFlip (surface : SurfaceId) (handle : UInt64)
  | reject (surface : SurfaceId) (handle : UInt64)
  | disconnect
  deriving DecidableEq

namespace LiveCpuBufferLifetimeRegistry

variable (registry : LiveCpuBufferLifetimeRegistry) (surface : SurfaceId) (handle : UInt64)

def default : LiveCpuBufferLifetimeRegistry := ⟨∅, ∅⟩

def submit : Option BufferSource × LiveCpuBufferLifetimeRegistry :=
  let replacedPending := registry.pending[surface]?
  (replacedPending.map fun pending => .cpuBuffer pending.handle,
    { registry with
      pending := registry.pending.insert surface ⟨handle, registry.committed[surface]?⟩ })

def retirePageFlip : List BufferSource × LiveCpuBufferLifetimeRegistry :=
  match registry.pending[surface]? with
  | none => ([], registry)
  | some pending =>
    if pending.handle ≠ handle then ([], registry)
    else
      (((pending.previousCommittedHandle.filter (· ≠ handle)).map fun previous =>
        [.cpuBuffer previous]).getD [],
        ⟨registry.committed.insert surface handle, registry.pending.erase surface⟩)

def reject : Option BufferSource × LiveCpuBufferLifetimeRegistry :=
  if (registry.pending[surface]?).any (·.handle = handle) then
    (some (.cpuBuffer handle), { registry with pending := registry.pending.erase surface })
  else (none, registry)

def committedHandle : Option UInt64 := registry.committed[surface]?

def disconnect : List BufferSource × LiveCpuBufferLifetimeRegistry :=
  let handles := registry.pending.toList.map (·.2.handle) ++ registry.committed.toList.map (·.2)
  let handles := (handles.mergeSort fun a b => a ≤ b).destutter (· ≠ ·)
  (handles.map .cpuBuffer, ⟨∅, ∅⟩)

def call : LifetimeCall → List BufferSource × LiveCpuBufferLifetimeRegistry
  | .submit surface handle =>
    ((registry.submit surface handle).1.toList, (registry.submit surface handle).2)
  | .retirePageFlip surface handle => registry.retirePageFlip surface handle
  | .reject surface handle =>
    ((registry.reject surface handle).1.toList, (registry.reject surface handle).2)
  | .disconnect => registry.disconnect

def step (call : LifetimeCall) : LiveCpuBufferLifetimeRegistry := (registry.call call).2

def report (call : LifetimeCall) : List BufferSource := (registry.call call).1

/-- The handle is the committed or the pending handle of the surface. -/
def LiveOn : Prop :=
  registry.committed[surface]? = some handle ∨
    (registry.pending[surface]?).map (·.handle) = some handle

instance : Decidable (registry.LiveOn surface handle) := inferInstanceAs (Decidable (_ ∨ _))

/-- The source is a handle that its surface shows or waits to show. -/
def Live : BufferSource → Prop
  | .cpuBuffer handle => ∃ surface, registry.LiveOn surface handle
  | _ => False

/-- A submission is of a handle that its surface neither shows nor waits to show. -/
def Fresh : LifetimeCall → Prop
  | .submit surface handle => ¬ registry.LiveOn surface handle
  | _ => True

instance : DecidablePred registry.Fresh
  | .submit _ _ => inferInstanceAs (Decidable (¬ _))
  | .retirePageFlip _ _ => isTrue trivial
  | .reject _ _ => isTrue trivial
  | .disconnect => isTrue trivial

end LiveCpuBufferLifetimeRegistry

namespace LifetimeCall

/-- The call submits the handle. -/
def Submits : LifetimeCall → BufferSource → Prop
  | .submit _ handle, source => source = .cpuBuffer handle
  | _, _ => False

instance : ∀ (call : LifetimeCall) (source : BufferSource), Decidable (call.Submits source)
  | .submit _ _, _ => inferInstanceAs (Decidable (_ = _))
  | .retirePageFlip _ _, _ => isFalse id
  | .reject _ _, _ => isFalse id
  | .disconnect, _ => isFalse id

end LifetimeCall

/-- What a surface shows and what it waits to show. -/
structure Slot where
  committed : Option UInt64
  pending : Option UInt64

namespace Slot

variable (slot : Slot) (handle : UInt64)

def Holds : Prop := slot.committed = some handle ∨ slot.pending = some handle

instance : Decidable (slot.Holds handle) := inferInstanceAs (Decidable (_ ∨ _))

/-- The released handles and the slot after a submission. -/
def submit : List UInt64 × Slot := (slot.pending.toList, { slot with pending := some handle })

def retire : List UInt64 × Slot :=
  if slot.pending = some handle then
    ((slot.committed.filter (· ≠ handle)).toList, ⟨some handle, none⟩)
  else ([], slot)

def reject : List UInt64 × Slot :=
  if slot.pending = some handle then ([handle], { slot with pending := none }) else ([], slot)

/-- The two handles differ. -/
def Exclusive : Prop := ∀ handle, ¬ (slot.committed = some handle ∧ slot.pending = some handle)

variable {slot handle} {other : UInt64}

/-- As long as the two handles differ, each handle that leaves a slot is released once. -/
def Settles (before : Slot) (after : List UInt64 × Slot) (handle : UInt64) : Prop :=
  after.1.count handle + (if after.2.Holds handle then 1 else 0) =
    if before.Holds handle then 1 else 0

theorem settles_submit (hslot : slot.Exclusive) (hne : handle ≠ other) :
    slot.Settles (slot.submit handle) other := by
  obtain ⟨committed, pending⟩ := slot
  have hother := hslot other
  unfold Settles submit Holds
  cases pending with
  | none => simp [hne]
  | some waiting =>
    by_cases hw : waiting = other
    · subst hw
      have hc : committed ≠ some waiting := fun hc => hother ⟨hc, rfl⟩
      simp [hne, hc]
    · simp [hne, hw]

theorem settles_retire (hslot : slot.Exclusive) : slot.Settles (slot.retire handle) other := by
  obtain ⟨committed, pending⟩ := slot
  unfold Settles retire
  by_cases hp : pending = some handle
  · subst hp
    rw [if_pos rfl]
    unfold Holds
    cases committed with
    | none => simp
    | some shown =>
      have hne : shown ≠ handle := fun he => hslot handle ⟨congrArg some he, rfl⟩
      by_cases hs : shown = other
      · subst hs
        simp [Option.filter_some, hne, hne.symm]
      · simp [Option.filter_some, hne, hs]
  · rw [if_neg hp]
    exact Nat.zero_add _

theorem settles_reject (hslot : slot.Exclusive) : slot.Settles (slot.reject handle) other := by
  obtain ⟨committed, pending⟩ := slot
  unfold Settles reject
  by_cases hp : pending = some handle
  · subst hp
    rw [if_pos rfl]
    unfold Holds
    by_cases he : handle = other
    · subst he
      have hc : committed ≠ some handle := fun hc => hslot handle ⟨hc, rfl⟩
      simp [hc]
    · simp [he]
  · rw [if_neg hp]
    exact Nat.zero_add _

theorem holds_submit (h : (slot.submit handle).2.Holds other) :
    slot.Holds other ∨ other = handle := by
  rcases h with h | h
  · exact .inl (.inl h)
  · exact .inr (Option.some.inj h).symm

theorem holds_retire (h : (slot.retire handle).2.Holds other) : slot.Holds other := by
  unfold retire at h
  split at h
  · rename_i hp
    rcases h with h | h
    · exact .inr (hp.trans h)
    · cases h
  · exact h

theorem holds_reject (h : (slot.reject handle).2.Holds other) : slot.Holds other := by
  unfold reject at h
  split at h
  · exact h.imp_right fun h => by cases h
  · exact h

/-- Only what the slot holds is released. -/
theorem holds_of_mem_submit (h : other ∈ (slot.submit handle).1) : slot.Holds other :=
  .inr (Option.mem_toList.mp h)

theorem holds_of_mem_retire (h : other ∈ (slot.retire handle).1) : slot.Holds other := by
  unfold retire at h
  split at h
  · exact .inl (Option.filter_eq_some_iff.mp (Option.mem_toList.mp h)).1
  · cases h

theorem holds_of_mem_reject (h : other ∈ (slot.reject handle).1) : slot.Holds other := by
  unfold reject at h
  split at h
  · rename_i hp
    rw [List.mem_singleton.mp h]
    exact .inr hp
  · cases h

theorem exclusive_submit (hnew : ¬ slot.Holds handle) : (slot.submit handle).2.Exclusive := by
  rintro other ⟨hc, hp⟩
  cases hp
  exact hnew (.inl hc)

theorem exclusive_retire (hslot : slot.Exclusive) : (slot.retire handle).2.Exclusive := by
  unfold retire
  split
  · rintro other ⟨-, hp⟩
    cases hp
  · exact hslot

theorem exclusive_reject (hslot : slot.Exclusive) : (slot.reject handle).2.Exclusive := by
  unfold reject
  split
  · rintro other ⟨-, hp⟩
    cases hp
  · exact hslot

end Slot

namespace LiveCpuBufferLifetimeRegistry

variable (registry : LiveCpuBufferLifetimeRegistry) (surface : SurfaceId)

def slot : Slot := ⟨registry.committed[surface]?, (registry.pending[surface]?).map (·.handle)⟩

/-- A pending presentation remembers the committed handle of its surface, and a handle belongs to
its owner. -/
structure Kept (owner : UInt64 → SurfaceId) : Prop where
  captured : ∀ (surface : SurfaceId) pending, registry.pending[surface]? = some pending →
    pending.previousCommittedHandle = registry.committed[surface]?
  owned : ∀ surface handle, registry.LiveOn surface handle → owner handle = surface

variable {registry surface} {owner : UInt64 → SurfaceId} {handle : UInt64} {other : SurfaceId}

theorem liveOn_iff : registry.LiveOn surface handle ↔ (registry.slot surface).Holds handle :=
  Iff.rfl

theorem report_submit : registry.report (.submit surface handle) =
    ((registry.slot surface).submit handle).1.map .cpuBuffer := by
  simp only [report, call, submit, slot, Slot.submit]
  cases registry.pending[surface]? <;> rfl

/-- The pending presentation is of the handle, or it is not and nothing happens. -/
theorem pending_cases (registry : LiveCpuBufferLifetimeRegistry) (surface : SurfaceId)
    (handle : UInt64) :
    (∃ pending, registry.pending[surface]? = some pending ∧ pending.handle = handle ∧
      registry.retirePageFlip surface handle =
        (((pending.previousCommittedHandle.filter (· ≠ handle)).toList).map .cpuBuffer,
          ⟨registry.committed.insert surface handle, registry.pending.erase surface⟩) ∧
      registry.reject surface handle =
        (some (.cpuBuffer handle), ⟨registry.committed, registry.pending.erase surface⟩)) ∨
    (registry.slot surface).pending ≠ some handle ∧
      registry.retirePageFlip surface handle = ([], registry) ∧
      registry.reject surface handle = (none, registry) := by
  unfold slot retirePageFlip reject
  rcases hp : registry.pending[surface]? with _ | pending
  · exact .inr ⟨by simp, rfl, rfl⟩
  · by_cases hh : pending.handle = handle
    · refine .inl ⟨pending, rfl, hh, ?_, ?_⟩
      · simp only [hh, ne_eq, not_true_eq_false, if_false]
        cases pending.previousCommittedHandle.filter (· ≠ handle) <;> rfl
      · simp [hh]
    · exact .inr ⟨by simpa using hh, by simp [hh], by simp [hh]⟩

theorem getElem?_erase_surface {α : Type} (map : ExtTreeMap SurfaceId α)
    (surface other : SurfaceId) :
    (map.erase surface)[other]? = if surface = other then none else map[other]? := by
  simp [ExtTreeMap.getElem?_erase]

theorem getElem?_insert_surface {α : Type} (map : ExtTreeMap SurfaceId α)
    (surface other : SurfaceId) (a : α) :
    (map.insert surface a)[other]? = if surface = other then some a else map[other]? := by
  simp [ExtTreeMap.getElem?_insert]

theorem slot_submit : (registry.submit surface handle).2.slot other =
    if surface = other then ((registry.slot surface).submit handle).2 else registry.slot other := by
  simp only [submit, slot, getElem?_insert_surface]
  split
  · rename_i he
    rw [he]
    rfl
  · rfl

theorem slot_retire : (registry.retirePageFlip surface handle).2.slot other =
    if surface = other then ((registry.slot surface).retire handle).2 else registry.slot other := by
  rcases registry.pending_cases surface handle with ⟨pending, hp, hh, hr, -⟩ | ⟨hp, hr, -⟩
  · have hslot : (registry.slot surface).pending = some handle := by
      rw [slot, hp, ← hh]
      rfl
    rw [hr, Slot.retire, if_pos hslot]
    simp only [slot, getElem?_erase_surface, getElem?_insert_surface]
    split <;> rfl
  · rw [hr, Slot.retire, if_neg hp]
    split
    · rename_i he
      rw [he]
    · rfl

theorem report_retire (hk : registry.Kept owner) :
    registry.report (.retirePageFlip surface handle) =
      ((registry.slot surface).retire handle).1.map .cpuBuffer := by
  rcases registry.pending_cases surface handle with ⟨pending, hp, hh, hr, -⟩ | ⟨hp, hr, -⟩
  · have hslot : (registry.slot surface).pending = some handle := by
      rw [slot, hp, ← hh]
      rfl
    rw [report, call, hr, Slot.retire, if_pos hslot, hk.captured surface pending hp]
    rfl
  · rw [report, call, hr, Slot.retire, if_neg hp]
    rfl

theorem slot_reject : (registry.reject surface handle).2.slot other =
    if surface = other then ((registry.slot surface).reject handle).2 else registry.slot other := by
  rcases registry.pending_cases surface handle with ⟨pending, hp, hh, -, hr⟩ | ⟨hp, -, hr⟩
  · have hslot : (registry.slot surface).pending = some handle := by
      rw [slot, hp, ← hh]
      rfl
    rw [hr, Slot.reject, if_pos hslot]
    simp only [slot, getElem?_erase_surface]
    split
    · rename_i he
      rw [he]
      rfl
    · rfl
  · rw [hr, Slot.reject, if_neg hp]
    split
    · rename_i he
      rw [he]
    · rfl

theorem report_reject : registry.report (.reject surface handle) =
    ((registry.slot surface).reject handle).1.map .cpuBuffer := by
  rcases registry.pending_cases surface handle with ⟨pending, hp, hh, -, hr⟩ | ⟨hp, -, hr⟩
  · have hslot : (registry.slot surface).pending = some handle := by
      rw [slot, hp, ← hh]
      rfl
    rw [report, call, hr, Slot.reject, if_pos hslot]
    rfl
  · rw [report, call, hr, Slot.reject, if_neg hp]
    rfl

/-- A handle is live in the slot of its owner or nowhere. -/
theorem live_iff (hk : registry.Kept owner) :
    registry.Live (.cpuBuffer handle) ↔ (registry.slot (owner handle)).Holds handle := by
  constructor
  · rintro ⟨surface, h⟩
    rw [hk.owned surface handle h]
    exact h
  · exact fun h => ⟨_, h⟩

/-- The submitted handle belongs to its surface. -/
def OwnedBy (owner : UInt64 → SurfaceId) : LifetimeCall → Prop
  | .submit surface handle => owner handle = surface
  | _ => True

theorem kept_default : default.Kept owner := by
  constructor
  · intro surface pending h
    simp [default] at h
  · intro surface handle h
    simp [default, LiveOn] at h

theorem kept_step {call : LifetimeCall} (hk : registry.Kept owner) (hown : OwnedBy owner call) :
    (registry.step call).Kept owner := by
  cases call with
  | submit surface handle =>
    constructor
    · intro other pending h
      simp only [step, call, submit, getElem?_insert_surface] at h ⊢
      split at h
      · rename_i he
        cases h
        rw [he]
      · exact hk.captured other pending h
    · intro other held h
      rw [liveOn_iff, step, call, slot_submit] at h
      split at h
      · rename_i he
        rcases Slot.holds_submit h with h | rfl
        · exact (hk.owned surface held h).trans he
        · exact hown.trans he
      · exact hk.owned other held h
  | retirePageFlip surface handle =>
    constructor
    · intro other pending h
      rcases registry.pending_cases surface handle with ⟨_, _, _, hr, -⟩ | ⟨-, hr, -⟩
      · rw [step, call, hr] at h ⊢
        simp only [getElem?_erase_surface, getElem?_insert_surface] at h ⊢
        split at h
        · cases h
        · rename_i he
          rw [if_neg he]
          exact hk.captured other pending h
      · rw [step, call, hr] at h ⊢
        exact hk.captured other pending h
    · intro other held h
      rw [liveOn_iff, step, call, slot_retire] at h
      split at h
      · rename_i he
        exact (hk.owned surface held (Slot.holds_retire h)).trans he
      · exact hk.owned other held h
  | reject surface handle =>
    constructor
    · intro other pending h
      rcases registry.pending_cases surface handle with ⟨_, _, _, _, hr⟩ | ⟨-, -, hr⟩
      · rw [step, call, hr] at h ⊢
        simp only [getElem?_erase_surface] at h ⊢
        split at h
        · cases h
        · exact hk.captured other pending h
      · rw [step, call, hr] at h ⊢
        exact hk.captured other pending h
    · intro other held h
      rw [liveOn_iff, step, call, slot_reject] at h
      split at h
      · rename_i he
        exact (hk.owned surface held (Slot.holds_reject h)).trans he
      · exact hk.owned other held h
  | disconnect => exact kept_default

theorem exclusive_default (surface : SurfaceId) : (default.slot surface).Exclusive := by
  rintro handle ⟨h, -⟩
  simp [slot, default] at h

theorem exclusive_step {call : LifetimeCall} (hx : ∀ surface, (registry.slot surface).Exclusive)
    (hfresh : registry.Fresh call) (surface : SurfaceId) :
    ((registry.step call).slot surface).Exclusive := by
  cases call with
  | submit target handle =>
    rw [step, call, slot_submit]
    split
    · exact Slot.exclusive_submit hfresh
    · exact hx surface
  | retirePageFlip target handle =>
    rw [step, call, slot_retire]
    split
    · exact Slot.exclusive_retire (hx target)
    · exact hx surface
  | reject target handle =>
    rw [step, call, slot_reject]
    split
    · exact Slot.exclusive_reject (hx target)
    · exact hx surface
  | disconnect => exact exclusive_default surface

section Balance

open Lifetimes
open scoped Classical

variable {source : BufferSource} {call : LifetimeCall}

/-- Balance of one slot is balance of the registry. -/
theorem balanced_of_settles {result : List UInt64 × Slot} (hk : registry.Kept owner)
    (hk' : (registry.step call).Kept owner)
    (hslot : ∀ other, (registry.step call).slot other =
      if surface = other then result.2 else registry.slot other)
    (hreport : registry.report call = result.1.map .cpuBuffer)
    (hheld : ∀ handle ∈ result.1, (registry.slot surface).Holds handle)
    (hsettles : ∀ handle, source = .cpuBuffer handle →
      (registry.slot surface).Settles result handle) :
    Lifetimes.Balanced step report Live registry call source := by
  unfold Lifetimes.Balanced
  rw [hreport]
  have hinj : Function.Injective BufferSource.cpuBuffer := fun a b h => by cases h; rfl
  by_cases hcpu : ∃ handle, source = .cpuBuffer handle
  · obtain ⟨handle, rfl⟩ := hcpu
    rw [List.count_map_of_injective _ _ hinj]
    simp only [live_iff hk, live_iff hk', hslot]
    split
    · rename_i he
      rw [← he]
      exact hsettles handle rfl
    · rename_i he
      have hnone : result.1.count handle = 0 := by
        rw [List.count_eq_zero]
        exact fun hm => he (hk.owned surface handle (hheld handle hm)).symm
      rw [hnone, Nat.zero_add]
  · have hnone : (result.1.map BufferSource.cpuBuffer).count source = 0 := by
      rw [List.count_eq_zero]
      intro hm
      obtain ⟨handle, -, he⟩ := List.mem_map.mp hm
      exact hcpu ⟨handle, he.symm⟩
    have hlive (registry : LiveCpuBufferLifetimeRegistry) : ¬ registry.Live source := by
      intro h
      cases source with
      | cpuBuffer handle => exact hcpu ⟨handle, rfl⟩
      | none => exact h
      | xPixmap pixmap => exact h
      | dmaBuf handle => exact h
    rw [hnone, if_neg (hlive _), if_neg (hlive _)]

/-- Sorted, a handle that occurs twice does so in a row. -/
theorem destutter_sorted (handles : List UInt64) :
    (handles.mergeSort fun a b => a ≤ b).destutter (· ≠ ·) =
      (handles.mergeSort fun a b => a ≤ b).dedup := by
  refine List.Pairwise.destutter_eq_dedup (r := fun a b : UInt64 => a ≤ b) ?_
  have hsorted : (handles.mergeSort fun a b => a ≤ b).Pairwise
      fun a b => decide (a ≤ b) = true := by
    refine List.pairwise_mergeSort ?_ ?_ handles
    · intro a b c hab hbc
      exact decide_eq_true (UInt64.le_trans (of_decide_eq_true hab) (of_decide_eq_true hbc))
    · intro a b
      simpa using UInt64.le_total a b
  simpa only [decide_eq_true_eq] using hsorted

/-- A disconnect reports what is live. -/
theorem mem_disconnect : source ∈ registry.disconnect.1 ↔ registry.Live source := by
  simp only [disconnect, destutter_sorted, List.mem_map, List.mem_dedup, List.mem_mergeSort,
    List.mem_append, Prod.exists, ExtTreeMap.mem_toList_iff_getElem?_eq_some]
  constructor
  · rintro ⟨handle, ⟨surface, pending, hp, rfl⟩ | ⟨surface, committed, hc, rfl⟩, rfl⟩
    · exact ⟨surface, .inr (by rw [hp]; rfl)⟩
    · exact ⟨surface, .inl hc⟩
  · intro h
    cases source with
    | cpuBuffer handle =>
      obtain ⟨surface, hc | hp⟩ := h
      · exact ⟨handle, .inr ⟨surface, handle, hc, rfl⟩, rfl⟩
      · obtain ⟨pending, hp, he⟩ := Option.map_eq_some_iff.mp hp
        exact ⟨handle, .inl ⟨surface, pending, hp, he⟩, rfl⟩
    | none => exact h.elim
    | xPixmap pixmap => exact h.elim
    | dmaBuf handle => exact h.elim

theorem nodup_disconnect : registry.disconnect.1.Nodup := by
  simp only [disconnect, destutter_sorted]
  exact (List.nodup_dedup _).map fun a b h => by cases h; rfl

theorem not_live_default : ¬ default.Live source := by
  intro h
  cases source with
  | cpuBuffer handle =>
    obtain ⟨surface, h⟩ := h
    simp [LiveOn, default] at h
  | none => exact h
  | xPixmap pixmap => exact h
  | dmaBuf handle => exact h

/-- Every call that does not submit a live handle again is balanced for the handles it does not
submit. -/
theorem balanced (hk : registry.Kept owner) (hx : ∀ surface, (registry.slot surface).Exclusive)
    (hown : OwnedBy owner call) (hnot : ¬ call.Submits source) :
    Lifetimes.Balanced step report Live registry call source := by
  have hk' := kept_step hk hown
  cases call with
  | submit surface handle =>
    refine balanced_of_settles hk hk' (fun other => slot_submit) report_submit
      (fun other => Slot.holds_of_mem_submit) ?_
    rintro other rfl
    exact Slot.settles_submit (hx surface) fun he => hnot (congrArg BufferSource.cpuBuffer he.symm)
  | retirePageFlip surface handle =>
    exact balanced_of_settles hk hk' (fun other => slot_retire) (report_retire hk)
      (fun other => Slot.holds_of_mem_retire) fun other _ => Slot.settles_retire (hx surface)
  | reject surface handle =>
    exact balanced_of_settles hk hk' (fun other => slot_reject) report_reject
      (fun other => Slot.holds_of_mem_reject) fun other _ => Slot.settles_reject (hx surface)
  | disconnect =>
    unfold Lifetimes.Balanced
    have hnone : ¬ (registry.step .disconnect).Live source := not_live_default
    rw [if_neg hnone, Nat.add_zero]
    change registry.disconnect.1.count source = _
    by_cases hl : registry.Live source
    · rw [if_pos hl, List.count_eq_one_of_mem nodup_disconnect (mem_disconnect.mpr hl)]
    · rw [if_neg hl, List.count_eq_zero]
      exact fun hm => hl (mem_disconnect.mp hm)

end Balance

section Runs

open Run Lifetimes

variable {calls : List LifetimeCall}

/-- A handle is submitted for one surface only. -/
def OneSurface (calls : List LifetimeCall) : Prop :=
  ∀ surface surface' handle, .submit surface handle ∈ calls → .submit surface' handle ∈ calls →
    surface = surface'

theorem exists_owner (hone : OneSurface calls) : ∃ owner, ∀ call ∈ calls, OwnedBy owner call := by
  classical
  refine ⟨fun handle => if h : ∃ surface, .submit surface handle ∈ calls then h.choose
    else .invalid, ?_⟩
  intro call hcall
  cases call with
  | submit surface handle =>
    have h : ∃ surface, .submit surface handle ∈ calls := ⟨surface, hcall⟩
    rw [OwnedBy, dif_pos h]
    exact hone _ _ handle h.choose_spec hcall
  | retirePageFlip surface handle => trivial
  | reject surface handle => trivial
  | disconnect => trivial

theorem kept_exec (hown : ∀ call ∈ calls, OwnedBy owner call) :
    (exec step default calls).Kept owner := by
  induction calls using List.reverseRecOn with
  | nil => exact kept_default
  | append_singleton calls call ih =>
    rw [exec_snoc]
    exact kept_step (ih fun c hc => hown c (by simp [hc])) (hown call (by simp))

theorem exclusive_exec (hfresh : Guarded step Fresh default calls) (surface : SurfaceId) :
    ((exec step default calls).slot surface).Exclusive :=
  invariant (P := fun registry => ∀ surface, (registry.slot surface).Exclusive) exclusive_default
    (fun _ _ hfresh hx => exclusive_step hx hfresh) hfresh surface

/-- Only a submission makes a handle live. -/
theorem live_of_step {call : LifetimeCall} {source : BufferSource}
    (h : (registry.step call).Live source) : registry.Live source ∨ call.Submits source := by
  cases source with
  | none => exact h.elim
  | xPixmap pixmap => exact h.elim
  | dmaBuf handle => exact h.elim
  | cpuBuffer handle =>
    obtain ⟨surface, h⟩ := h
    rw [liveOn_iff] at h
    cases call with
    | submit target submitted =>
      rw [step, call, slot_submit] at h
      split at h
      · rcases Slot.holds_submit h with h | rfl
        · exact .inl ⟨target, h⟩
        · exact .inr rfl
      · exact .inl ⟨surface, h⟩
    | retirePageFlip target retired =>
      rw [step, call, slot_retire] at h
      split at h
      · exact .inl ⟨target, Slot.holds_retire h⟩
      · exact .inl ⟨surface, h⟩
    | reject target rejected =>
      rw [step, call, slot_reject] at h
      split at h
      · exact .inl ⟨target, Slot.holds_reject h⟩
      · exact .inl ⟨surface, h⟩
    | disconnect =>
      exact absurd (show default.Live (.cpuBuffer handle) from ⟨surface, h⟩) not_live_default

theorem live_of_submits {call : LifetimeCall} {source : BufferSource} (h : call.Submits source) :
    (registry.step call).Live source := by
  cases call with
  | submit surface handle =>
    cases h
    refine ⟨surface, ?_⟩
    rw [liveOn_iff, step, call, slot_submit, if_pos rfl]
    exact .inr rfl
  | retirePageFlip surface handle => exact h.elim
  | reject surface handle => exact h.elim
  | disconnect => exact h.elim

/-- What is live was submitted. -/
theorem submitted_of_live {source : BufferSource} (h : (exec step default calls).Live source) :
    ∃ call ∈ calls, call.Submits source := by
  induction calls using List.reverseRecOn with
  | nil => exact (not_live_default h).elim
  | append_singleton calls call ih =>
    rw [exec_snoc] at h
    rcases live_of_step h with h | h
    · obtain ⟨earlier, hm, hs⟩ := ih h
      exact ⟨earlier, List.mem_append_left _ hm, hs⟩
    · exact ⟨call, by simp, h⟩

open scoped Classical in
/-- From a submission of a handle on, as long as it is not submitted again, it is live or it was
released once. -/
theorem released_between {before between : List LifetimeCall} {call : LifetimeCall}
    {source : BufferSource} (hown : ∀ c ∈ before ++ call :: between, OwnedBy owner c)
    (hfresh : Guarded step Fresh default (before ++ call :: between))
    (hcall : call.Submits source) (hnot : ∀ c ∈ between, ¬ c.Submits source) :
    released step report source (exec step default (before ++ [call])) between +
      (if (exec step default (before ++ call :: between)).Live source then 1 else 0) = 1 := by
  have hlive : (exec step default (before ++ [call])).Live source := by
    rw [exec_snoc]
    exact live_of_submits hcall
  have hsplit (now later : List LifetimeCall) :
      before ++ call :: (now ++ later) = (before ++ [call] ++ now) ++ later := by simp
  have hbalanced : ∀ now next later, between = now ++ next :: later →
      Lifetimes.Balanced step report Live
        (exec step (exec step default (before ++ [call])) now) next source := by
    rintro now next later rfl
    rw [← exec_append]
    rw [hsplit] at hown hfresh
    exact balanced (kept_exec fun c hc => hown c (List.mem_append_left _ hc))
      (exclusive_exec hfresh.left) (hown next (by simp)) (hnot next (by simp))
  have hbalance := released_add_held hbalanced
  rwa [if_pos hlive, ← exec_append, List.append_assoc, List.singleton_append] at hbalance

/-- A fresh submission is of a handle that is live nowhere. -/
theorem not_live_of_fresh {call : LifetimeCall} {source : BufferSource} (hk : registry.Kept owner)
    (hown : OwnedBy owner call) (hfresh : registry.Fresh call) (hcall : call.Submits source) :
    ¬ registry.Live source := by
  cases call with
  | submit surface handle =>
    cases hcall
    rw [live_iff hk, show owner handle = surface from hown]
    exact hfresh
  | retirePageFlip surface handle => exact hcall.elim
  | reject surface handle => exact hcall.elim
  | disconnect => exact hcall.elim

/-- Only what was live is reported by a submission. -/
theorem live_of_report {call : LifetimeCall} {source : BufferSource} (hcall : call.Submits source)
    (hreport : source ∈ registry.report call) : registry.Live source := by
  cases call with
  | submit surface handle =>
    cases hcall
    rw [report_submit] at hreport
    obtain ⟨released, hreleased, he⟩ := List.mem_map.mp hreport
    cases he
    exact ⟨surface, Slot.holds_of_mem_submit hreleased⟩
  | retirePageFlip surface handle => exact hcall.elim
  | reject surface handle => exact hcall.elim
  | disconnect => exact hcall.elim

/-- The whole run: no report names a handle that is then still live, and each submitted handle is
released once before its next submission or in the final disconnect. -/
theorem lifetimes_iff (hone : OneSurface calls) :
    (NoneHeld step report Live default calls ∧
        OnceBetween step report LifetimeCall.Submits default (calls ++ [.disconnect])) ↔
      Guarded step Fresh default calls := by
  classical
  obtain ⟨owner, hown⟩ := exists_owner hone
  constructor
  · rintro ⟨hnone, honce⟩
    -- The first submission of a live handle breaks one of the two.
    have hprefix : ∀ before after, calls = before ++ after → Guarded step Fresh default before := by
      intro before
      induction before using List.reverseRecOn with
      | nil => exact fun _ _ => guarded_nil
      | append_singleton before call ih =>
        intro after he
        have he : calls = before ++ call :: after := by rw [he, List.append_assoc]; rfl
        have hbefore := ih (call :: after) he
        rw [guarded_snoc]
        refine ⟨hbefore, ?_⟩
        cases call with
        | retirePageFlip surface handle => trivial
        | reject surface handle => trivial
        | disconnect => trivial
        | submit surface handle =>
          rintro (hcommitted | hpending)
          · -- The handle is on screen: since its last submission it was not released.
            have hlive : (exec step default before).Live (.cpuBuffer handle) :=
              ⟨surface, .inl hcommitted⟩
            obtain ⟨pre, last, mid, rfl, hlast, hmid⟩ :=
              exists_last_taken (submitted_of_live hlive)
            have hreleased := released_between
              (fun c hc => hown c (by rw [he]; exact List.mem_append_left _ hc)) hbefore hlast hmid
            rw [if_pos hlive] at hreleased
            have hone := honce pre last (mid ++ .submit surface handle :: (after ++ [.disconnect]))
              (.cpuBuffer handle) (by simp [he]) hlast
            have hagain : (LifetimeCall.submit surface handle).Submits (.cpuBuffer handle) := rfl
            rw [takeWhile_of_taken hmid hagain] at hone
            omega
          · -- The handle waits to be shown: its own submission reports it.
            refine hnone before _ after he (.cpuBuffer handle) ?_ ⟨surface, .inr ?_⟩
            · obtain ⟨pending, hp, rfl⟩ := Option.map_eq_some_iff.mp hpending
              simp [report, call, submit, hp]
            · rw [exec_snoc]
              simp [step, call, submit]
    exact hprefix calls [] (List.append_nil _).symm
  · intro hfresh
    refine ⟨?_, ?_⟩
    · rintro before call after rfl source hreport
      have hk := kept_exec fun c hc => hown c (List.mem_append_left _ hc)
      have hcall := hown call (by simp)
      rw [exec_snoc]
      by_cases hsubmits : call.Submits source
      · have hnone := not_live_of_fresh hk hcall (hfresh before call after rfl) hsubmits
        exact absurd (live_of_report hsubmits hreport) hnone
      · exact (balanced hk (exclusive_exec hfresh.left) hcall hsubmits).not_held hreport
    · intro before call after source he hcall
      have hfresh : Guarded step Fresh default (before ++ call :: after) := by
        rw [← he]
        exact guarded_snoc.mpr ⟨hfresh, trivial⟩
      have hown : ∀ c ∈ before ++ call :: after, OwnedBy owner c := by
        rw [← he]
        intro c hc
        rcases List.mem_append.mp hc with hc | hc
        · exact hown c hc
        · rw [List.mem_singleton.mp hc]
          trivial
      obtain ⟨rest, hsplit, hrest⟩ : ∃ rest,
          after = after.takeWhile (fun c => ¬ c.Submits source) ++ rest ∧
            (rest = [] ∨ ∃ next rest', rest = next :: rest' ∧ next.Submits source) :=
        takeWhile_split after source
      generalize hbetween : after.takeWhile (fun c => ¬ c.Submits source) = between at hsplit ⊢
      have hnot : ∀ c ∈ between, ¬ c.Submits source := by
        rw [← hbetween]
        exact fun c hc => not_takes_of_mem_takeWhile hc
      subst hsplit
      have happend : before ++ call :: (between ++ rest) = before ++ call :: between ++ rest := by
        simp
      rw [happend] at hfresh hown
      have hreleased := released_between (fun c hc => hown c (List.mem_append_left _ hc))
        hfresh.left hcall hnot
      have hdead : ¬ (exec step default (before ++ call :: between)).Live source := by
        rcases hrest with rfl | ⟨next, rest', rfl, hnext⟩
        · -- The run ends with the disconnect.
          rw [List.append_nil] at he
          rw [← he, exec_snoc]
          exact not_live_default
        · exact not_live_of_fresh (kept_exec fun c hc => hown c (List.mem_append_left _ hc))
            (hown next (by simp)) (hfresh _ next rest' rfl) hnext
      rwa [if_neg hdead, Nat.add_zero] at hreleased

/-- A handle on screen is submitted once more and rejected. -/
def rejectedAgain : List LifetimeCall :=
  [.submit ⟨3, 1⟩ 11, .retirePageFlip ⟨3, 1⟩ 11, .submit ⟨3, 1⟩ 11, .reject ⟨3, 1⟩ 11]

theorem shown_handle_released : OneSurface rejectedAgain ∧
    (.cpuBuffer 11 ∈ report (exec step default (rejectedAgain.take 3)) (.reject ⟨3, 1⟩ 11) ∧
      (exec step default rejectedAgain).committedHandle ⟨3, 1⟩ = some 11) ∧
    ¬ NoneHeld step report Live default rejectedAgain ∧
    ¬ OnceBetween step report LifetimeCall.Submits default (rejectedAgain ++ [.disconnect]) := by
  have hreport : .cpuBuffer 11 ∈
      report (exec step default (rejectedAgain.take 3)) (.reject ⟨3, 1⟩ 11) := by decide +kernel
  have hshown : (exec step default rejectedAgain).committedHandle ⟨3, 1⟩ = some 11 := by
    decide +kernel
  refine ⟨?_, ⟨hreport, hshown⟩, ?_, ?_⟩
  · intro surface surface' handle h h'
    simp [rejectedAgain] at h h'
    rw [h.1, h'.1]
  · exact fun h => h _ _ [] rfl _ hreport ⟨⟨3, 1⟩, .inl hshown⟩
  · intro h
    have honce := h [] _ _ (.cpuBuffer 11) rfl rfl
    exact absurd honce (by decide +kernel)

theorem lifetimes_iff_rejected :
    let calls := [.submit ⟨3, 1⟩ 11, .retirePageFlip ⟨3, 1⟩ 11, .submit ⟨3, 1⟩ 12,
      .reject ⟨3, 1⟩ 12]
    NoneHeld step report Live default calls ∧
      OnceBetween step report LifetimeCall.Submits default (calls ++ [.disconnect]) := by
  refine (lifetimes_iff ?_).mpr (by decide +kernel)
  intro surface surface' handle h h'
  simp at h h'
  rcases h with h | h <;> rcases h' with h' | h' <;> rw [h.1, h'.1]

end Runs
end LiveCpuBufferLifetimeRegistry

end Sophia.Renderer
