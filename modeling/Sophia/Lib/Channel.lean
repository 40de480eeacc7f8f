import Mathlib.Data.List.Basic

/-! Bounded queues as `std::sync::mpsc::sync_channel` gives them to non-blocking users. -/
namespace Sophia

structure SyncChannel (capacity : ℕ) (α : Type*) where
  items : List α
  bounded : items.length ≤ capacity
  deriving DecidableEq

namespace SyncChannel

variable {capacity : ℕ} {α : Type*}

def empty : SyncChannel capacity α := ⟨[], Nat.zero_le _⟩

theorem room {channel : SyncChannel capacity α} {x : α} (h : channel.items.length < capacity) :
    (channel.items ++ [x]).length ≤ capacity := by
  rw [List.length_append]
  exact h

/-- `try_send`, with `none` for a full channel. -/
def trySend (channel : SyncChannel capacity α) (x : α) : Option (SyncChannel capacity α) :=
  if h : channel.items.length < capacity then some ⟨channel.items ++ [x], room h⟩
  else none

/-- `try_recv`, with `none` for an empty channel. -/
def tryRecv (channel : SyncChannel capacity α) : Option (α × SyncChannel capacity α) :=
  match channel.items, channel.bounded with
  | [], _ => none
  | x :: items, h => some (x, ⟨items, Nat.le_of_succ_le h⟩)

/-- What is left after `n` calls of `try_recv`; they return the first `n` items. -/
def skip (channel : SyncChannel capacity α) (n : ℕ) : SyncChannel capacity α :=
  ⟨channel.items.drop n, Nat.le_trans (List.drop_sublist n _).length_le channel.bounded⟩

/-- The second channel holds what the first does, then possibly more. -/
def Extends (channel channel' : SyncChannel capacity α) : Prop :=
  channel.items <+: channel'.items

variable {channel channel' channel'' : SyncChannel capacity α} {x : α}

theorem take_capacity : channel.items.take capacity = channel.items :=
  List.take_of_length_le channel.bounded

theorem Extends.refl : Extends channel channel := List.prefix_refl _

theorem Extends.trans (h : Extends channel channel') (h' : Extends channel' channel'') :
    Extends channel channel'' := List.IsPrefix.trans h h'

theorem Extends.mem (h : Extends channel channel') (hx : x ∈ channel.items) : x ∈ channel'.items :=
  h.subset hx

theorem extends_trySend (h : channel.trySend x = some channel') : Extends channel channel' := by
  unfold trySend at h
  split at h
  · cases h
    exact List.prefix_append _ _
  · cases h

theorem items_trySend (h : channel.trySend x = some channel') :
    channel'.items = channel.items ++ [x] := by
  unfold trySend at h
  split at h
  · cases h
    rfl
  · cases h

theorem length_of_trySend_eq_none (h : channel.trySend x = none) :
    channel.items.length = capacity := by
  unfold trySend at h
  split at h
  · cases h
  · rename_i hfull
    exact Nat.le_antisymm channel.bounded (Nat.le_of_not_lt hfull)

theorem items_of_tryRecv (h : channel.tryRecv = some (x, channel')) :
    channel.items = x :: channel'.items := by
  obtain ⟨items, hbounded⟩ := channel
  cases items with
  | nil => cases h
  | cons y items =>
    cases h
    rfl

end SyncChannel
end Sophia
