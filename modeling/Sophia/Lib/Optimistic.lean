import Mathlib.Data.Set.BooleanAlgebra
import Mathlib.Data.Set.Disjoint
import Mathlib.Order.CompletePartialOrder

/-!
Optimistic concurrency over a store of optional values: a patch remembers the
snapshot it was computed from and commits only where that snapshot still holds.
-/
namespace Sophia.Optimistic

variable {κ ν : Type*}

/-- A partial update together with the snapshot it was computed from. -/
structure Patch (κ ν : Type*) where
  touched : Set κ
  baseline : κ → Option ν
  candidate : κ → Option ν

namespace Patch

/-- The snapshot still describes every touched key. -/
def Current (p : Patch κ ν) (store : κ → Option ν) : Prop :=
  ∀ k ∈ p.touched, p.baseline k = store k

open Classical in
noncomputable def commit (p : Patch κ ν) (store : κ → Option ν) : κ → Option ν :=
  if p.Current store then fun k => if k ∈ p.touched then p.candidate k else store k else store

/-- The candidate outranks the snapshot at every touched key. -/
def Advances (rank : Option ν → ℕ) (p : Patch κ ν) : Prop :=
  ∀ k ∈ p.touched, rank (p.baseline k) < rank (p.candidate k)

variable {p q : Patch κ ν} {store later : κ → Option ν} {k : κ} {rank : Option ν → ℕ}

theorem commit_touched (h : p.Current store) (hk : k ∈ p.touched) :
    p.commit store k = p.candidate k := by
  simp [commit, h, hk]

theorem commit_untouched (hk : k ∉ p.touched) : p.commit store k = store k := by
  unfold commit
  split <;> simp [hk]

theorem commit_stale (h : ¬ p.Current store) : p.commit store = store := by
  simp [commit, h]

theorem Advances.rank_lt_commit (hp : p.Advances rank) (h : p.Current store)
    (hk : k ∈ p.touched) : rank (store k) < rank (p.commit store k) := by
  rw [commit_touched h hk, ← h k hk]
  exact hp k hk

/-- No advancing patch ever lowers the rank of any key. -/
theorem Advances.rank_le_commit (hp : p.Advances rank) (store : κ → Option ν) (k : κ) :
    rank (store k) ≤ rank (p.commit store k) := by
  by_cases h : p.Current store
  · by_cases hk : k ∈ p.touched
    · exact (hp.rank_lt_commit h hk).le
    · rw [commit_untouched hk]
  · rw [commit_stale h]

/-- Once a patch has committed at a key, ranks only grow, so no patch computed
from an agreeing snapshot of that key is current again. -/
theorem Advances.not_current_later (hp : p.Advances rank) (h : p.Current store)
    (hk : k ∈ p.touched) (hmono : rank (p.commit store k) ≤ rank (later k))
    (hq : k ∈ q.touched) (hagree : p.baseline k = q.baseline k) : ¬ q.Current later := by
  intro hc
  have hlt := hp.rank_lt_commit h hk
  have hb : store k = later k := by rw [← h k hk, hagree, hc k hq]
  rw [hb] at hlt
  omega

/-- A disjoint patch does not disturb the snapshot. -/
theorem current_commit_iff (hd : Disjoint p.touched q.touched) :
    q.Current (p.commit store) ↔ q.Current store := by
  have hk : ∀ k ∈ q.touched, p.commit store k = store k := fun k hq =>
    commit_untouched (Set.disjoint_right.mp hd hq)
  constructor
  · intro h k hq
    rw [h k hq, hk k hq]
  · intro h k hq
    rw [h k hq, hk k hq]

theorem commit_comm (hd : Disjoint p.touched q.touched) :
    q.commit (p.commit store) = p.commit (q.commit store) := by
  have hpq : q.Current (p.commit store) ↔ q.Current store := current_commit_iff hd
  have hqp : p.Current (q.commit store) ↔ p.Current store := current_commit_iff hd.symm
  funext k
  by_cases hp : k ∈ p.touched
  · have hq : k ∉ q.touched := Set.disjoint_left.mp hd hp
    rw [commit_untouched hq]
    by_cases hc : p.Current store
    · rw [commit_touched hc hp, commit_touched (hqp.mpr hc) hp]
    · rw [commit_stale hc, commit_stale (mt hqp.mp hc), commit_untouched hq]
  · rw [commit_untouched (p := p) hp]
    by_cases hq : k ∈ q.touched
    · by_cases hc : q.Current store
      · rw [commit_touched (hpq.mpr hc) hq, commit_touched hc hq]
      · rw [commit_stale (mt hpq.mp hc), commit_stale hc, commit_untouched hp]
    · rw [commit_untouched hq, commit_untouched hp, commit_untouched hq]

end Patch
end Sophia.Optimistic
