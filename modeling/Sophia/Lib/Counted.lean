import Mathlib.Data.List.Count
import Mathlib.Data.List.Nodup
import Std.Data.ExtTreeMap

/-! Tables of reference-counted entries that may be asked to go with their last use. -/
namespace Sophia

open Std

variable {κ ν : Type*} [Ord κ] [TransOrd κ]

/-- Every entry counts its uses, what is not there has none, and only what is used may be waiting
to go. -/
structure Counted (refs : ν → ℕ) (pending : ν → Bool) (table : ExtTreeMap κ ν) (uses : κ → ℕ) :
    Prop where
  counts : ∀ k, ((table[k]?).map refs).getD 0 = uses k
  used : ∀ (k : κ) v, table[k]? = some v → pending v = true → 0 < refs v

/-- What one operation does to a table: the entries that enter it and those that leave it. -/
structure Transfer [DecidableEq κ] (pending : ν → Bool) (table table' : ExtTreeMap κ ν) (entered left : List κ) :
    Prop where
  stays : ∀ (k : κ) v v', table[k]? = some v → table'[k]? = some v' → pending v = true →
    pending v' = true
  balance : ∀ k, (if k ∈ table then 1 else 0) + entered.count k =
    (if k ∈ table' then 1 else 0) + left.count k

variable {refs : ν → ℕ} {pending : ν → Bool} {table table' last : ExtTreeMap κ ν}
  {uses uses' : κ → ℕ} {entered left more : List κ} {k : κ} {v w : ν}

namespace Counted

theorem empty : Counted refs pending (∅ : ExtTreeMap κ ν) fun _ => 0 := by
  constructor
  · intro k
    simp
  · intro k v hget
    simp at hget

theorem congr (h : Counted refs pending table uses) (huses : ∀ k, uses' k = uses k) :
    Counted refs pending table uses' :=
  ⟨fun k => (h.counts k).trans (huses k).symm, h.used⟩

theorem refs_eq (h : Counted refs pending table uses) (hget : table[k]? = some v) :
    refs v = uses k := by
  have hk := h.counts k
  rwa [hget] at hk

/-- What is used is there. -/
theorem exists_of_used (h : Counted refs pending table uses) (hused : 0 < uses k) :
    ∃ v, table[k]? = some v := by
  cases hget : table[k]? with
  | some v => exact ⟨v, rfl⟩
  | none =>
    have hk := h.counts k
    rw [hget] at hk
    have hzero : 0 = uses k := hk
    omega

end Counted

variable [LawfulEqOrd κ] [DecidableEq κ]

omit [LawfulEqOrd κ] [DecidableEq κ] in
theorem mem_of_getElem? (hget : table[k]? = some v) : k ∈ table :=
  ExtTreeMap.mem_iff_isSome_getElem?.mpr (by rw [hget]; rfl)

omit [LawfulEqOrd κ] [DecidableEq κ] in
theorem size_insert_of_getElem? (hget : table[k]? = some v) :
    (table.insert k w).size = table.size := by
  rw [ExtTreeMap.size_insert, if_pos (ExtTreeMap.mem_iff_contains.mp (mem_of_getElem? hget))]

theorem getElem?_insert_eq (k' : κ) :
    (table.insert k v)[k']? = if k' = k then some v else table[k']? := by
  rw [ExtTreeMap.getElem?_insert]
  by_cases h : k' = k
  · simp [h]
  · have hne : k ≠ k' := Ne.symm h
    simp [h, hne]

theorem getElem?_erase_eq (k' : κ) :
    (table.erase k)[k']? = if k' = k then none else table[k']? := by
  rw [ExtTreeMap.getElem?_erase]
  by_cases h : k' = k
  · simp [h]
  · have hne : k ≠ k' := Ne.symm h
    simp [h, hne]

theorem erase_insert_self : (table.insert k v).erase k = table.erase k := by
  refine ExtTreeMap.ext_getElem? fun k' => ?_
  rw [getElem?_erase_eq, getElem?_erase_eq, getElem?_insert_eq]
  split <;> rfl

namespace Counted

theorem enter (h : Counted refs pending table uses) (hnew : table[k]? = none) (hrefs : refs v = 0)
    (hpending : pending v = false) : Counted refs pending (table.insert k v) uses := by
  constructor
  · intro k'
    rw [getElem?_insert_eq, ← h.counts k']
    split
    · rename_i hk
      rw [hk, hnew]
      exact hrefs
    · rfl
  · intro k' w hget
    rw [getElem?_insert_eq] at hget
    split at hget
    · cases hget
      rw [hpending]
      nofun
    · exact h.used k' w hget

/-- An entry is overwritten by one that counts its new uses. -/
theorem change (h : Counted refs pending table uses) (hused : pending v = true → 0 < refs v)
    (huses : ∀ k', uses' k' = if k' = k then refs v else uses k') :
    Counted refs pending (table.insert k v) uses' := by
  constructor
  · intro k'
    rw [getElem?_insert_eq, huses]
    split
    · rfl
    · exact h.counts k'
  · intro k' w hget
    rw [getElem?_insert_eq] at hget
    split at hget
    · cases hget
      exact hused
    · exact h.used k' w hget

theorem leave (h : Counted refs pending table uses)
    (huses : ∀ k', uses' k' = if k' = k then 0 else uses k') :
    Counted refs pending (table.erase k) uses' := by
  constructor
  · intro k'
    rw [getElem?_erase_eq, huses]
    split
    · rfl
    · exact h.counts k'
  · intro k' w hget
    rw [getElem?_erase_eq] at hget
    split at hget
    · cases hget
    · exact h.used k' w hget

end Counted

namespace Transfer

omit [LawfulEqOrd κ] in
theorem refl (table : ExtTreeMap κ ν) : Transfer pending table table [] [] := by
  refine ⟨fun k v v' hget hget' hpending => ?_, fun k => rfl⟩
  rw [hget] at hget'
  cases hget'
  exact hpending

omit [LawfulEqOrd κ] in
/-- What was waiting to go is gone exactly when nothing uses it any more. -/
theorem mem_iff (h : Transfer pending table table' entered left)
    (hcounted : Counted refs pending table' uses) (hget : table[k]? = some v)
    (hpending : pending v = true) : k ∈ table' ↔ 0 < uses k := by
  constructor
  · intro hmem
    have hget' := ExtTreeMap.getElem?_eq_some_getElem hmem
    rw [← hcounted.refs_eq hget']
    exact hcounted.used k _ hget' (h.stays k v _ hget hget' hpending)
  · intro hused
    obtain ⟨v', hget'⟩ := hcounted.exists_of_used hused
    exact mem_of_getElem? hget'

theorem enter (hnew : table[k]? = none) : Transfer pending table (table.insert k v) [k] [] := by
  constructor
  · intro k' w w' hget hget' hpending
    rw [getElem?_insert_eq] at hget'
    split at hget'
    · rename_i hk
      rw [hk, hnew] at hget
      cases hget
    · rw [hget] at hget'
      cases hget'
      exact hpending
  · intro k'
    by_cases hk : k' = k
    · have hmem : k ∉ table := fun hmem => by
        rw [ExtTreeMap.getElem?_eq_some_getElem hmem] at hnew
        cases hnew
      simp [hk, hmem]
    · have hne : k ≠ k' := Ne.symm hk
      simp [ExtTreeMap.mem_insert, hne]

theorem change (hget : table[k]? = some v) (hpending : pending v = true → pending w = true) :
    Transfer pending table (table.insert k w) [] [] := by
  constructor
  · intro k' u u' hu hu' hpending'
    rw [getElem?_insert_eq] at hu'
    split at hu'
    · rename_i hk
      rw [hk, hget] at hu
      cases hu
      cases hu'
      exact hpending hpending'
    · rw [hu] at hu'
      cases hu'
      exact hpending'
  · intro k'
    have hmem := mem_of_getElem? hget
    by_cases hk : k' = k
    · simp [hk, hmem]
    · have hne : k ≠ k' := Ne.symm hk
      simp [ExtTreeMap.mem_insert, hne]

theorem leave (hget : table[k]? = some v) : Transfer pending table (table.erase k) [] [k] := by
  constructor
  · intro k' u u' hu hu' hpending
    rw [getElem?_erase_eq] at hu'
    split at hu'
    · cases hu'
    · rw [hu] at hu'
      cases hu'
      exact hpending
  · intro k'
    have hmem := mem_of_getElem? hget
    by_cases hk : k' = k
    · simp [hk, hmem]
    · have hne : k ≠ k' := Ne.symm hk
      simp [ExtTreeMap.mem_erase, hne]

omit [LawfulEqOrd κ] in
/-- One operation after another that lets nothing in. -/
theorem trans (h : Transfer pending table table' entered left)
    (h' : Transfer pending table' last [] more) :
    Transfer pending table last entered (left ++ more) := by
  constructor
  · intro k v v' hget hlast hpending
    have hbalance := h'.balance k
    have hmem := mem_of_getElem? hlast
    have hmiddle : k ∈ table' := by
      by_contra hnot
      simp only [hmem, hnot, if_true, if_false, List.count_nil] at hbalance
      omega
    have hget' := ExtTreeMap.getElem?_eq_some_getElem hmiddle
    exact h'.stays k _ v' hget' hlast (h.stays k v _ hget hget' hpending)
  · intro k
    have hfirst := h.balance k
    have hsecond := h'.balance k
    rw [List.count_nil] at hsecond
    rw [List.count_append]
    omega

/-- Everything goes. -/
theorem clear : Transfer pending table ∅ [] table.keys := by
  constructor
  · intro k v v' hget hget'
    simp at hget'
  · intro k
    by_cases hmem : k ∈ table
    · have hcount : table.keys.count k = 1 := by
        refine List.count_eq_one_of_mem ?_ (ExtTreeMap.mem_keys.mpr hmem)
        exact ExtTreeMap.distinct_keys.imp fun h he => h (by simp [he])
      simp [hmem, hcount]
    · have hcount : table.keys.count k = 0 :=
        List.count_eq_zero.mpr fun h => hmem (ExtTreeMap.mem_keys.mp h)
      simp [hmem, hcount]

omit [LawfulEqOrd κ] in
/-- What is there afterwards was there before, or entered. -/
theorem of_mem (h : Transfer pending table table' entered left) (hmem : k ∈ table') :
    k ∈ table ∨ k ∈ entered := by
  have hbalance := h.balance k
  rw [if_pos hmem] at hbalance
  by_cases hk : k ∈ table
  · exact .inl hk
  · rw [if_neg hk] at hbalance
    refine .inr (List.count_pos_iff.mp ?_)
    omega

end Transfer

/-- The entry is there and not waiting to go. -/
def Live (pending : ν → Bool) (table : ExtTreeMap κ ν) (k : κ) : Prop :=
  ∃ v, table[k]? = some v ∧ pending v = false

namespace Live

variable {k' : κ}

omit [LawfulEqOrd κ] [DecidableEq κ] in
theorem mem (h : Live pending table k) : k ∈ table := by
  obtain ⟨v, hget, -⟩ := h
  exact mem_of_getElem? hget

omit [LawfulEqOrd κ] [DecidableEq κ] in
theorem insert_self (hpending : pending v = false) : Live pending (table.insert k v) k :=
  ⟨v, ExtTreeMap.getElem?_insert_self, hpending⟩

/-- Overwriting an entry that was not waiting to go by another such leaves all that is live. -/
theorem insert (h : Live pending table k') (hpending : Live pending table k → pending v = false) :
    Live pending (table.insert k v) k' := by
  obtain ⟨w, hget, hw⟩ := h
  by_cases hk : k' = k
  · subst hk
    exact insert_self (hpending ⟨w, hget, hw⟩)
  · exact ⟨w, by rw [getElem?_insert_eq, if_neg hk, hget], hw⟩

theorem erase (h : Live pending table k') (hne : k' ≠ k) : Live pending (table.erase k) k' := by
  obtain ⟨w, hget, hw⟩ := h
  exact ⟨w, by rw [getElem?_erase_eq, if_neg hne, hget], hw⟩

theorem insert_of_ne (h : Live pending table k') (hne : k' ≠ k) :
    Live pending (table.insert k v) k' := by
  obtain ⟨w, hget, hw⟩ := h
  exact ⟨w, by rw [getElem?_insert_eq, if_neg hne, hget], hw⟩

end Live
end Sophia
