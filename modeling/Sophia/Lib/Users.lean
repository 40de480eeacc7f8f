import Std.Data.ExtTreeMap
import Mathlib.Data.Nat.Basic

/-! Counting the entries of an ordered map that satisfy a predicate. -/
namespace Sophia.Users

open Std

variable {κ ν : Type*} [Ord κ] [TransOrd κ] [LawfulEqOrd κ]

def count (m : ExtTreeMap κ ν) (p : ν → Bool) : ℕ := (m.filter fun _ v => p v).size

variable {m : ExtTreeMap κ ν} {p : ν → Bool} {k : κ} {v w : ν}

@[simp] theorem count_empty : count (∅ : ExtTreeMap κ ν) p = 0 := by
  have h : (∅ : ExtTreeMap κ ν).filter (fun _ v => p v) = ∅ := by
    apply ExtTreeMap.ext_getElem?
    simp
  simp [count, h]

theorem filter_insert_pos (hv : p v = true) :
    (m.insert k v).filter (fun _ v => p v) = (m.filter fun _ v => p v).insert k v := by
  apply ExtTreeMap.ext_getElem?
  intro a
  by_cases h : k = a
  · subst h
    simp [hv]
  · simp [ExtTreeMap.getElem?_insert, h]

theorem filter_insert_neg (hv : p v = false) :
    (m.insert k v).filter (fun _ v => p v) = (m.filter fun _ v => p v).erase k := by
  apply ExtTreeMap.ext_getElem?
  intro a
  by_cases h : k = a
  · subst h
    simp [hv]
  · simp [ExtTreeMap.getElem?_insert, ExtTreeMap.getElem?_erase, h]

theorem filter_erase :
    (m.erase k).filter (fun _ v => p v) = (m.filter fun _ v => p v).erase k := by
  apply ExtTreeMap.ext_getElem?
  intro a
  by_cases h : k = a
  · subst h
    simp
  · simp [ExtTreeMap.getElem?_erase, h]

theorem mem_filter_iff_of_getElem? (h : m[k]? = some v) :
    k ∈ m.filter (fun _ v => p v) ↔ p v = true := by
  rw [ExtTreeMap.mem_iff_isSome_getElem?, ExtTreeMap.getElem?_filter', h]
  by_cases hv : p v <;> simp [Option.filter, hv]

theorem notMem_filter_of_getElem? (h : m[k]? = none) : k ∉ m.filter (fun _ v => p v) := by
  rw [ExtTreeMap.mem_iff_isSome_getElem?, ExtTreeMap.getElem?_filter', h]
  simp

/-- A fresh entry adds itself. -/
theorem count_insert_new (h : m[k]? = none) :
    count (m.insert k v) p = count m p + if p v then 1 else 0 := by
  have hk := notMem_filter_of_getElem? (p := p) h
  cases hv : p v with
  | true => simp [count, filter_insert_pos hv, ExtTreeMap.size_insert, hk]
  | false => simp [count, filter_insert_neg hv, ExtTreeMap.size_erase, hk]

/-- Overwriting an entry by one that counts the same changes nothing. -/
theorem count_insert_same (h : m[k]? = some v) (hp : p w = p v) :
    count (m.insert k w) p = count m p := by
  have hk := mem_filter_iff_of_getElem? (p := p) h
  cases hv : p v with
  | true =>
    rw [hv] at hp hk
    simp [count, filter_insert_pos hp, ExtTreeMap.size_insert, hk]
  | false =>
    rw [hv] at hp hk
    simp [count, filter_insert_neg hp, ExtTreeMap.size_erase, hk]

theorem count_erase (h : m[k]? = some v) :
    count m p = count (m.erase k) p + if p v then 1 else 0 := by
  have hk := mem_filter_iff_of_getElem? (p := p) h
  rw [count, count, filter_erase, ExtTreeMap.size_erase]
  cases hv : p v with
  | true =>
    rw [hv] at hk
    have hmem : k ∈ m.filter (fun _ v => p v) := hk.mpr rfl
    have hpos : 0 < (m.filter fun _ v => p v).size := by
      by_contra h0
      have hempty : (m.filter fun _ v => p v) = ∅ := by
        rw [← ExtTreeMap.isEmpty_iff, ExtTreeMap.isEmpty_eq_size_beq_zero]
        simp only [beq_iff_eq]
        omega
      simp [hempty] at hmem
    rw [if_pos (ExtTreeMap.mem_iff_contains.mp hmem), if_pos rfl]
    omega
  | false =>
    rw [hv] at hk
    simp [hk]

theorem count_filter_le (q : κ → ν → Bool) : count (m.filter q) p ≤ count m p := by
  have hswap : (m.filter q).filter (fun _ v => p v) = (m.filter fun _ v => p v).filter q := by
    apply ExtTreeMap.ext_getElem?
    intro k
    simp only [ExtTreeMap.getElem?_filter']
    cases m[k]? with
    | none => rfl
    | some v => cases hp : p v <;> cases hq : q k v <;> simp [Option.filter, hp, hq]
  rw [count, count, hswap]
  exact ExtTreeMap.size_filter_le_size

theorem count_erase_le (k : κ) : count (m.erase k) p ≤ count m p := by
  cases h : m[k]? with
  | none =>
    have he : m.erase k = m := by
      apply ExtTreeMap.ext_getElem?
      intro a
      rw [ExtTreeMap.getElem?_erase]
      split
      · rename_i ha
        rw [← LawfulEqOrd.eq_of_compare ha, h]
      · rfl
    rw [he]
  | some v =>
    rw [count_erase h]
    exact Nat.le_add_right _ _

theorem count_pos (h : m[k]? = some v) (hv : p v = true) : 0 < count m p := by
  rw [count_erase h, hv]
  simp

end Sophia.Users
